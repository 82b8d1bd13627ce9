import DotMatrix.Instruction.Assembly
import DotMatrix.Main
import DotMatrix.Operation
import DotMatrix.Proofs.Timer
import DotMatrix.Proofs.Cartridge.Slot
import DotMatrix.Proofs.Lcd.Write
import DotMatrix.Proofs.Cpu.Step
import DotMatrix.Proofs.Bus.Write
import DotMatrix.Proofs.Console.Dispatch
import DotMatrix.Proofs.Snapshot.Restore
import DotMatrix.Proofs.Console.Reachable
import DotMatrix.Proofs.Console.Lockstep
import DotMatrix.Proofs.Console.Flicker
import DotMatrix.Proofs.Snapshot.RoundTrip
import DotMatrix.Proofs.Console.Failures
import DotMatrix.Proofs.Console.Reset
import DotMatrix.Proofs.Console.RomWindows
import DotMatrix.Proofs.Console.Interrupts
import DotMatrix.Proofs.Checked.Basic
import DotMatrix.Proofs.Checked.Lcd
import DotMatrix.Proofs.Checked.Cartridge
import DotMatrix.Proofs.Checked.Bus
import DotMatrix.Proofs.Checked.Cpu
import DotMatrix.Proofs.Checked.Console
import DotMatrix.Proofs.Checked.Operation
import DotMatrix.Proofs.Cartridge.ClockTicks
import DotMatrix.Proofs.Cartridge.History
import DotMatrix.Proofs.Cartridge.RamStore
import DotMatrix.Proofs.Console.SlotHistory
import DotMatrix.Proofs.Console.RamStore
import DotMatrix.Proofs.Console.ClockSnapshot
import DotMatrix.Proofs.Lcd.WholeFrames
import DotMatrix.Proofs.Lcd.Course
import DotMatrix.Proofs.Snapshot.Place
import DotMatrix.Proofs.Console.SerialLog
import DotMatrix.Proofs.Console.FrameByFrame
import DotMatrix.Proofs.Headless.Ready
import DotMatrix.Proofs.Headless.Session
import DotMatrix.Proofs.Headless.Files
import DotMatrix.Proofs.Headless.Battery
import DotMatrix.Proofs.Headless.Launches
import DotMatrix.Proofs.Bus.Isolation
import DotMatrix.Proofs.Console.Isolation
import DotMatrix.Proofs.Lcd.Events
import DotMatrix.Proofs.Cartridge.SwitchedBank
import DotMatrix.Proofs.Console.SwitchedBank
import DotMatrix.Proofs.Console.Retimed
import DotMatrix.Proofs.Console.Alike
import DotMatrix.Proofs.Console.WallTime
import DotMatrix.Proofs.Lcd.Batches
import DotMatrix.Proofs.Lcd.PixelRule
import DotMatrix.Proofs.Lcd.Composition
import DotMatrix.Proofs.Cpu.Sleep
import DotMatrix.Proofs.Cpu.Service
import DotMatrix.Proofs.Console.SleepFlag
import DotMatrix.Proofs.Console.Sleep
import DotMatrix.Proofs.Timer.Edges
import DotMatrix.Proofs.Cpu.OpcodeTable
import DotMatrix.Proofs.Cpu.Frame
import DotMatrix.Proofs.Cpu.LongArithmetic
import DotMatrix.Proofs.Cpu.Decimal
import DotMatrix.Proofs.Cpu.WordAdditions
import DotMatrix.Proofs.Cpu.Stack
import DotMatrix.Proofs.Bus.Transfer
import DotMatrix.Proofs.Serial.Dialogue
import DotMatrix.Proofs.Cartridge.Calendar
import DotMatrix.Proofs.Cartridge.Checksum
import DotMatrix.Proofs.Lcd.Painter
