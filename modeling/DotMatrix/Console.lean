import DotMatrix.Cpu.Step
import DotMatrix.Snapshot

/-!
The console: the processor and the bus, advanced together one step of the processor at a time.

When the processor meets an undefined opcode the console is stuck: it refuses to go on until a
cartridge is put in, it is reset, or a snapshot is restored.
-/

namespace DotMatrix

structure Console extends Machine where
  /-- The undefined opcode the console is stuck at, and its address. -/
  stuckAt : Option (Byte × Word)

namespace Console

def cartridge (c : Console) : Option Cartridge :=
  c.bus.slot.map (·.cartridge)

def wantsColour (c : Console) : Bool :=
  match c.cartridge with
  | some cartridge => cartridge.header.wantsColour
  | none => false

/-- The registers of the LCD controller as the boot program leaves them, and no interrupt
enabled. -/
def bootRegisters (bus : Bus) : Bus :=
  [(0xFF40, 0x91), (0xFF47, 0xFC), (0xFF48, 0xFF), (0xFF49, 0xFF), (0xFFFF, 0x00)].foldl
    (fun bus (addr, value) => bus.write addr value) bus

/-- The state after the boot program. The cartridge stays in the slot and the cable in its
port. -/
def reset (c : Console) : Console :=
  { cpu := c.cpu.reset c.wantsColour
    bus := bootRegisters c.bus.reset
    stuckAt := none }

def initial (now : UInt64) : Console :=
  reset { cpu := .postBoot false, bus := .initial now, stuckAt := none }

/-- Puts a cartridge in and starts over with it. -/
def insert (c : Console) (cartridge : Cartridge) : Console :=
  reset { c with bus.slot := some (.insert cartridge c.bus.now) }

/-- Reads an image as a cartridge and puts that in. -/
def load (c : Console) (image : Array Byte) : Except Failure Console := do
  return c.insert (← Cartridge.ofImage image)

/-- One step of the processor, and as much time for the LCD controller and the timer. The answer is
the number of machine cycles. -/
def dispatch (c : Console) : Console × Except Failure Nat :=
  match c.stuckAt with
  | some (opcode, pc) => (c, .error (.stuck opcode pc))
  | none =>
    if c.bus.slot.isNone then (c, .error .emptySlot)
    else
      match c.toMachine.step with
      | (m, .ok cycles) => ({ m with bus := m.bus.elapse cycles, stuckAt := none }, .ok cycles)
      | (m, .error failure) =>
        let stuckAt :=
          match failure with
          | .undefinedOpcode opcode pc => some (opcode, pc)
          | _ => none
        ({ m with stuckAt := stuckAt }, .error failure)

/-- Sets the wall time that the clock of a cartridge finds. -/
def setNow (c : Console) (now : UInt64) : Console :=
  { c with bus.now := now }

/-- One step while the wall clock goes on: `clock` gives the time that it shows after so many cycles. -/
def dispatchAt (clock : Nat → UInt64) (c : Console) : Console × Except Failure Nat :=
  (c.setNow (clock c.cpu.cycles.total)).dispatch

inductive FrameEnd where
  | flushed
  /-- The display has been off for the time of a frame, and the old one is still shown. -/
  | dark
  | failed (failure : Failure)
  /-- The steps that were allowed are used up. -/
  | unfinished
  deriving DecidableEq, Repr

/-- Steps until a frame is complete, or until the display has been off for the time of a frame without
a break; `dark` counts the cycles it has been off so far. A program that keeps switching the display
can put off both, so the number of steps is limited. -/
def runFrameBy (step : Console → Console × Except Failure Nat) (limit dark : Nat) (c : Console) :
    Console × FrameEnd :=
  match limit with
  | 0 => (c, .unfinished)
  | limit + 1 =>
    match step c with
    | (c, .error failure) => (c, .failed failure)
    | (c, .ok cycles) =>
      if c.bus.lcd.flushed then (c, .flushed)
      else if c.bus.lcd.enabled then runFrameBy step limit 0 c
      else if Screen.frameCycles ≤ dark + cycles then (c, .dark)
      else runFrameBy step limit (dark + cycles) c

/-- Runs for a frame at the wall time there is. -/
def runFrame (limit dark : Nat) (c : Console) : Console × FrameEnd :=
  c.runFrameBy dispatch limit dark

theorem runFrame_zero (dark : Nat) (c : Console) : c.runFrame 0 dark = (c, .unfinished) := rfl

theorem runFrame_succ (limit dark : Nat) (c : Console) :
    c.runFrame (limit + 1) dark =
      match c.dispatch with
      | (c, .error failure) => (c, .failed failure)
      | (c, .ok cycles) =>
        if c.bus.lcd.flushed then (c, .flushed)
        else if c.bus.lcd.enabled then c.runFrame limit 0
        else if Screen.frameCycles ≤ dark + cycles then (c, .dark)
        else c.runFrame limit (dark + cycles) := rfl

/-- Runs for a frame while the wall clock goes on. -/
def runFrameAt (clock : Nat → UInt64) (limit dark : Nat) (c : Console) : Console × FrameEnd :=
  c.runFrameBy (dispatchAt clock) limit dark

/-- Presses a key. Only a key that was up requests an interrupt. -/
def keyDown (c : Console) (key : Key) : Console :=
  let (joypad, wasUp) := c.bus.joypad.press key
  { c with bus := { c.bus with joypad := joypad }.requestIf wasUp .joypad }

def keyUp (c : Console) (key : Key) : Console :=
  { c with bus.joypad := c.bus.joypad.release key }

def plug (c : Console) (link : Link) : Console :=
  { c with bus.serial := c.bus.serial.plug link }

def snapshot (c : Console) : Snapshot :=
  { cpu := .ofRegisters c.cpu.regs
    lcd := c.bus.lcd.image
    ramBanks :=
      match c.bus.slot with
      | some slot => slot.ram.contents
      | none => #[] }

/-- Puts the console where a snapshot was taken. A snapshot that does not fit changes nothing; one
that does also wakes the processor and frees a console that is stuck. -/
def restore (c : Console) (s : Snapshot) : Except Failure Console :=
  match Snapshot.bankFlaw? c.bus.slot s.ramBanks with
  | some flaw => .error (.badSnapshot flaw)
  | none => do
    let lcd ← c.bus.lcd.restore s.lcd
    return {
      cpu := { c.cpu with regs := s.cpu.registers, resumeAt := none }
      bus := { c.bus with
        lcd := lcd
        slot := c.bus.slot.map fun slot => { slot with ram := slot.ram.fill s.ramBanks } }
      stuckAt := none }

end Console

end DotMatrix
