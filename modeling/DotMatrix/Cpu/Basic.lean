import DotMatrix.Bus.Basic
import DotMatrix.CycleCount
import DotMatrix.Instruction.Basic
import DotMatrix.Registers

/-!
The processor, and the processor with the bus it drives: fetching from the program, the stack, and
the places operands are in.
-/

namespace DotMatrix

structure Cpu where
  regs : Registers
  cycles : CycleCount
  /-- While the processor sleeps, where it will go on. -/
  resumeAt : Option Word
  deriving DecidableEq, Repr

namespace Cpu

def postBoot (colour : Bool) : Cpu :=
  ⟨.postBoot colour, .zero, none⟩

/-- Does the processor sleep until an interrupt is requested? -/
def halted (cpu : Cpu) : Bool := cpu.resumeAt.isSome

def wake (cpu : Cpu) : Cpu := { cpu with resumeAt := none }

/-- Puts the registers where the boot program leaves them, counts the cycles from zero, and wakes the
processor. -/
def reset (cpu : Cpu) (colour : Bool) : Cpu :=
  { cpu with regs := .postBoot colour, cycles := .zero }.wake

end Cpu

structure Machine where
  cpu : Cpu
  bus : Bus

namespace Machine

def setRegs (m : Machine) (regs : Registers) : Machine :=
  { m with cpu.regs := regs }

def store (m : Machine) (addr : Word) (value : Byte) : Machine :=
  { m with bus := m.bus.write addr value }

/-- Adds to the cycles of the instruction at hand. -/
def spend (m : Machine) (cycles : Nat) : Machine :=
  { m with cpu.cycles := m.cpu.cycles.add cycles }

def fetch (m : Machine) : Byte × Machine :=
  let pc := m.cpu.regs.pc
  (m.bus.read pc, { m with cpu.regs.pc := pc + 1 })

/-- The next word of the program, its low byte first. -/
def fetchWord (m : Machine) : Word × Machine :=
  let (low, m) := m.fetch
  let (high, m) := m.fetch
  (.ofBytes high low, m)

/-- An immediate operand of the given form; a byte counts as a word. -/
def fetchImmediate (m : Machine) (form : Immediate) : Word × Machine :=
  match form.length with
  | 0 => (0, m)
  | 1 =>
    let (byte, m) := m.fetch
    (.ofBytes 0 byte, m)
  | _ => m.fetchWord

/-- Pushes a word, its high byte first. -/
def push (m : Machine) (value : Word) : Machine :=
  let sp := m.cpu.regs.sp
  let m := m.store (sp - 1) value.high
  let m := m.store (sp - 2) value.low
  { m with cpu.regs.sp := sp - 2 }

def pop (m : Machine) : Word × Machine :=
  let sp := m.cpu.regs.sp
  (m.bus.readWord sp, { m with cpu.regs.sp := sp + 2 })

def readPlace (m : Machine) (place : Place) : Byte :=
  match place with
  | .b => m.cpu.regs.b
  | .c => m.cpu.regs.c
  | .d => m.cpu.regs.d
  | .e => m.cpu.regs.e
  | .h => m.cpu.regs.h
  | .l => m.cpu.regs.l
  | .atHl => m.bus.read m.cpu.regs.hl
  | .a => m.cpu.regs.a

def writePlace (m : Machine) (place : Place) (value : Byte) : Machine :=
  match place with
  | .b => { m with cpu.regs.b := value }
  | .c => { m with cpu.regs.c := value }
  | .d => { m with cpu.regs.d := value }
  | .e => { m with cpu.regs.e := value }
  | .h => { m with cpu.regs.h := value }
  | .l => { m with cpu.regs.l := value }
  | .atHl => m.store m.cpu.regs.hl value
  | .a => { m with cpu.regs.a := value }

end Machine

namespace Registers

def readPair (r : Registers) : Pair → Word
  | .bc => r.bc
  | .de => r.de
  | .hl => r.hl
  | .sp => r.sp

def writePair (r : Registers) (pair : Pair) (value : Word) : Registers :=
  match pair with
  | .bc => r.setBc value
  | .de => r.setDe value
  | .hl => r.setHl value
  | .sp => { r with sp := value }

def readStackPair (r : Registers) : StackPair → Word
  | .bc => r.bc
  | .de => r.de
  | .hl => r.hl
  | .af => r.af

def writeStackPair (r : Registers) (pair : StackPair) (value : Word) : Registers :=
  match pair with
  | .bc => r.setBc value
  | .de => r.setDe value
  | .hl => r.setHl value
  | .af => r.setAf value

def pointee (r : Registers) : Pointer → Word
  | .bc => r.bc
  | .de => r.de
  | .hlUp | .hlDown => r.hl

def stepPointer (r : Registers) : Pointer → Registers
  | .bc | .de => r
  | .hlUp => r.setHl (r.hl + 1)
  | .hlDown => r.setHl (r.hl - 1)

end Registers

def Condition.holds (cond : Condition) (flags : Flags) : Bool :=
  match cond with
  | .always => true
  | .notZero => !flags.zero
  | .zero => flags.zero
  | .notCarry => !flags.carry
  | .carry => flags.carry

/-- The machine cycles of an instruction that finds the given flags. -/
def Instruction.cycles (i : Instruction) (flags : Flags) : Nat :=
  match i.branch? with
  | some cond => if cond.holds flags then i.takenCycles else i.baseCycles
  | none => i.baseCycles

end DotMatrix
