import DotMatrix.Cpu.Arithmetic
import DotMatrix.Cpu.Basic

/-!
What each instruction does to the machine, given the value of its immediate operand. The program
counter is already past the instruction.
-/

namespace DotMatrix.Machine

/-- Puts a result into `A` with the flags it left. -/
def setA (m : Machine) (result : Byte × Flags) : Machine :=
  { m with cpu.regs.a := result.1, cpu.regs.flags := result.2 }

/-- Puts a result where it came from, with the flags it left. The flags go last, so they are those
of the result also when the place is in a device. -/
def setPlace (m : Machine) (place : Place) (result : Byte × Flags) : Machine :=
  { m.writePlace place result.1 with cpu.regs.flags := result.2 }

def jumpTo (m : Machine) (target : Word) : Machine :=
  { m with cpu.regs.pc := target }

/-- Goes on elsewhere and leaves the way back on the stack. -/
def callTo (m : Machine) (target : Word) : Machine :=
  (m.push m.cpu.regs.pc).jumpTo target

def returnBack (m : Machine) : Machine :=
  let (target, m) := m.pop
  m.jumpTo target

/-- An address in the last page. -/
def highAddress (offset : Byte) : Word :=
  .ofBytes 0xFF offset

def execute (m : Machine) (i : Instruction) (operand : Word) : Machine :=
  let regs := m.cpu.regs
  match i with
  | .nop | .stop | .extended => m
  | .halt => { m with cpu.resumeAt := some regs.pc }
  | .di => { m with cpu.regs.ime := false }
  | .ei => { m with cpu.regs.ime := true }
  | .load dst src => m.writePlace dst (m.readPlace src)
  | .loadImmediate dst => m.writePlace dst operand.low
  | .loadPair dst => m.setRegs (regs.writePair dst operand)
  | .storeAt pointer =>
    (m.setRegs (regs.stepPointer pointer)).store (regs.pointee pointer) regs.a
  | .loadAt pointer =>
    let value := m.bus.read (regs.pointee pointer)
    m.setRegs { regs.stepPointer pointer with a := value }
  | .storeDirect => m.store operand regs.a
  | .loadDirect => m.setRegs { regs with a := m.bus.read operand }
  | .storeHigh => m.store (highAddress operand.low) regs.a
  | .loadHigh => m.setRegs { regs with a := m.bus.read (highAddress operand.low) }
  | .storeHighC => m.store (highAddress regs.c) regs.a
  | .loadHighC => m.setRegs { regs with a := m.bus.read (highAddress regs.c) }
  | .storeSp => { m with bus := m.bus.writeWord operand regs.sp }
  | .moveHlToSp => m.setRegs { regs with sp := regs.hl }
  | .loadSpOffset =>
    let (sum, flags) := Cpu.offsetWord regs.sp operand.low
    m.setRegs { regs.setHl sum with flags := flags }
  | .addSpOffset =>
    let (sum, flags) := Cpu.offsetWord regs.sp operand.low
    m.setRegs { regs with sp := sum, flags := flags }
  | .inc place => m.setPlace place (Cpu.increment (m.readPlace place) regs.flags)
  | .dec place => m.setPlace place (Cpu.decrement (m.readPlace place) regs.flags)
  | .incPair pair => m.setRegs (regs.writePair pair (regs.readPair pair + 1))
  | .decPair pair => m.setRegs (regs.writePair pair (regs.readPair pair - 1))
  | .addHl pair =>
    let (sum, flags) := Cpu.addWords regs.hl (regs.readPair pair) regs.flags
    m.setRegs { regs.setHl sum with flags := flags }
  | .arithmetic op src => m.setA (Cpu.arithmetic op regs.a (m.readPlace src) regs.flags.carry)
  | .arithmeticImmediate op => m.setA (Cpu.arithmetic op regs.a operand.low regs.flags.carry)
  | .rlca => m.setA (Cpu.rotateA .rlc regs.a regs.flags.carry)
  | .rrca => m.setA (Cpu.rotateA .rrc regs.a regs.flags.carry)
  | .rla => m.setA (Cpu.rotateA .rl regs.a regs.flags.carry)
  | .rra => m.setA (Cpu.rotateA .rr regs.a regs.flags.carry)
  | .daa => m.setA (Cpu.decimalAdjust regs.a regs.flags)
  | .cpl => m.setA (~~~regs.a, { regs.flags with subtract := true, halfCarry := true })
  | .scf =>
    m.setA (regs.a, { regs.flags with subtract := false, halfCarry := false, carry := true })
  | .ccf =>
    m.setA (regs.a,
      { regs.flags with subtract := false, halfCarry := false, carry := !regs.flags.carry })
  | .jumpRelative cond =>
    if cond.holds regs.flags then m.jumpTo (regs.pc + operand.low.signExtend) else m
  | .jump cond => if cond.holds regs.flags then m.jumpTo operand else m
  | .jumpHl => m.jumpTo regs.hl
  | .call cond => if cond.holds regs.flags then m.callTo operand else m
  | .ret cond => if cond.holds regs.flags then m.returnBack else m
  | .reti => { m.returnBack with cpu.regs.ime := true }
  | .rst n => m.callTo (UInt16.ofNat (8 * n.val))
  | .push pair => m.push (regs.readStackPair pair)
  | .pop pair =>
    let (value, m) := m.pop
    m.setRegs (m.cpu.regs.writeStackPair pair value)
  | .shift op place => m.setPlace place (Cpu.shift op (m.readPlace place) regs.flags.carry)
  | .testBit n place =>
    m.setRegs { regs with flags := Cpu.testBit n (m.readPlace place) regs.flags }
  | .resetBit n place => m.writePlace place (Cpu.resetBit n (m.readPlace place))
  | .setBit n place => m.writePlace place (Cpu.setBit n (m.readPlace place))

end DotMatrix.Machine
