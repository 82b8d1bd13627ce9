/-!
The instructions of the processor by what they do. An instruction's immediate operand is not part
of it: it follows in the program, and `Instruction.immediate` says in which form.
-/

namespace DotMatrix

/-- Where an 8-bit operand is: a register, or the byte that `HL` points to. -/
inductive Place where
  | b | c | d | e | h | l | atHl | a
  deriving DecidableEq, Repr

inductive Pair where
  | bc | de | hl | sp
  deriving DecidableEq, Repr

/-- A 16-bit register that can go on the stack. -/
inductive StackPair where
  | bc | de | hl | af
  deriving DecidableEq, Repr

/-- A pointer through which `A` is loaded or stored; `HL` may step up or down afterwards. -/
inductive Pointer where
  | bc | de | hlUp | hlDown
  deriving DecidableEq, Repr

inductive Condition where
  | always | notZero | zero | notCarry | carry
  deriving DecidableEq, Repr

/-- The operations between `A` and another byte. -/
inductive Arithmetic where
  | add | adc | sub | sbc | and | xor | or | cp
  deriving DecidableEq, Repr

inductive Shift where
  | rlc | rrc | rl | rr | sla | sra | swap | srl
  deriving DecidableEq, Repr

inductive Instruction where
  | nop
  | stop
  | halt
  | di
  | ei
  /-- The byte after this one selects an instruction of the second page. -/
  | extended
  | load (dst src : Place)
  | loadImmediate (dst : Place)
  | loadPair (dst : Pair)
  /-- Stores `A` where the pointer points. -/
  | storeAt (pointer : Pointer)
  | loadAt (pointer : Pointer)
  /-- Stores `A` at an immediate address. -/
  | storeDirect
  | loadDirect
  /-- Stores `A` at an immediate offset into the last page. -/
  | storeHigh
  | loadHigh
  /-- Stores `A` into the last page at the offset in `C`. -/
  | storeHighC
  | loadHighC
  | storeSp
  | moveHlToSp
  | loadSpOffset
  | addSpOffset
  | inc (place : Place)
  | dec (place : Place)
  | incPair (pair : Pair)
  | decPair (pair : Pair)
  | addHl (pair : Pair)
  | arithmetic (op : Arithmetic) (src : Place)
  | arithmeticImmediate (op : Arithmetic)
  | rlca
  | rrca
  | rla
  | rra
  | daa
  | cpl
  | scf
  | ccf
  | jumpRelative (cond : Condition)
  | jump (cond : Condition)
  | jumpHl
  | call (cond : Condition)
  | ret (cond : Condition)
  | reti
  /-- A call of one of the eight fixed addresses `8 * n`. -/
  | rst (n : Fin 8)
  | push (pair : StackPair)
  | pop (pair : StackPair)
  | shift (op : Shift) (place : Place)
  | testBit (n : Fin 8) (place : Place)
  | resetBit (n : Fin 8) (place : Place)
  | setBit (n : Fin 8) (place : Place)
  deriving DecidableEq, Repr

/-- The form of the bytes that follow an opcode in the program. -/
inductive Immediate where
  | none
  /-- A byte that is skipped. -/
  | padding
  | data8
  | high8
  | offset8
  | data16
  | address16
  deriving DecidableEq, Repr

namespace Immediate

def length : Immediate → Nat
  | none => 0
  | padding | data8 | high8 | offset8 => 1
  | data16 | address16 => 2

end Immediate

namespace Instruction

def immediate : Instruction → Immediate
  | stop => .padding
  | loadImmediate _ | arithmeticImmediate _ => .data8
  | storeHigh | loadHigh => .high8
  | jumpRelative _ | addSpOffset | loadSpOffset => .offset8
  | loadPair _ => .data16
  | storeSp | storeDirect | loadDirect | jump _ | call _ => .address16
  | _ => .none

/-- The condition on which the instruction leaves the straight line, if it can: `RETI`, `RST`
and `JP (HL)` always do and are not counted as branches. -/
def branch? : Instruction → Option Condition
  | jumpRelative cond | jump cond | call cond | ret cond => some cond
  | _ => .none

/-- The machine cycles of an instruction whose branch, if it has one, is not taken. The fetch
of the opcode is included, and that of the page byte for the second page. -/
def baseCycles : Instruction → Nat
  | nop | stop | halt | di | ei | extended => 1
  | load dst src => if dst = .atHl ∨ src = .atHl then 2 else 1
  | loadImmediate dst => if dst = .atHl then 3 else 2
  | loadPair _ => 3
  | storeAt _ | loadAt _ => 2
  | storeDirect | loadDirect => 4
  | storeHigh | loadHigh => 3
  | storeHighC | loadHighC => 2
  | storeSp => 5
  | moveHlToSp => 2
  | loadSpOffset => 3
  | addSpOffset => 4
  | inc place | dec place => if place = .atHl then 3 else 1
  | incPair _ | decPair _ | addHl _ => 2
  | arithmetic _ src => if src = .atHl then 2 else 1
  | arithmeticImmediate _ => 2
  | rlca | rrca | rla | rra | daa | cpl | scf | ccf => 1
  | jumpRelative cond => if cond = .always then 3 else 2
  | jump cond => if cond = .always then 4 else 3
  | jumpHl => 1
  | call cond => if cond = .always then 6 else 3
  | ret cond => if cond = .always then 4 else 2
  | reti => 4
  | rst _ => 4
  | push _ => 4
  | pop _ => 3
  | testBit _ place => if place = .atHl then 3 else 2
  | shift _ place | resetBit _ place | setBit _ place => if place = .atHl then 4 else 2

/-- The machine cycles of an instruction whose branch is taken. -/
def takenCycles (i : Instruction) : Nat :=
  match i with
  | jumpRelative _ => 3
  | jump _ => 4
  | call _ => 6
  | ret cond => if cond = .always then 4 else 5
  | _ => i.baseCycles

end Instruction

end DotMatrix
