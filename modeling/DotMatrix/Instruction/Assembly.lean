import DotMatrix.Instruction.Basic
import DotMatrix.Text.Hex
import DotMatrix.Word

/-!
Assembly text. An instruction is written once, with the text of its immediate operand left open:
a placeholder such as `d16` there gives the mnemonic, the operand's value the disassembly.
-/

namespace DotMatrix

def Place.name : Place → String
  | b => "B"
  | c => "C"
  | d => "D"
  | e => "E"
  | h => "H"
  | l => "L"
  | atHl => "(HL)"
  | a => "A"

def Pair.name : Pair → String
  | bc => "BC"
  | de => "DE"
  | hl => "HL"
  | sp => "SP"

def StackPair.name : StackPair → String
  | bc => "BC"
  | de => "DE"
  | hl => "HL"
  | af => "AF"

def Pointer.name : Pointer → String
  | bc => "(BC)"
  | de => "(DE)"
  | hlUp => "(HL+)"
  | hlDown => "(HL-)"

/-- What stands before the target of a jump or a call. -/
def Condition.before : Condition → String
  | always => ""
  | notZero => "NZ,"
  | zero => "Z,"
  | notCarry => "NC,"
  | carry => "C,"

def Condition.after : Condition → String
  | always => ""
  | notZero => " NZ"
  | zero => " Z"
  | notCarry => " NC"
  | carry => " C"

/-- The operation up to its second operand. Four of them name `A` and four do not. -/
def Arithmetic.head : Arithmetic → String
  | add => "ADD A,"
  | adc => "ADC A,"
  | sub => "SUB "
  | sbc => "SBC A,"
  | and => "AND "
  | xor => "XOR "
  | or => "OR "
  | cp => "CP "

def Shift.name : Shift → String
  | rlc => "RLC"
  | rrc => "RRC"
  | rl => "RL"
  | rr => "RR"
  | sla => "SLA"
  | sra => "SRA"
  | swap => "SWAP"
  | srl => "SRL"

namespace Immediate

/-- How an immediate operand is written when its value is not known. -/
def placeholder : Immediate → String
  | none | padding => ""
  | data8 => "d8"
  | high8 => "a8"
  | offset8 => "r8"
  | data16 => "d16"
  | address16 => "a16"

/-- A signed distance with its sign and its absolute value. -/
private def distance (b : Byte) : String :=
  if b.toNat < 0x80 then "+$" ++ Hex.byte b
  else "-$" ++ Hex.numeral 2 (0x100 - b.toNat)

/-- How an immediate operand of the given value is written. -/
def text (form : Immediate) (value : Word) : String :=
  match form with
  | none | padding => ""
  | data8 => "$" ++ Hex.byte value.low
  | high8 => "$FF" ++ Hex.byte value.low
  | offset8 => distance value.low
  | data16 | address16 => "$" ++ Hex.word value

end Immediate

namespace Instruction

/-- The instruction's text around the text of its immediate operand. -/
def assembly (i : Instruction) (operand : String) : String :=
  match i with
  | nop => "NOP"
  | stop => "STOP"
  | halt => "HALT"
  | di => "DI"
  | ei => "EI"
  | extended => "PREFIX CB"
  | load dst src => s!"LD {dst.name},{src.name}"
  | loadImmediate dst => s!"LD {dst.name},{operand}"
  | loadPair dst => s!"LD {dst.name},{operand}"
  | storeAt pointer => s!"LD {pointer.name},A"
  | loadAt pointer => s!"LD A,{pointer.name}"
  | storeDirect => s!"LD ({operand}),A"
  | loadDirect => s!"LD A,({operand})"
  | storeHigh => s!"LDH ({operand}),A"
  | loadHigh => s!"LDH A,({operand})"
  | storeHighC => "LD (C),A"
  | loadHighC => "LD A,(C)"
  | storeSp => s!"LD ({operand}),SP"
  | moveHlToSp => "LD SP,HL"
  | loadSpOffset => s!"LD HL,SP+{operand}"
  | addSpOffset => s!"ADD SP,{operand}"
  | inc place => s!"INC {place.name}"
  | dec place => s!"DEC {place.name}"
  | incPair pair => s!"INC {pair.name}"
  | decPair pair => s!"DEC {pair.name}"
  | addHl pair => s!"ADD HL,{pair.name}"
  | arithmetic op src => op.head ++ src.name
  | arithmeticImmediate op => op.head ++ operand
  | rlca => "RLCA"
  | rrca => "RRCA"
  | rla => "RLA"
  | rra => "RRA"
  | daa => "DAA"
  | cpl => "CPL"
  | scf => "SCF"
  | ccf => "CCF"
  | jumpRelative cond => s!"JR {cond.before}{operand}"
  | jump cond => s!"JP {cond.before}{operand}"
  | jumpHl => "JP (HL)"
  | call cond => s!"CALL {cond.before}{operand}"
  | ret cond => "RET" ++ cond.after
  | reti => "RETI"
  | rst n => s!"RST {Hex.numeral 2 (8 * n.val)}H"
  | push pair => s!"PUSH {pair.name}"
  | pop pair => s!"POP {pair.name}"
  | shift op place => s!"{op.name} {place.name}"
  | testBit n place => s!"BIT {n.val},{place.name}"
  | resetBit n place => s!"RES {n.val},{place.name}"
  | setBit n place => s!"SET {n.val},{place.name}"

/-- The instruction with a placeholder for its operand, as reference tables list it. -/
def mnemonic (i : Instruction) : String :=
  i.assembly i.immediate.placeholder

/-- The instruction with the value of its operand. -/
def disassemble (i : Instruction) (operand : Word) : String :=
  i.assembly (i.immediate.text operand)

end Instruction

end DotMatrix
