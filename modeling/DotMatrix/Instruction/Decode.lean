import DotMatrix.Instruction.Basic
import DotMatrix.Word

/-!
The encoding. An opcode is three fields, `xx yyy zzz`: the first says which quarter of the page it
is in, the others which operands or which operation. Eleven bytes of the first page encode
nothing; every byte of the second page encodes an instruction.
-/

namespace DotMatrix

def Place.ofCode (n : Nat) : Place :=
  match n % 8 with
  | 0 => .b
  | 1 => .c
  | 2 => .d
  | 3 => .e
  | 4 => .h
  | 5 => .l
  | 6 => .atHl
  | _ => .a

def Pair.ofCode (n : Nat) : Pair :=
  match n % 4 with
  | 0 => .bc
  | 1 => .de
  | 2 => .hl
  | _ => .sp

def StackPair.ofCode (n : Nat) : StackPair :=
  match n % 4 with
  | 0 => .bc
  | 1 => .de
  | 2 => .hl
  | _ => .af

def Pointer.ofCode (n : Nat) : Pointer :=
  match n % 4 with
  | 0 => .bc
  | 1 => .de
  | 2 => .hlUp
  | _ => .hlDown

/-- The four conditions that have a code; `always` has none. -/
def Condition.ofCode (n : Nat) : Condition :=
  match n % 4 with
  | 0 => .notZero
  | 1 => .zero
  | 2 => .notCarry
  | _ => .carry

def Arithmetic.ofCode (n : Nat) : Arithmetic :=
  match n % 8 with
  | 0 => .add
  | 1 => .adc
  | 2 => .sub
  | 3 => .sbc
  | 4 => .and
  | 5 => .xor
  | 6 => .or
  | _ => .cp

def Shift.ofCode (n : Nat) : Shift :=
  match n % 8 with
  | 0 => .rlc
  | 1 => .rrc
  | 2 => .rl
  | 3 => .rr
  | 4 => .sla
  | 5 => .sra
  | 6 => .swap
  | _ => .srl

namespace Instruction

/-- The first quarter of the page: small loads, 16-bit arithmetic and relative jumps. -/
private def decodeMisc (y z : Nat) : Instruction :=
  match z with
  | 0 =>
    match y with
    | 0 => .nop
    | 1 => .storeSp
    | 2 => .stop
    | 3 => .jumpRelative .always
    | _ => .jumpRelative (.ofCode y)
  | 1 => if y % 2 = 0 then .loadPair (.ofCode (y / 2)) else .addHl (.ofCode (y / 2))
  | 2 => if y % 2 = 0 then .storeAt (.ofCode (y / 2)) else .loadAt (.ofCode (y / 2))
  | 3 => if y % 2 = 0 then .incPair (.ofCode (y / 2)) else .decPair (.ofCode (y / 2))
  | 4 => .inc (.ofCode y)
  | 5 => .dec (.ofCode y)
  | 6 => .loadImmediate (.ofCode y)
  | _ =>
    match y with
    | 0 => .rlca
    | 1 => .rrca
    | 2 => .rla
    | 3 => .rra
    | 4 => .daa
    | 5 => .cpl
    | 6 => .scf
    | _ => .ccf

/-- The last quarter of the page: control flow, the stack and the accesses to the last page.
This is where the unused opcodes are. -/
private def decodeControl (y z : Nat) : Option Instruction :=
  match z with
  | 0 =>
    match y with
    | 4 => some .storeHigh
    | 5 => some .addSpOffset
    | 6 => some .loadHigh
    | 7 => some .loadSpOffset
    | _ => some (.ret (.ofCode y))
  | 1 =>
    match y with
    | 1 => some (.ret .always)
    | 3 => some .reti
    | 5 => some .jumpHl
    | 7 => some .moveHlToSp
    | _ => some (.pop (.ofCode (y / 2)))
  | 2 =>
    match y with
    | 4 => some .storeHighC
    | 5 => some .storeDirect
    | 6 => some .loadHighC
    | 7 => some .loadDirect
    | _ => some (.jump (.ofCode y))
  | 3 =>
    match y with
    | 0 => some (.jump .always)
    | 1 => some .extended
    | 6 => some .di
    | 7 => some .ei
    | _ => none
  | 4 => if y < 4 then some (.call (.ofCode y)) else none
  | 5 =>
    if y % 2 = 0 then some (.push (.ofCode (y / 2)))
    else if y = 1 then some (.call .always)
    else none
  | 6 => some (.arithmeticImmediate (.ofCode y))
  | _ => some (.rst (Fin.ofNat 8 y))

/-- The instruction that an opcode of the first page encodes, if any. -/
def decode (opcode : Byte) : Option Instruction :=
  let y := opcode.toNat / 8 % 8
  let z := opcode.toNat % 8
  match opcode.toNat / 64 with
  | 0 => some (decodeMisc y z)
  | 1 => some (if y = 6 ∧ z = 6 then .halt else .load (.ofCode y) (.ofCode z))
  | 2 => some (.arithmetic (.ofCode y) (.ofCode z))
  | _ => decodeControl y z

def decodeExtended (opcode : Byte) : Instruction :=
  let y := opcode.toNat / 8 % 8
  let place := Place.ofCode opcode.toNat
  match opcode.toNat / 64 with
  | 0 => .shift (.ofCode y) place
  | 1 => .testBit (Fin.ofNat 8 y) place
  | 2 => .resetBit (Fin.ofNat 8 y) place
  | _ => .setBit (Fin.ofNat 8 y) place

end Instruction

end DotMatrix
