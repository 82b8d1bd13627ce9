import DotMatrix.Instruction.Basic
import DotMatrix.Registers

/-!
What the processor computes from bytes and words, apart from any register: each operation gives
its result together with the flags it leaves. The sums are taken in the natural numbers and cut to
size, so a carry is a sum that does not fit.
-/

namespace DotMatrix.Cpu

def add (a b : Byte) (carryIn : Bool) : Byte × Flags :=
  let sum := a.toNat + b.toNat + carryIn.toNat
  let result := UInt8.ofNat sum
  (result,
    { zero := result == 0
      subtract := false
      halfCarry := decide (0x0F < a.toNat % 0x10 + b.toNat % 0x10 + carryIn.toNat)
      carry := decide (0xFF < sum) })

def sub (a b : Byte) (borrowIn : Bool) : Byte × Flags :=
  let taken := b.toNat + borrowIn.toNat
  let result := UInt8.ofNat (a.toNat + 0x100 - taken)
  (result,
    { zero := result == 0
      subtract := true
      halfCarry := decide (a.toNat % 0x10 < b.toNat % 0x10 + borrowIn.toNat)
      carry := decide (a.toNat < taken) })

/-- An operation between `A` and another byte: the new value of `A` and the flags. A comparison
is a subtraction that keeps `A`. -/
def arithmetic (op : Arithmetic) (a value : Byte) (carryIn : Bool) : Byte × Flags :=
  match op with
  | .add => add a value false
  | .adc => add a value carryIn
  | .sub => sub a value false
  | .sbc => sub a value carryIn
  | .cp => (a, (sub a value false).2)
  | .and =>
    let result := a &&& value
    (result, { Flags.none with zero := result == 0, halfCarry := true })
  | .xor =>
    let result := a ^^^ value
    (result, { Flags.none with zero := result == 0 })
  | .or =>
    let result := a ||| value
    (result, { Flags.none with zero := result == 0 })

/-- One more; the carry stays as it was. -/
def increment (value : Byte) (flags : Flags) : Byte × Flags :=
  let result := value + 1
  (result,
    { flags with
      zero := result == 0
      subtract := false
      halfCarry := decide (value.toNat % 0x10 = 0x0F) })

/-- One less; the carry stays as it was. -/
def decrement (value : Byte) (flags : Flags) : Byte × Flags :=
  let result := value - 1
  (result,
    { flags with
      zero := result == 0
      subtract := true
      halfCarry := decide (value.toNat % 0x10 = 0) })

/-- A shifted or rotated byte and the bit that fell out. -/
def shiftOut (op : Shift) (value : Byte) (carryIn : Bool) : Byte × Bool :=
  match op with
  | .rlc => (value.rotateLeft, value.bit 7)
  | .rrc => (value.rotateRight, value.bit 0)
  | .rl => ((value <<< 1) ||| .ofBool carryIn, value.bit 7)
  | .rr => ((value >>> 1) ||| (Byte.ofBool carryIn <<< 7), value.bit 0)
  | .sla => (value <<< 1, value.bit 7)
  | .sra => ((value >>> 1) ||| (value &&& 0x80), value.bit 0)
  | .swap => (value.swapNibbles, false)
  | .srl => (value >>> 1, value.bit 0)

/-- A shift or rotation: the bit that falls out becomes the carry. -/
def shift (op : Shift) (value : Byte) (carryIn : Bool) : Byte × Flags :=
  let (result, out) := shiftOut op value carryIn
  (result, { Flags.none with zero := result == 0, carry := out })

/-- A rotation of `A` by its own opcode, which leaves the zero flag clear. -/
def rotateA (op : Shift) (a : Byte) (carryIn : Bool) : Byte × Flags :=
  let (result, out) := shiftOut op a carryIn
  (result, { Flags.none with carry := out })

def testBit (n : Fin 8) (value : Byte) (flags : Flags) : Flags :=
  { flags with zero := !value.bit n.val, subtract := false, halfCarry := true }

def resetBit (n : Fin 8) (value : Byte) : Byte :=
  value &&& ~~~((1 : Byte) <<< UInt8.ofNat n.val)

def setBit (n : Fin 8) (value : Byte) : Byte :=
  value ||| ((1 : Byte) <<< UInt8.ofNat n.val)

/-- Brings `A` back to two decimal digits after an addition or a subtraction of such bytes. -/
def decimalAdjust (a : Byte) (flags : Flags) : Byte × Flags :=
  let low := flags.halfCarry || (!flags.subtract && decide (9 < a.toNat % 0x10))
  let high := flags.carry || (!flags.subtract && decide (0x99 < a.toNat))
  let correction : Byte := (if low then 0x06 else 0) + (if high then 0x60 else 0)
  let result := if flags.subtract then a - correction else a + correction
  (result, { flags with zero := result == 0, halfCarry := false, carry := high })

/-- The sum of `HL` and another word; the zero flag stays as it was. -/
def addWords (hl value : Word) (flags : Flags) : Word × Flags :=
  (hl + value,
    { flags with
      subtract := false
      halfCarry := decide (0x0FFF < hl.toNat % 0x1000 + value.toNat % 0x1000)
      carry := decide (0xFFFF < hl.toNat + value.toNat) })

/-- The stack pointer moved by a signed distance. The flags come from the low bytes alone. -/
def offsetWord (sp : Word) (distance : Byte) : Word × Flags :=
  (sp + distance.signExtend,
    { Flags.none with
      halfCarry := decide (0x0F < sp.toNat % 0x10 + distance.toNat % 0x10)
      carry := decide (0xFF < sp.toNat % 0x100 + distance.toNat) })

end DotMatrix.Cpu
