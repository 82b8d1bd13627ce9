/-!
Bytes and 16-bit words, the two sizes of value the console works with, and the ways one is
built from the other. The two halves of a word determine it, and any two bytes are the halves
of a word.
-/

namespace DotMatrix

abbrev Byte := UInt8

/-- An address, or a pair of registers read as one number. -/
abbrev Word := UInt16

namespace Byte

/-- Is bit `i` of the byte set? Bit 0 is the least significant one. -/
def bit (b : Byte) (i : Nat) : Bool :=
  b.toNat.testBit i

/-- The byte read as a two's complement number and widened to a word. -/
def signExtend (b : Byte) : Word :=
  UInt16.ofNat (if b.toNat < 0x80 then b.toNat else 0xFF00 + b.toNat)

/-- Every bit moves up by one place and the topmost comes round to the bottom. -/
def rotateLeft (b : Byte) : Byte :=
  (b <<< 1) ||| (b >>> 7)

/-- Every bit moves down by one place and the lowest comes round to the top. -/
def rotateRight (b : Byte) : Byte :=
  (b >>> 1) ||| (b <<< 7)

def swapNibbles (b : Byte) : Byte :=
  (b <<< 4) ||| (b >>> 4)

def ofBool (set : Bool) : Byte :=
  if set then 1 else 0

/-- What holds of the bytes one by one holds of every byte. -/
theorem of_forall_lt {motive : Byte → Prop} (each : ∀ n < 256, motive (UInt8.ofNat n))
    (b : Byte) : motive b := by
  have here := each b.toNat b.toNat_lt
  rwa [UInt8.ofNat_toNat] at here

end Byte

namespace Word

def high (w : Word) : Byte :=
  UInt8.ofNat (w.toNat / 0x100)

def low (w : Word) : Byte :=
  UInt8.ofNat w.toNat

/-- The word with the given halves. -/
def ofBytes (high low : Byte) : Word :=
  UInt16.ofNat (high.toNat * 0x100 + low.toNat)

theorem toNat_ofBytes (high low : Byte) :
    (ofBytes high low).toNat = high.toNat * 0x100 + low.toNat := by
  have := high.toNat_lt
  have := low.toNat_lt
  simp only [ofBytes, UInt16.toNat_ofNat']
  omega

theorem high_ofBytes (hi lo : Byte) : high (ofBytes hi lo) = hi := by
  have := hi.toNat_lt
  have := lo.toNat_lt
  apply UInt8.toNat_inj.1
  simp only [high, toNat_ofBytes, UInt8.toNat_ofNat']
  omega

theorem low_ofBytes (hi lo : Byte) : low (ofBytes hi lo) = lo := by
  have := hi.toNat_lt
  have := lo.toNat_lt
  apply UInt8.toNat_inj.1
  simp only [low, toNat_ofBytes, UInt8.toNat_ofNat']
  omega

theorem ofBytes_high_low (w : Word) : ofBytes (high w) (low w) = w := by
  have := w.toNat_lt
  apply UInt16.toNat_inj.1
  simp only [toNat_ofBytes, high, low, UInt8.toNat_ofNat']
  omega

end Word

end DotMatrix
