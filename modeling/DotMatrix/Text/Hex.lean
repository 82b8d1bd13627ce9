/-!
Hexadecimal numerals, in upper case and with a least number of digits, as the register dump, the
disassembly and the error messages write them.
-/

namespace DotMatrix.Hex

/-- `n` in upper-case hexadecimal, filled up with zeros on the left to `width` digits. -/
def numeral (width n : Nat) : String :=
  let digits := (Nat.toDigits 16 n).map Char.toUpper
  String.ofList (List.replicate (width - digits.length) '0' ++ digits)

def byte (b : UInt8) : String :=
  numeral 2 b.toNat

def word (w : UInt16) : String :=
  numeral 4 w.toNat

end DotMatrix.Hex
