import DotMatrix.Word
import DotMatrix.Text.Hex

/-!
The register file of the processor. The flags are four truth values; the byte that holds them
is computed from these, so its low nibble is zero whatever is stored.
-/

namespace DotMatrix

/-- The four flags that instructions leave behind. -/
structure Flags where
  zero : Bool
  subtract : Bool
  halfCarry : Bool
  carry : Bool
  deriving DecidableEq, Repr, Inhabited

inductive Flag where
  | zero
  | subtract
  | halfCarry
  | carry
  deriving DecidableEq, Repr

namespace Flags

def none : Flags := ⟨false, false, false, false⟩

/-- The flags in the high nibble of a byte; its low nibble is dropped. -/
def ofByte (b : Byte) : Flags :=
  ⟨b.bit 7, b.bit 6, b.bit 5, b.bit 4⟩

/-- The byte form: zero, subtract, half carry and carry from bit 7 down to bit 4. -/
def toByte (f : Flags) : Byte :=
  UInt8.ofNat (f.zero.toNat * 0x80 + f.subtract.toNat * 0x40 + f.halfCarry.toNat * 0x20 +
    f.carry.toNat * 0x10)

def get (f : Flags) : Flag → Bool
  | .zero => f.zero
  | .subtract => f.subtract
  | .halfCarry => f.halfCarry
  | .carry => f.carry

def set (f : Flags) (which : Flag) (on : Bool) : Flags :=
  match which with
  | .zero => { f with zero := on }
  | .subtract => { f with subtract := on }
  | .halfCarry => { f with halfCarry := on }
  | .carry => { f with carry := on }

theorem ofByte_toByte (f : Flags) : ofByte f.toByte = f := by
  obtain ⟨z, n, h, c⟩ := f
  cases z <;> cases n <;> cases h <;> cases c <;> decide

/-- The low digit of a flags byte holds nothing. -/
theorem toByte_ofByte (b : Byte) : (ofByte b).toByte = b &&& 0xF0 :=
  Byte.of_forall_lt (motive := fun b => (ofByte b).toByte = b &&& 0xF0) (by decide +kernel) b

end Flags

/-- The registers, with the master interrupt switch. -/
structure Registers where
  a : Byte
  flags : Flags
  b : Byte
  c : Byte
  d : Byte
  e : Byte
  h : Byte
  l : Byte
  sp : Word
  pc : Word
  /-- Are interrupts served at all? -/
  ime : Bool
  deriving DecidableEq, Repr

namespace Registers

def zero : Registers := ⟨0, .none, 0, 0, 0, 0, 0, 0, 0, 0, false⟩

def f (r : Registers) : Byte := r.flags.toByte

def af (r : Registers) : Word := .ofBytes r.a r.f
def bc (r : Registers) : Word := .ofBytes r.b r.c
def de (r : Registers) : Word := .ofBytes r.d r.e
def hl (r : Registers) : Word := .ofBytes r.h r.l

def setAf (r : Registers) (w : Word) : Registers :=
  { r with a := w.high, flags := .ofByte w.low }

def setBc (r : Registers) (w : Word) : Registers :=
  { r with b := w.high, c := w.low }

def setDe (r : Registers) (w : Word) : Registers :=
  { r with d := w.high, e := w.low }

def setHl (r : Registers) (w : Word) : Registers :=
  { r with h := w.high, l := w.low }

/-- What the boot program leaves in the registers. A cartridge made for the colour model finds
another value in `A`, by which it tells the models apart. -/
def postBoot (colour : Bool) : Registers :=
  { zero with sp := 0xFFFE, pc := 0x0100 }
    |>.setAf (if colour then 0x11B0 else 0x01B0)
    |>.setBc 0x0013
    |>.setDe 0x00D8
    |>.setHl 0x014D

def text (r : Registers) : String :=
  s!"AF:{Hex.word r.af} BC:{Hex.word r.bc} DE:{Hex.word r.de} HL:{Hex.word r.hl} " ++
    s!"PC:{Hex.word r.pc} SP:{Hex.word r.sp} IME:{r.ime.toNat}"

end Registers

end DotMatrix
