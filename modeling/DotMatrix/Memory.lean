import DotMatrix.Word

/-!
Memory: a fixed number of bytes. A memory that is seen through a window larger than itself repeats
in it, so it is read and written at any index, taken modulo the size.

The two memories of the console proper are here as well: the work RAM, whose window holds it
almost twice, and the high RAM of the last page.
-/

namespace DotMatrix

abbrev Memory (n : Nat) := Vector Byte n

namespace Memory

def zeros (n : Nat) : Memory n :=
  Vector.replicate n 0

/-- The byte at an index, which counts on from the start again past the end. A memory of no bytes
reads as zero. -/
def read {n : Nat} (m : Memory n) (index : Nat) : Byte :=
  m[index % n]?.getD 0

def write {n : Nat} (m : Memory n) (index : Nat) (value : Byte) : Memory n :=
  m.setIfInBounds (index % n) value

theorem read_eq_getElem {n : Nat} (m : Memory n) {i : Nat} (hi : i < n) : m.read i = m[i] := by
  simp [read, Nat.mod_eq_of_lt hi, hi]

theorem read_write {n : Nat} (hn : 0 < n) (m : Memory n) (i j : Nat) (value : Byte) :
    (m.write i value).read j = if i % n = j % n then value else m.read j := by
  have hi := Nat.mod_lt i hn
  have hj := Nat.mod_lt j hn
  simp only [read, write, Vector.getElem?_eq_getElem hj, Vector.getElem_setIfInBounds hj,
    Option.getD_some]

theorem read_zeros {n : Nat} (i : Nat) : (zeros n).read i = 0 := by
  by_cases h : i % n < n <;> simp [read, zeros, h]

/-- The memory that holds the given bytes from its start on: bytes past its end are dropped and
the rest of it is zero. -/
def ofArray (n : Nat) (bytes : Array Byte) : Memory n :=
  Vector.ofFn fun i => bytes.getD i.val 0

theorem ofArray_of_size {n : Nat} {bytes : Array Byte} (h : bytes.size = n) :
    ofArray n bytes = ⟨bytes, h⟩ := by
  apply Vector.ext
  intro i hi
  have inside : i < bytes.size := by omega
  simp [ofArray, Array.getD, inside]

end Memory

abbrev WorkRam := Memory 0x2000

namespace WorkRam

def read (ram : WorkRam) (addr : Word) : Byte :=
  Memory.read ram addr.toNat

def write (ram : WorkRam) (addr : Word) (value : Byte) : WorkRam :=
  Memory.write ram addr.toNat value

end WorkRam

/-- The high RAM. Unlike the others it does not repeat. -/
abbrev HighRam := Memory 0x7F

namespace HighRam

def base : Nat := 0xFF80

def read (ram : HighRam) (addr : Word) : Byte :=
  if base ≤ addr.toNat then ram[addr.toNat - base]?.getD 0xFF else 0xFF

def write (ram : HighRam) (addr : Word) (value : Byte) : HighRam :=
  if base ≤ addr.toNat then ram.setIfInBounds (addr.toNat - base) value else ram

end HighRam

end DotMatrix
