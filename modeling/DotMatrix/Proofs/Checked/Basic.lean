import Mathlib.Algebra.Group.Int.Defs
import Mathlib.Algebra.GroupWithZero.Nat
import DotMatrix.Memory

/-!
Arithmetic of fixed width and indices into arrays, checked. A checked computation gives no result where
a number does not fit its width, a shift goes further than the width, or an index is out of bounds. The
modules beside this one run the console in that way, with all numbers as wide as its program has them,
and prove of each function that the checks never fail and do not change what it computes.
-/

namespace DotMatrix

/-- The result of a computation all of whose checks hold. -/
abbrev Checked (α : Type) := Option α

namespace Checked

def add (width a b : Nat) : Checked Nat :=
  if a + b < 2 ^ width then some (a + b) else none

example : add 8 0xFF 1 = none := rfl

/-- A difference of unsigned numbers. -/
def sub (a b : Nat) : Checked Nat :=
  if b ≤ a then some (a - b) else none

def mul (width a b : Nat) : Checked Nat :=
  if a * b < 2 ^ width then some (a * b) else none

/-- A number that an unsigned sum or product comes to, or a signed one, in a signed width. -/
def signed (width : Nat) (n : Int) : Checked Int :=
  if -2 ^ (width - 1) ≤ n ∧ n < 2 ^ (width - 1) then some n else none

/-- How far a shift goes. -/
def shift (width amount : Nat) : Checked Nat :=
  if amount < width then some amount else none

def slice {α : Type} (xs : Array α) (start stop : Nat) : Checked (Array α) :=
  if start ≤ stop ∧ stop ≤ xs.size then some (xs.extract start stop) else none

/-- The vector with an element replaced. -/
def set {α : Type} {n : Nat} (xs : Vector α n) (index : Nat) (a : α) : Checked (Vector α n) :=
  if h : index < n then some (xs.set index a) else none

section Succeeds

variable {width a b : Nat}

theorem add_eq (h : a + b < 2 ^ width) : add width a b = some (a + b) :=
  if_pos h

theorem sub_eq (h : b ≤ a) : sub a b = some (a - b) :=
  if_pos h

theorem mul_eq (h : a * b < 2 ^ width) : mul width a b = some (a * b) :=
  if_pos h

theorem signed_eq {n : Int} (least : -2 ^ (width - 1) ≤ n) (most : n < 2 ^ (width - 1)) :
    signed width n = some n :=
  if_pos ⟨least, most⟩

theorem shift_eq (h : a < width) : shift width a = some a :=
  if_pos h

variable {α : Type}

theorem slice_eq {xs : Array α} {start stop : Nat} (order : start ≤ stop) (inside : stop ≤ xs.size) :
    slice xs start stop = some (xs.extract start stop) :=
  if_pos ⟨order, inside⟩

theorem set_eq {n : Nat} {xs : Vector α n} {index : Nat} (h : index < n) (a : α) :
    set xs index a = some (xs.set index a) :=
  dif_pos h

theorem set_eq_setIfInBounds {n : Nat} {xs : Vector α n} {index : Nat} (h : index < n) (a : α) :
    set xs index a = some (xs.setIfInBounds index a) := by
  rw [set_eq h]
  apply congrArg some
  apply Vector.ext
  intro i hi
  rw [Vector.getElem_set, Vector.getElem_setIfInBounds]

end Succeeds

/-- A loop none of whose steps fails a check. -/
theorem foldlM_eq {α β : Type} {step : β → α → Checked β} {next : β → α → β} {xs : List α}
    (h : ∀ b, ∀ a ∈ xs, step b a = some (next b a)) (b : β) :
    xs.foldlM step b = some (xs.foldl next b) := by
  induction xs generalizing b with
  | nil => rfl
  | cons a rest ih =>
      rw [List.foldlM_cons, h b a List.mem_cons_self]
      exact ih (fun b a member => h b a (List.mem_cons_of_mem _ member)) (next b a)

/-- A value, if there is one, that passes the checks. -/
theorem mapM_eq {α β : Type} {f : α → Checked β} {g : α → β} (h : ∀ a, f a = some (g a))
    (o : Option α) : o.mapM f = some (o.map g) := by
  cases o with
  | none => rfl
  | some a =>
      rw [Option.mapM_some, h]
      rfl

/-- A vector none of whose elements fails a check. -/
theorem ofFnM_eq {α : Type} {n : Nat} {f : Fin n → Checked α} {g : Fin n → α}
    (h : ∀ i, f i = some (g i)) : Vector.ofFnM f = some (Vector.ofFn g) := by
  rw [funext h]
  exact Vector.ofFnM_pure

end Checked

namespace Byte

def addChecked (a b : Byte) : Checked Byte :=
  if a.toNat + b.toNat < 0x100 then some (a + b) else none

def subChecked (a b : Byte) : Checked Byte :=
  if b ≤ a then some (a - b) else none

theorem addChecked_eq {a b : Byte} (h : a.toNat + b.toNat < 0x100) :
    a.addChecked b = some (a + b) :=
  if_pos h

theorem subChecked_eq {a b : Byte} (h : b ≤ a) : a.subChecked b = some (a - b) :=
  if_pos h

end Byte

namespace Memory

variable {n : Nat}

theorem getElem?_eq_read (m : Memory n) {i : Nat} (h : i < n) : m[i]? = some (m.read i) := by
  rw [read_eq_getElem m h, Vector.getElem?_eq_getElem h]

theorem slice_eq (m : Memory n) {start stop : Nat} (order : start ≤ stop) (inside : stop ≤ n) :
    Checked.slice m.toArray start stop = some (m.toArray.extract start stop) :=
  Checked.slice_eq order (by rwa [m.size_toArray])

/-- A byte of a slice. -/
theorem extract_getElem? (m : Memory n) {start stop i : Nat} (inside : stop ≤ n)
    (h : start + i < stop) : (m.toArray.extract start stop)[i]? = some (m.read (start + i)) := by
  have bound : i < min stop m.toArray.size - start := by
    rw [m.size_toArray, Nat.min_eq_left inside]
    omega
  rw [Array.getElem?_extract, if_pos bound, ← getElem?_eq_read m (by omega)]
  exact Vector.getElem?_toArray

/-- The byte at an index that is cut to the size first. -/
def readChecked (m : Memory n) (index : Nat) : Checked Byte :=
  m[index % n]?

def writeChecked (m : Memory n) (index : Nat) (value : Byte) : Checked (Memory n) :=
  Checked.set m (index % n) value

theorem readChecked_eq (pos : 0 < n) (m : Memory n) (index : Nat) :
    m.readChecked index = some (m.read index) := by
  have inside := Nat.mod_lt index pos
  rw [readChecked, getElem?_eq_read m inside, read, read, Nat.mod_mod]

theorem writeChecked_eq (pos : 0 < n) (m : Memory n) (index : Nat) (value : Byte) :
    m.writeChecked index value = some (m.write index value) := by
  rw [writeChecked, write, Checked.set_eq_setIfInBounds (Nat.mod_lt index pos)]

end Memory

end DotMatrix
