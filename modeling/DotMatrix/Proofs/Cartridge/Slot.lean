import DotMatrix.Cartridge.Slot

/-!
The external RAM of a cartridge. It is of the size and kind that the header asks for, and a cell of
half a byte holds half a byte, whatever is stored in it; and what is put in as a whole is what is
read out again, but for the upper halves of such cells.
-/

namespace DotMatrix

namespace ExternalRam

/-- The RAM is of the size and kind that a header asks for, and a cell of half a byte holds half a
byte. -/
def Fits (header : Header) : ExternalRam → Prop
  | banks bs => header.board.kind ≠ .mbc2 ∧ bs.size = header.ram.banks
  | nibbles cells =>
    header.board.kind = .mbc2 ∧ ∀ (i : Nat) (_ : i < Board.nibbleCount), cells[i] &&& 0x0F = cells[i]

theorem low_idem (b : Byte) : (b &&& 0x0F) &&& 0x0F = b &&& 0x0F := by
  rw [UInt8.and_assoc, UInt8.and_self]

section Fits

variable {header : Header} {ram : ExternalRam}

theorem blank_fits (header : Header) : (blank header).Fits header := by
  unfold blank
  split
  · next hkind =>
      refine ⟨hkind, fun i _ => ?_⟩
      simp [Memory.zeros]
  · next hkind => exact ⟨hkind, Array.size_replicate⟩

theorem clear_fits (h : ram.Fits header) : ram.clear.Fits header := by
  cases ram with
  | banks bs => exact ⟨h.1, Array.size_replicate.trans h.2⟩
  | nibbles cells =>
      refine ⟨h.1, fun i _ => ?_⟩
      simp [Memory.zeros]

theorem write_fits (h : ram.Fits header) (bank : Nat) (addr : Word) (value : Byte) :
    (ram.write bank addr value).Fits header := by
  cases ram with
  | banks bs => exact ⟨h.1, Array.size_modify.trans h.2⟩
  | nibbles cells =>
      refine ⟨h.1, fun i hi => ?_⟩
      simp only [Memory.write, Vector.getElem_setIfInBounds hi]
      split
      · exact low_idem value
      · exact h.2 i hi

theorem fill_fits (h : ram.Fits header) (given : Array (Array Byte)) :
    (ram.fill given).Fits header := by
  cases ram with
  | banks bs => exact ⟨h.1, Array.size_ofFn.trans h.2⟩
  | nibbles cells =>
      refine ⟨h.1, fun i hi => ?_⟩
      simp only [Memory.ofArray, Vector.getElem_ofFn, Array.getD_eq_getD_getElem?,
        Array.getElem?_map]
      cases (given[0]?.getD #[])[i]? with
      | none => rfl
      | some b => exact low_idem b

end Fits

/-- Are there half-byte cells? -/
def halved : ExternalRam → Bool
  | banks _ => false
  | nibbles _ => true

/-- The bytes that are stored if those given are put in: a half-byte cell keeps the lower half. -/
def kept (halved : Bool) (given : Array (Array Byte)) : Array (Array Byte) :=
  if halved then given.map fun bank => bank.map (· &&& 0x0F) else given

section Contents

variable (ram : ExternalRam)

theorem contents_size : ram.contents.size = ram.bankCount := by
  cases ram with
  | banks bs => exact Array.size_map
  | nibbles cells => rfl

theorem size_of_mem_contents {bank : Array Byte} (member : bank ∈ ram.contents) :
    bank.size = ram.bankSize := by
  cases ram with
  | banks bs =>
      obtain ⟨memory, -, rfl⟩ := Array.mem_map.mp member
      exact memory.size_toArray
  | nibbles cells =>
      rw [Array.mem_singleton.mp member]
      exact cells.size_toArray

end Contents

theorem contents_fill {ram : ExternalRam} {given : Array (Array Byte)}
    (count : given.size = ram.bankCount) (size : ∀ bank ∈ given, bank.size = ram.bankSize) :
    (ram.fill given).contents = kept ram.halved given := by
  cases ram with
  | banks bs =>
      apply Array.ext
      · simp only [fill, contents, kept, halved, Array.size_map, Array.size_ofFn,
          Bool.false_eq_true, if_false]
        exact count.symm
      · intro i _ hi
        simp only [kept, halved, Bool.false_eq_true, if_false] at hi ⊢
        have whole := Memory.ofArray_of_size (size given[i] (Array.getElem_mem hi))
        simp only [fill, contents, Array.getElem_map, Array.getElem_ofFn, Array.getD, hi, dif_pos]
        exact congrArg Vector.toArray whole
  | nibbles cells =>
      obtain ⟨bank, rfl⟩ := Array.size_eq_one_iff.mp count
      have whole : (bank.map (· &&& 0x0F)).size = Board.nibbleCount :=
        Array.size_map.trans (size bank (Array.mem_singleton.mpr rfl))
      change #[(Memory.ofArray Board.nibbleCount (bank.map (· &&& 0x0F))).toArray] = _
      rw [Memory.ofArray_of_size whole]
      simp [kept, halved]

variable {header : Header} {ram ram' : ExternalRam}

theorem halved_iff (h : ram.Fits header) : ram.halved = true ↔ header.board.kind = .mbc2 := by
  cases ram with
  | banks bs =>
      constructor
      · intro halved
        cases halved
      · intro kind
        exact absurd kind h.1
  | nibbles cells =>
      constructor
      · intro _
        exact h.1
      · intro _
        rfl

/-- Two RAMs that fit the same header are of the same size and kind. -/
theorem Fits.alike (h : ram.Fits header) (h' : ram'.Fits header) :
    ram'.bankCount = ram.bankCount ∧ ram'.bankSize = ram.bankSize ∧ ram'.halved = ram.halved := by
  cases ram with
  | banks bs =>
      cases ram' with
      | banks bs' => exact ⟨h'.2.trans h.2.symm, rfl, rfl⟩
      | nibbles cells' => exact absurd h'.1 h.1
  | nibbles cells =>
      cases ram' with
      | banks bs' => exact absurd h.1 h'.1
      | nibbles cells' => exact ⟨rfl, rfl, rfl⟩

theorem kept_contents (h : ram.Fits header) : kept ram.halved ram.contents = ram.contents := by
  cases ram with
  | banks bs => rfl
  | nibbles cells =>
      have same : cells.toArray.map (· &&& 0x0F) = cells.toArray := by
        apply Array.ext
        · exact Array.size_map
        · intro i _ hi
          rw [Array.getElem_map]
          exact h.2 i (by simpa using hi)
      simp only [kept, halved, contents, if_true, List.map_toArray, List.map_cons, List.map_nil,
        same]

end ExternalRam

namespace Slot

/-- The RAM in the slot is the one that the cartridge has. -/
def Sound (slot : Slot) : Prop :=
  slot.ram.Fits slot.cartridge.header

theorem insert_sound (cartridge : Cartridge) (now : UInt64) : (insert cartridge now).Sound :=
  ExternalRam.blank_fits cartridge.header

variable {slot : Slot}

theorem reset_sound (h : slot.Sound) (now : UInt64) : (slot.reset now).Sound :=
  ExternalRam.clear_fits h

theorem fill_sound (h : slot.Sound) (given : Array (Array Byte)) :
    ({ slot with ram := slot.ram.fill given } : Slot).Sound :=
  ExternalRam.fill_fits h given

theorem write_sound (h : slot.Sound) (now : UInt64) (addr : Word) (value : Byte) :
    (slot.write now addr value).Sound := by
  unfold write
  dsimp only
  split
  · exact h
  · split
    · split
      · exact h
      · exact ExternalRam.write_fits h _ addr value
      · exact h
    · exact h

theorem write_cartridge (slot : Slot) (now : UInt64) (addr : Word) (value : Byte) :
    (slot.write now addr value).cartridge = slot.cartridge := by
  unfold write
  dsimp only
  split
  · rfl
  · split
    · split <;> rfl
    · rfl

end Slot

end DotMatrix
