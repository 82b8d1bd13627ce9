import DotMatrix.Proofs.Bus.Isolation

/-!
The transfer of a page into the sprite memory. The bytes go one after another, and each is read on the
bus as the bytes before it left it. So a transfer from the page of the sprite memory reads what it
writes; but at every turn it reads the one byte that it is about to write, and none that it has written.
Whatever the page, then, the sprites are its image from before the transfer.
-/

namespace DotMatrix

namespace Bus

/-- The address of a byte of a page. -/
def pageAddress (page : Byte) (index : Nat) : Word :=
  Word.ofBytes page 0 + UInt16.ofNat index

/-- Copies a byte of a page to its place in the sprite memory. -/
def transferByte (bus : Bus) (page : Byte) (index : Nat) : Bus :=
  { bus with lcd := bus.lcd.setOam index (bus.read (pageAddress page index)) }

/-- Copies the first bytes of a page into the sprite memory, one after another. -/
def transferBytes (bus : Bus) (page : Byte) : Nat → Bus
  | 0 => bus
  | count + 1 => (bus.transferBytes page count).transferByte page count

section Page

variable {page : Byte} {index : Nat}

theorem toNat_pageAddress (inside : index < 0x100) :
    (pageAddress page index).toNat = page.toNat * 0x100 + index := by
  have := page.toNat_lt
  rw [pageAddress, UInt16.toNat_add, Word.toNat_ofBytes, UInt16.toNat_ofNat']
  change (page.toNat * 0x100 + 0 + index % 2 ^ 16) % 2 ^ 16 = page.toNat * 0x100 + index
  omega

theorem pageAddress_eq_ofBytes (inside : index < 0x100) :
    pageAddress page index = Word.ofBytes page (UInt8.ofNat index) := by
  apply UInt16.toNat_inj.1
  rw [toNat_pageAddress inside, Word.toNat_ofBytes, UInt8.toNat_ofNat', Nat.mod_eq_of_lt inside]

/-- The register that holds the page is itself a byte of the last page. -/
theorem pageAddress_eq_register (inside : index < 0x100) :
    pageAddress page index = 0xFF46 ↔ page = 0xFF ∧ index = 0x46 := by
  have := page.toNat_lt
  rw [← UInt16.toNat_inj, toNat_pageAddress inside, ← UInt8.toNat_inj]
  change page.toNat * 0x100 + index = 0xFF46 ↔ page.toNat = 0xFF ∧ index = 0x46
  omega

/-- A byte that a transfer finds in the sprite memory is already at the place it goes to. -/
theorem index_of_oam_owns (inside : index < 160)
    (owns : BusPart.oam.Owns (pageAddress page index)) :
    (pageAddress page index).toNat - 0xFE00 = index := by
  have := page.toNat_lt
  have value : (pageAddress page index).toNat = page.toNat * 0x100 + index :=
    toNat_pageAddress (Nat.lt_trans inside (by decide))
  simp only [BusPart.Owns] at owns
  omega

/-- The sprite memory answers at its own page. -/
theorem oam_owns (inside : index < 160) : BusPart.oam.Owns (pageAddress 0xFE index) := by
  have value : (pageAddress 0xFE index).toNat = 0xFE * 0x100 + index :=
    toNat_pageAddress (Nat.lt_trans inside (by decide))
  simp only [BusPart.Owns]
  omega

end Page

section Copying

variable {bus after : Bus} {page : Byte} {count : Nat}

/-- What a transfer has done after a number of bytes: these are the image of the page, and the rest of
the bus is as it was, the sprite memory behind them too. -/
structure Transferred (bus : Bus) (page : Byte) (count : Nat) (after : Bus) : Prop where
  others : after = { bus with lcd.oam := after.lcd.oam }
  copied : ∀ i (inside : i < 160), i < count →
    after.lcd.oam[i] = bus.read (pageAddress page i)
  left : ∀ i (inside : i < 160), count ≤ i → after.lcd.oam[i] = bus.lcd.oam[i]

namespace Transferred

theorem start : Transferred bus page 0 bus where
  others := rfl
  copied := by
    intro i inside none
    cases none
  left := by
    intro i inside all
    rfl

/-- No byte that has been copied is read later. -/
theorem read_next (h : Transferred bus page count after) (more : count < 160) :
    after.read (pageAddress page count) = bus.read (pageAddress page count) := by
  obtain ⟨part, owns⟩ := BusPart.exists_owns (pageAddress page count)
  rw [read_eq_readPart _ owns, read_eq_readPart _ owns]
  by_cases sprites : part = .oam
  · subst sprites
    have untouched := h.left count more (Nat.le_refl count)
    simp only [readPart, index_of_oam_owns more owns, Memory.read_eq_getElem _ more]
    exact untouched
  · rw [h.others]
    exact bus.readPart_oam after.lcd.oam _ sprites

theorem transferByte (h : Transferred bus page count after) (more : count < 160) :
    Transferred bus page (count + 1) (after.transferByte page count) where
  others := by
    have others := h.others
    rw [others]
    rfl
  copied := by
    intro i inside upTo
    change (after.lcd.oam.setIfInBounds count _)[i] = _
    rw [Vector.getElem_setIfInBounds inside, h.read_next more]
    split
    case isTrue here => rw [here]
    case isFalse before => exact h.copied i inside (by omega)
  left := by
    intro i inside behind
    change (after.lcd.oam.setIfInBounds count _)[i] = _
    rw [Vector.getElem_setIfInBounds inside, if_neg (by omega)]
    exact h.left i inside (by omega)

end Transferred

theorem transferred_transferBytes (bus : Bus) (page : Byte) {count : Nat} (inside : count ≤ 160) :
    Transferred bus page count (bus.transferBytes page count) := by
  induction count with
  | zero => exact .start
  | succ count ih => exact (ih (Nat.le_of_succ_le inside)).transferByte inside

/-- Byte by byte a transfer makes what it makes all at once. -/
theorem transferBytes_eq_transferOam (bus : Bus) (page : Byte) :
    { bus with transferPage := page }.transferBytes page 160 = bus.transferOam page := by
  have done := transferred_transferBytes { bus with transferPage := page } page (Nat.le_refl 160)
  have image : ({ bus with transferPage := page }.transferBytes page 160).lcd.oam =
      (bus.transferOam page).lcd.oam := by
    apply Vector.ext
    intro i inside
    rw [done.copied i inside inside, pageAddress_eq_ofBytes (Nat.lt_trans inside (by decide))]
    simp only [transferOam, Vector.getElem_ofFn]
  rw [done.others, image]
  rfl

end Copying

section Image

variable (bus : Bus) (page : Byte)

/-- A new page shows in its own register alone. -/
theorem read_transferPage (addr : Word) :
    { bus with transferPage := page }.read addr = if addr = 0xFF46 then page else bus.read addr := by
  obtain ⟨part, owns⟩ := BusPart.exists_owns addr
  rw [read_eq_readPart _ owns, read_eq_readPart _ owns]
  by_cases register : part = .transferPage
  · subst register
    rw [if_pos owns.eq_transferPage]
    rfl
  · rw [if_neg]
    · cases part with
      | transferPage => exact absurd rfl register
      | _ => rfl
    · rintro rfl
      exact register (owns.unique (by decide))

end Image

/-- A transfer makes the sprite memory the image of its page, from whichever part of the console the page
is read. The bytes are those that were read before, except that the register of the page already shows
the new one; and beside the sprite memory and this register nothing changes. The bytes may be copied one
after another, each read on the bus as those before it left it. -/
theorem transfer_image (bus : Bus) (page : Byte) :
    let after := bus.write 0xFF46 page
    let image (i : Nat) :=
      if page = 0xFF ∧ i = 0x46 then page else bus.read (pageAddress page i)
    after = { bus with transferPage := page }.transferBytes page 160 ∧
      (∀ i (inside : i < 160),
        after.lcd.oam[i] = image i ∧ after.read (0xFE00 + UInt16.ofNat i) = image i) ∧
      after = { bus with transferPage := page, lcd.oam := after.lcd.oam } ∧
      ∀ addr, ¬ BusPart.oam.Owns addr →
        after.read addr = if addr = 0xFF46 then page else bus.read addr := by
  intro after image
  have transferred : after = bus.transferOam page := rfl
  have paged := bus.read_transferPage page
  have done := transferred_transferBytes { bus with transferPage := page } page (Nat.le_refl 160)
  rw [transferBytes_eq_transferOam, ← transferred] at done
  refine ⟨?_, ?_, done.others, ?_⟩
  · rw [transferBytes_eq_transferOam, ← transferred]
  · intro i inside
    have copied : after.lcd.oam[i] = image i := by
      rw [done.copied i inside inside, paged]
      simp only [pageAddress_eq_register (Nat.lt_trans inside (by decide)), image]
    refine ⟨copied, ?_⟩
    have owns := oam_owns inside
    have shown : after.read (pageAddress 0xFE i) = after.lcd.oam[i] := by
      rw [read_eq_readPart _ owns]
      simp only [readPart, index_of_oam_owns inside owns]
      exact Memory.read_eq_getElem _ inside
    exact shown.trans copied
  · intro addr elsewhere
    obtain ⟨part, owns⟩ := BusPart.exists_owns addr
    have beside : part ≠ .oam := fun same => elsewhere (same ▸ owns)
    rw [← paged, read_eq_readPart _ owns, read_eq_readPart _ owns, done.others]
    exact { bus with transferPage := page }.readPart_oam after.lcd.oam addr beside

/-- The last page holds the register of the page. It was clear, and its byte of the image is not. -/
theorem transfer_image_lastPage :
    let bus := (Bus.initial 0).write 0xFF80 0x12
    let after := bus.write 0xFF46 0xFF
    bus.read 0xFF46 = 0 ∧ after.read 0xFE46 = 0xFF ∧ after.read 0xFE80 = 0x12 ∧
      after.read 0xFF80 = 0x12 := by
  intro bus after
  obtain ⟨-, copied, -, others⟩ := transfer_image bus 0xFF
  refine ⟨by decide, (copied 0x46 (by decide)).2, ?_, ?_⟩
  · exact (copied 0x80 (by decide)).2.trans (by decide +kernel)
  · exact (others 0xFF80 (by decide)).trans (by decide +kernel)

end Bus

end DotMatrix
