import Mathlib.Algebra.BigOperators.Intervals
import DotMatrix.Proofs.Cartridge.Header

/-!
The header and its checksum. The header of an image is made of the bytes from `0x0134` to `0x014F` and of
nothing else. Its checksum is what is missing from the sum of all bytes before it, so no single byte of
them, and not the checksum either, can be changed without being noticed.
-/

namespace DotMatrix

namespace Header

section Assembly

variable {image : Array Byte}

/-- The bytes of a field, one by one. -/
theorem slice_eq_map {start stop : Nat} (inside : stop ≤ image.size) :
    slice image start stop =
      (List.range (stop - start)).map fun i => image.getD (start + i) 0 := by
  apply List.ext_getElem
  · rw [slice, Array.length_toList, Array.size_extract, Nat.min_eq_left inside, List.length_map,
      List.length_range]
  · intro i field mapped
    rw [List.length_map, List.length_range] at mapped
    have within : start + i < image.size := by omega
    rw [List.getElem_map, List.getElem_range]
    simp only [slice, Array.getElem_toList, Array.getElem_extract, Array.getD, within, dif_pos]
    rfl

end Assembly

section Agreement

variable {first second : Array Byte} (long : minImageSize ≤ first.size)
  (long' : minImageSize ≤ second.size)
  (agree : ∀ i, 0x0134 ≤ i → i ≤ 0x014F → first.getD i 0 = second.getD i 0)

include long long' agree

theorem slice_congr {start stop : Nat} (begins : 0x0134 ≤ start) (ends : stop ≤ 0x0150) :
    slice first start stop = slice second start stop := by
  have inside : stop ≤ first.size := Nat.le_trans ends long
  have inside' : stop ≤ second.size := Nat.le_trans ends long'
  rw [slice_eq_map inside, slice_eq_map inside']
  apply List.map_congr_left
  intro i member
  have less := List.mem_range.mp member
  exact agree (start + i) (by omega) (by omega)

/-- Nothing but the bytes of the header bears on it, or on what is wrong with it. -/
theorem ofImage_congr : ofImage first = ofImage second := by
  have same : ∀ board romBanks stated,
      assembled first board romBanks stated = assembled second board romBanks stated := by
    intro board romBanks stated
    unfold assembled
    rw [slice_congr long long' agree (by decide) (by decide),
      slice_congr long long' agree (by decide) (by decide),
      slice_congr long long' agree (by decide) (by decide),
      slice_congr long long' agree (by decide) (by decide),
      agree 0x0143 (by decide) (by decide), agree 0x0146 (by decide) (by decide),
      agree 0x0147 (by decide) (by decide), agree 0x014A (by decide) (by decide),
      agree 0x014C (by decide) (by decide), agree 0x014D (by decide) (by decide),
      agree 0x014E (by decide) (by decide), agree 0x014F (by decide) (by decide)]
  rw [ofImage_eq long, ofImage_eq long', agree 0x0147 (by decide) (by decide),
    agree 0x0148 (by decide) (by decide), agree 0x0149 (by decide) (by decide)]
  simp only [same]

end Agreement

section Sum

/-- A checksum is what is missing from the bytes and their number. -/
theorem checksumOf_eq (bytes : List Byte) :
    ((checksumOf bytes).toNat : Int) =
      -(bytes.length + (bytes.map UInt8.toNat).sum : Nat) % 256 := by
  -- the fold begins at zero, but the rest of one begins anywhere
  have from_start : ∀ start : Byte,
      ((bytes.foldl (fun sum b => sum - b - 1) start).toNat : Int) =
        (start.toNat - (bytes.length + (bytes.map UInt8.toNat).sum : Nat)) % 256 := by
    induction bytes with
    | nil =>
        intro start
        have byte := start.toNat_lt
        simp only [List.foldl_nil, List.length_nil, List.map_nil, List.sum_nil]
        omega
    | cons b rest ih =>
        intro start
        have taken : (start - b - 1).toNat = (start.toNat + (256 - b.toNat) + 255) % 256 := by
          rw [UInt8.toNat_sub, UInt8.toNat_sub]
          change (255 + (256 - b.toNat + start.toNat) % 256) % 256 = _
          omega
        have byte := b.toNat_lt
        rw [List.foldl_cons, ih, taken, List.length_cons, List.map_cons, List.sum_cons]
        omega
  exact (from_start 0).trans (by simp)

/-- The sum of the bytes that the checksum is over. -/
def byteSum (image : Array Byte) : Nat :=
  ∑ i ∈ Finset.Ico 0x0134 0x014D, (image.getD i 0).toNat

variable {image : Array Byte}

theorem checksumOf_slice (long : minImageSize ≤ image.size) :
    ((checksumOf (slice image 0x0134 0x014D)).toNat : Int) = -(25 + byteSum image : Nat) % 256 := by
  have inside : 0x014D ≤ image.size := Nat.le_trans (by decide) long
  have sum : ((slice image 0x0134 0x014D).map UInt8.toNat).sum = byteSum image := by
    rw [slice_eq_map inside, List.map_map, byteSum, Finset.sum_Ico_eq_sum_range]
    rfl
  have length : (slice image 0x0134 0x014D).length = 25 := by
    rw [slice_eq_map inside, List.length_map, List.length_range]
  rw [checksumOf_eq, sum, length]

theorem getD_setIfInBounds {i : Nat} (inside : i < image.size) (value : Byte) (j : Nat) :
    (image.setIfInBounds i value).getD j 0 = if i = j then value else image.getD j 0 := by
  rw [Array.getD_eq_getD_getElem?, Array.getD_eq_getD_getElem?, Array.getElem?_setIfInBounds]
  by_cases here : i = j
  · rw [if_pos here, if_pos here, if_pos inside]
    rfl
  · rw [if_neg here, if_neg here]

/-- A byte in the range of the checksum that is replaced changes the sum by the difference. -/
theorem byteSum_set (long : minImageSize ≤ image.size) {i : Nat} (first : 0x0134 ≤ i)
    (last : i < 0x014D) (value : Byte) :
    byteSum (image.setIfInBounds i value) + (image.getD i 0).toNat =
      byteSum image + value.toNat := by
  have inside : i < image.size := Nat.lt_of_lt_of_le (Nat.lt_trans last (by decide)) long
  have member : i ∈ Finset.Ico 0x0134 0x014D := Finset.mem_Ico.mpr ⟨first, last⟩
  have others : ∑ j ∈ (Finset.Ico 0x0134 0x014D).erase i,
        ((image.setIfInBounds i value).getD j 0).toNat =
      ∑ j ∈ (Finset.Ico 0x0134 0x014D).erase i, (image.getD j 0).toNat := by
    apply Finset.sum_congr rfl
    intro j other
    rw [getD_setIfInBounds inside, if_neg (Finset.ne_of_mem_erase other).symm]
  unfold byteSum
  rw [← Finset.add_sum_erase _ _ member, ← Finset.add_sum_erase _ _ member, others,
    getD_setIfInBounds inside, if_pos rfl]
  omega

/-- A byte that the checksum is not over does not bear on the sum. -/
theorem byteSum_set_of_le {i : Nat} (inside : i < image.size)
    (past : 0x014D ≤ i) (value : Byte) :
    byteSum (image.setIfInBounds i value) = byteSum image := by
  apply Finset.sum_congr rfl
  intro j member
  have before := (Finset.mem_Ico.mp member).2
  rw [getD_setIfInBounds inside, if_neg (by omega)]

variable {header : Header}

/-- The checksum that a header has, and the one it states. -/
theorem ofImage_checksums (h : ofImage image = .ok header) :
    (header.computedChecksum.toNat : Int) = -(25 + byteSum image : Nat) % 256 ∧
      header.checksum = image.getD 0x014D 0 := by
  obtain ⟨long, board, romBanks, stated, -, -, -, parts⟩ := ofImage_ok h
  have computed : header.computedChecksum = checksumOf (slice image 0x0134 0x014D) := by
    rw [parts, assembled]
  rw [computed, parts, assembled]
  exact ⟨checksumOf_slice long, rfl⟩

/-- The checksum of a header fits if the byte after the range is what is missing from the sum. -/
theorem checksumOk_iff (h : ofImage image = .ok header) :
    header.checksumOk = true ↔
      ((image.getD 0x014D 0).toNat : Int) = -(25 + byteSum image : Nat) % 256 := by
  obtain ⟨computed, stored⟩ := ofImage_checksums h
  rw [← computed, ← stored, checksumOk, beq_iff_eq, ← UInt8.toNat_inj, eq_comm, Int.natCast_inj]

/-- The checksum fits no more when a single byte of the header up to it has another value. -/
theorem checksumOk_set (h : ofImage image = .ok header) (fits : header.checksumOk = true) {i : Nat}
    (first : 0x0134 ≤ i) (last : i ≤ 0x014D) {value : Byte} (other : value ≠ image.getD i 0)
    {header' : Header} (h' : ofImage (image.setIfInBounds i value) = .ok header') :
    header'.checksumOk = false := by
  obtain ⟨long, -⟩ := ofImage_ok h
  have inside : i < image.size := Nat.lt_of_le_of_lt last (Nat.lt_of_lt_of_le (by decide) long)
  rw [checksumOk_iff h] at fits
  rw [Bool.eq_false_iff, ne_eq, checksumOk_iff h', getD_setIfInBounds inside]
  intro still
  apply other
  apply UInt8.toNat_inj.mp
  rcases Nat.lt_or_eq_of_le last with before | rfl
  · have sum := byteSum_set long first before value
    have byte := value.toNat_lt
    have byte' := (image.getD i 0).toNat_lt
    rw [if_neg (Nat.ne_of_lt before)] at still
    omega
  · rw [if_pos rfl, byteSum_set_of_le inside (Nat.le_refl _), ← fits] at still
    exact Int.natCast_inj.mp still

end Sum

end Header

namespace Cartridge

theorem ofImage_map_header (image : Array Byte) :
    (ofImage image).map (·.header) = Header.ofImage image := by
  unfold ofImage
  cases Header.ofImage image <;> rfl

/-- The checksum of an accepted image is what is missing from the sum of the 25 bytes before it and from
their number. If it fits, then no single byte of these, nor the checksum, can have another value without
the image being refused or its checksum not fitting. Images that are long enough and agree on the bytes of
the header have the same header or are refused for the same reason. -/
theorem checksum_exact :
    (∀ image cartridge, ofImage image = .ok cartridge →
      (cartridge.header.computedChecksum.toNat : Int) = -(25 + Header.byteSum image : Nat) % 256 ∧
      (cartridge.header.checksumOk = true → ∀ i, 0x0134 ≤ i → i ≤ 0x014D →
        ∀ value, value ≠ image.getD i 0 →
          ∀ changed, ofImage (image.setIfInBounds i value) = .ok changed →
            changed.header.checksumOk = false)) ∧
    ∀ first second : Array Byte,
      Header.minImageSize ≤ first.size → Header.minImageSize ≤ second.size →
      (∀ i, 0x0134 ≤ i → i ≤ 0x014F → first.getD i 0 = second.getD i 0) →
        (ofImage first).map (·.header) = (ofImage second).map (·.header) := by
  constructor
  · intro image cartridge accepted
    have read := ofImage_header accepted
    constructor
    · exact (Header.ofImage_checksums read).1
    · intro fits i first last value other changed accepted'
      exact Header.checksumOk_set read fits first last other (ofImage_header accepted')
  · intro first second long long' agree
    rw [ofImage_map_header, ofImage_map_header]
    exact Header.ofImage_congr long long' agree

/-- A blank image with a letter for a title, a board, sizes and the checksum that fits them. -/
def stamped : Array Byte :=
  [(0x0134, 0x41), (0x0147, 0x13), (0x0148, 0x01), (0x0149, 0x03), (0x014D, 0x8F)].foldl
    (fun image (i, value) => image.setIfInBounds i value) (Array.replicate 0x0150 0)

/-- The same one with a program, which the header does not know of. -/
def programmed : Array Byte :=
  stamped.setIfInBounds 0x0100 0x18 ++ Array.replicate 0x10 0xFF

/-- Another version, the last byte that the checksum is over, is noticed. -/
theorem checksum_exact_stamped :
    ∃ cartridge changed, ofImage stamped = .ok cartridge ∧ cartridge.header.checksumOk = true ∧
      1 ≠ stamped.getD 0x014C 0 ∧ ofImage (stamped.setIfInBounds 0x014C 1) = .ok changed ∧
      changed.header.checksumOk = false ∧
      (cartridge.header.computedChecksum.toNat : Int) = -(25 + Header.byteSum stamped : Nat) % 256 ∧
      Header.minImageSize ≤ stamped.size ∧ Header.minImageSize ≤ programmed.size ∧
      (∀ i, 0x0134 ≤ i → i ≤ 0x014F → stamped.getD i 0 = programmed.getD i 0) ∧
      (ofImage stamped).map (·.header) = (ofImage programmed).map (·.header) := by
  have facts : (ofImage stamped).toOption.map (·.header.checksumOk) = some true ∧
      (ofImage (stamped.setIfInBounds 0x014C 1)).toOption.map (·.header.version) = some 1 ∧
      1 ≠ stamped.getD 0x014C 0 ∧ Header.minImageSize ≤ stamped.size ∧
      Header.minImageSize ≤ programmed.size ∧
      ∀ k < 0x1C, stamped.getD (0x0134 + k) 0 = programmed.getD (0x0134 + k) 0 := by
    decide +kernel
  obtain ⟨fits, version, other, long, long', same⟩ := facts
  obtain ⟨cartridge, accepted, fits⟩ := exists_ok_of_map fits
  obtain ⟨changed, accepted', -⟩ := exists_ok_of_map version
  have agree : ∀ i, 0x0134 ≤ i → i ≤ 0x014F → stamped.getD i 0 = programmed.getD i 0 := by
    intro i first last
    have here := same (i - 0x0134) (by omega)
    rwa [Nat.add_sub_cancel' first] at here
  obtain ⟨sum, noticed⟩ := checksum_exact.1 stamped cartridge accepted
  have broken := noticed fits 0x014C (by decide) (by decide) 1 other changed accepted'
  have alike := checksum_exact.2 stamped programmed long long' agree
  exact ⟨cartridge, changed, accepted, fits, other, accepted', broken, sum, long, long', agree,
    alike⟩

end Cartridge

end DotMatrix
