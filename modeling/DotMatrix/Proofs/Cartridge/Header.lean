import Mathlib.Algebra.Group.Nat.Defs
import Mathlib.Data.Nat.Log
import DotMatrix.Cartridge.Header

/-!
What is known of the header of an image that is accepted. It is made of the bytes of the image, and its
numbers of banks are those that its size bytes stand for, so the banks of its RAM, if there are any, are as
many as a power of two.
-/

namespace DotMatrix

namespace Header

variable {image : Array Byte} {header : Header}

/-- The header that an image has on a board, with some banks of ROM and a stated size of RAM. -/
def assembled (image : Array Byte) (board : Board) (romBanks : Nat) (stated : RamSize) : Header where
  title := text (slice image 0x0134 0x0144)
  manufacturer := text (slice image 0x013F 0x0143)
  colour :=
    match (image.getD 0x0143 0).toNat with
    | 0xC0 => .required
    | 0x80 => .allowed
    | _ => .absent
  newLicensee := text (slice image 0x0144 0x0146)
  sgb := image.getD 0x0146 0 == 0x03
  typeCode := image.getD 0x0147 0
  board := board
  romBanks := romBanks
  ram := stated.fitted board
  region := if image.getD 0x014A 0 == 0x00 then .japanese else .overseas
  version := image.getD 0x014C 0
  checksum := image.getD 0x014D 0
  globalChecksum := .ofBytes (image.getD 0x014E 0) (image.getD 0x014F 0)
  computedChecksum := checksumOf (slice image 0x0134 0x014D)

/-- The header of an image that is long enough depends on what its type byte and its two size bytes stand
for, in this order. -/
theorem ofImage_eq (long : minImageSize ≤ image.size) :
    ofImage image =
      match Board.ofType? (image.getD 0x0147 0) with
      | none => .error (.unknownCartridgeType (image.getD 0x0147 0))
      | some board =>
        match romBanks? (image.getD 0x0148 0) with
        | none => .error (.unknownRomSize (image.getD 0x0148 0))
        | some romBanks =>
          match RamSize.ofCode? (image.getD 0x0149 0) with
          | none => .error (.unknownRamSize (image.getD 0x0149 0))
          | some stated => .ok (assembled image board romBanks stated) := by
  unfold ofImage
  rw [if_neg (Nat.not_lt.mpr long)]
  dsimp only
  cases Board.ofType? (image.getD 0x0147 0) with
  | none => rfl
  | some board =>
      cases romBanks? (image.getD 0x0148 0) with
      | none => rfl
      | some romBanks =>
          cases RamSize.ofCode? (image.getD 0x0149 0) with
          | none => rfl
          | some stated => rfl

/-- An image that has a header is long enough, its type and size bytes stand for something, and the header
is made of its bytes. -/
theorem ofImage_ok (h : ofImage image = .ok header) :
    minImageSize ≤ image.size ∧
      ∃ board romBanks stated, Board.ofType? (image.getD 0x0147 0) = some board ∧
        romBanks? (image.getD 0x0148 0) = some romBanks ∧
        RamSize.ofCode? (image.getD 0x0149 0) = some stated ∧
        header = assembled image board romBanks stated := by
  by_cases long : minImageSize ≤ image.size
  case neg =>
    rw [ofImage, if_pos (Nat.not_le.mp long)] at h
    cases h
  rw [ofImage_eq long] at h
  split at h
  · cases h
  split at h
  · cases h
  split at h
  · cases h
  · next _ board type _ romBanks banks _ stated size =>
      exact ⟨long, board, romBanks, stated, type, banks, size, (Except.ok.inj h).symm⟩

/-- The sizes in a header are those of the two size bytes. -/
theorem ofImage_sizes (h : ofImage image = .ok header) :
    ∃ stated, romBanks? (image.getD 0x0148 0) = some header.romBanks ∧
      RamSize.ofCode? (image.getD 0x0149 0) = some stated ∧
      header.ram = stated.fitted header.board := by
  obtain ⟨-, board, romBanks, stated, -, banks, size, rfl⟩ := ofImage_ok h
  exact ⟨stated, banks, size, rfl⟩

/-- The number of banks of ROM that a size byte states: a power of two, or one of three numbers between
these. -/
def statedBanks (code : Byte) : Nat :=
  match code.toNat with
  | 0x00 => 2
  | 0x01 => 4
  | 0x02 => 8
  | 0x03 => 16
  | 0x04 => 32
  | 0x05 => 64
  | 0x06 => 128
  | 0x07 => 256
  | 0x08 => 512
  | 0x52 => 72
  | 0x53 => 80
  | 0x54 => 96
  | _ => 0

/-- The controller that a type byte states. -/
def statedController (code : Byte) : ControllerKind :=
  match code.toNat with
  | 0x01 | 0x02 | 0x03 => .mbc1
  | 0x05 | 0x06 => .mbc2
  | 0x0F | 0x10 | 0x11 | 0x12 | 0x13 => .mbc3
  | 0x19 | 0x1A | 0x1B | 0x1C | 0x1D | 0x1E => .mbc5
  | _ => .plain

theorem romBanks?_stated (code : Byte) : ∀ banks ∈ romBanks? code, banks = statedBanks code := by
  induction code using Byte.of_forall_lt
  decide +kernel +revert

theorem ofType?_stated (code : Byte) :
    ∀ board ∈ Board.ofType? code, board.kind = statedController code := by
  induction code using Byte.of_forall_lt
  decide +kernel +revert

/-- The header says what the type byte and the size byte of the image state. -/
theorem ofImage_stated (h : ofImage image = .ok header) :
    header.board.kind = statedController (image.getD 0x0147 0) ∧
      header.romBanks = statedBanks (image.getD 0x0148 0) := by
  obtain ⟨-, board, romBanks, stated, type, banks, -, rfl⟩ := ofImage_ok h
  exact ⟨ofType?_stated _ board type, romBanks?_stated _ romBanks banks⟩

/-- Bank numbers can be masked: if there are banks at all, their number is a power of two, and an MBC2
has a single one. -/
structure Maskable (header : Header) : Prop where
  power : 0 < header.ram.banks → ∃ k, header.ram.banks = 2 ^ k
  single : header.board.kind = .mbc2 → header.ram.banks = 1

theorem ofCode?_power {code : Byte} {stated : RamSize} (h : RamSize.ofCode? code = some stated)
    (fitted : 0 < stated.banks) : ∃ k, stated.banks = 2 ^ k := by
  unfold RamSize.ofCode? at h
  split at h
  case h_1 =>
    cases h
    cases fitted
  case h_2 | h_3 =>
    cases h
    exact ⟨0, rfl⟩
  case h_4 =>
    cases h
    exact ⟨2, rfl⟩
  case h_5 =>
    cases h
    exact ⟨4, rfl⟩
  case h_6 =>
    cases h
    exact ⟨3, rfl⟩
  case h_7 => cases h

theorem fitted_banks (stated : RamSize) (board : Board) :
    (stated.fitted board).banks = 0 ∨ (stated.fitted board).banks = 1 ∨
      (stated.fitted board).banks = stated.banks := by
  unfold RamSize.fitted
  split
  · exact Or.inr (Or.inl rfl)
  · split
    · exact Or.inr (Or.inl rfl)
    · exact Or.inl rfl
  · split
    · exact Or.inr (Or.inr rfl)
    · exact Or.inl rfl

theorem ofImage_maskable (h : ofImage image = .ok header) : header.Maskable := by
  obtain ⟨stated, -, size, fitted⟩ := ofImage_sizes h
  constructor
  · intro positive
    rw [fitted] at positive ⊢
    rcases fitted_banks stated header.board with none | one | same
    · rw [none] at positive
      cases positive
    · exact ⟨0, one⟩
    · rw [same] at positive ⊢
      exact ofCode?_power size positive
  · intro kind
    rw [fitted, RamSize.fitted, kind]

/-- A number is cut to the banks there are by a mask. -/
theorem Maskable.mask_eq (h : header.Maskable) (fitted : 0 < header.ram.banks) (bank : Nat) :
    bank &&& (header.ram.banks - 1) = bank % max header.ram.banks 1 := by
  obtain ⟨k, power⟩ := h.power fitted
  rw [Nat.max_eq_left fitted, power, Nat.and_two_pow_sub_one_eq_mod]

end Header

namespace Cartridge

variable {image : Array Byte} {cartridge : Cartridge}

theorem ofImage_parts (h : ofImage image = .ok cartridge) :
    Header.ofImage image = .ok cartridge.header ∧ cartridge.image = image := by
  unfold ofImage at h
  cases read : Header.ofImage image with
  | error failure =>
      rw [read] at h
      cases h
  | ok header =>
      rw [read] at h
      cases h
      exact ⟨rfl, rfl⟩

/-- A cartridge has the header of its image. -/
theorem ofImage_header (h : ofImage image = .ok cartridge) :
    Header.ofImage image = .ok cartridge.header :=
  (ofImage_parts h).1

theorem ofImage_image (h : ofImage image = .ok cartridge) : cartridge.image = image :=
  (ofImage_parts h).2

end Cartridge

end DotMatrix
