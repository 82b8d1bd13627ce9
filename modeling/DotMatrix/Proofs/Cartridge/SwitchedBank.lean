import DotMatrix.Proofs.Cartridge.Header
import DotMatrix.Proofs.Cartridge.History

/-!
The bank in the switchable window. A bank register that cannot hold zero keeps its controller from
selecting bank zero, but the number it selects wraps at the banks of the ROM. So bank zero can come
up there on a ROM that has fewer banks than the register can number, and on no other.
-/

namespace DotMatrix

/-- The stores since the last reset, the first one first. -/
def SlotEvent.storesSince : List SlotEvent → List Store
  | [] => []
  | .reset _ :: _ => []
  | .fill _ :: earlier => storesSince earlier
  | .store _ made :: earlier => storesSince earlier ++ [made]

namespace Banking

theorem reset_follows {kind : ControllerKind} {stores : List Store} {b : Banking}
    (h : b.Follows kind stores) : b.reset.Follows kind [] := by
  cases b with
  | plain => exact h
  | mbc1 => exact ⟨h.1, rfl, rfl, rfl⟩
  | mbc2 => exact ⟨h.1, rfl⟩
  | mbc3 => exact ⟨h.1, rfl⟩
  | mbc5 => exact ⟨h.1, rfl, rfl⟩

/-- The exponent of the number of values of the bank register that cannot hold zero, for the
controllers that have one. -/
def nonzeroBits? : ControllerKind → Option Nat
  | .mbc1 => some 5
  | .mbc2 => some 4
  | .mbc3 => some 7
  | .plain | .mbc5 => none

section Selected

variable {kind : ControllerKind} {bits : Nat}

/-- The number that is selected is not zero, nor is the part of it that the register holds which
cannot hold zero. -/
theorem highBankAfter_mod (register : nonzeroBits? kind = some bits) (stores : List Store) :
    highBankAfter kind stores % 2 ^ bits ≠ 0 := by
  cases kind with
  | plain | mbc5 => cases register
  | mbc1 =>
      cases register
      have five : max 1 ((lastStored stores (between 0x2000 0x4000) 1).toNat &&& 31) < 2 ^ 5 := by
        have := @Nat.and_le_right (lastStored stores (between 0x2000 0x4000) 1).toNat 31
        omega
      rw [highBankAfter, ← Nat.shiftLeft_add_eq_or_of_lt five, Nat.shiftLeft_eq]
      omega
  | mbc2 =>
      cases register
      have := @Nat.and_le_right (lastStored stores mbc2Bank 1).toNat 15
      rw [highBankAfter]
      omega
  | mbc3 =>
      cases register
      have := @Nat.and_le_right (lastStored stores (between 0x2000 0x4000) 1).toNat 127
      rw [highBankAfter]
      omega

theorem highBankAfter_pos (register : nonzeroBits? kind = some bits) (stores : List Store) :
    0 < highBankAfter kind stores := by
  have selected := highBankAfter_mod register stores
  refine Nat.pos_of_ne_zero fun zero => selected ?_
  rw [zero, Nat.zero_mod]

/-- The store that sets the highest bit of the register alone, at an address that all three
controllers answer to. -/
def highestBit (bits : Nat) : Store :=
  ⟨0x2100, UInt8.ofNat (2 ^ (bits - 1))⟩

theorem highBankAfter_highestBit (register : nonzeroBits? kind = some bits) :
    highBankAfter kind [highestBit bits] = 2 ^ (bits - 1) := by
  cases kind with
  | plain | mbc5 => cases register
  | mbc1 | mbc2 | mbc3 =>
      cases register
      decide

end Selected

end Banking

namespace Slot

theorem apply_follows {cartridge : Cartridge} {past : List SlotEvent} {slot : Slot}
    (h : slot.Follows cartridge (SlotEvent.storesSince past)) (event : SlotEvent) :
    (slot.apply event).Follows cartridge (SlotEvent.storesSince (event :: past)) := by
  cases event with
  | store now store => exact write_follows h now store
  | fill given => exact ⟨h.holds, h.banking⟩
  | reset now => exact ⟨h.holds, Banking.reset_follows h.banking⟩

/-- Whatever a cartridge has been through, its bank registers hold what the stores since the last
reset left there. -/
theorem after_follows (cartridge : Cartridge) (now : UInt64) (past : List SlotEvent) :
    ((insert cartridge now).after past).Follows cartridge (SlotEvent.storesSince past) := by
  induction past with
  | nil => exact insert_follows cartridge now
  | cons event earlier ih => exact apply_follows ih event

/-- A read in the switchable window gives a byte of the bank that is selected, cut to the banks of
the ROM. -/
theorem Follows.read_switched {cartridge : Cartridge} {stores : List Store} {slot : Slot}
    (h : slot.Follows cartridge stores) {addr : Word}
    (window : 0x4000 ≤ addr.toNat ∧ addr.toNat < 0x8000) :
    slot.read addr =
      cartridge.image.getD
        (Banking.highBankAfter cartridge.header.board.kind stores % romSpan cartridge.header *
          Board.romBankSize + addr.toNat % Board.romBankSize) 0xFF := by
  unfold read
  dsimp only
  rw [if_neg (Nat.not_lt.mpr window.1), if_pos window.2, readRom, h.holds, h.banking.highBank_eq]

/-- A register of some bits can number more banks than the ROM has exactly if its highest bit alone
does. -/
theorem romSpan_lt_iff (header : Header) {bits : Nat} (h : 2 ≤ bits) :
    romSpan header < 2 ^ bits ↔ header.romBanks ≤ 2 ^ (bits - 1) := by
  have two : 2 ^ 1 ≤ 2 ^ (bits - 1) := Nat.pow_le_pow_right (by decide) (by omega)
  have below : Nat.clog 2 (max header.romBanks 2) < bits ↔
      Nat.clog 2 (max header.romBanks 2) ≤ bits - 1 := by omega
  rw [romSpan_eq, Nat.pow_lt_pow_iff_right (by decide), below,
    Nat.clog_le_iff_le_pow (by decide)]
  omega

section Wrap

variable {header : Header} {kind : ControllerKind} {bits : Nat}

theorem two_le_bits (register : Banking.nonzeroBits? kind = some bits) : 2 ≤ bits := by
  cases kind with
  | plain | mbc5 => cases register
  | mbc1 | mbc2 | mbc3 =>
      cases register
      decide

/-- With more banks in the ROM than the highest bit of the register numbers, what is selected does
not wrap to bank zero. -/
theorem switched_ne_zero (register : Banking.nonzeroBits? kind = some bits)
    (many : 2 ^ (bits - 1) < header.romBanks) (stores : List Store) :
    Banking.highBankAfter kind stores % romSpan header ≠ 0 := by
  have enough : 2 ^ bits ≤ romSpan header :=
    Nat.le_of_not_lt fun less =>
      Nat.not_le.mpr many ((romSpan_lt_iff header (two_le_bits register)).mp less)
  have divides : 2 ^ bits ∣ romSpan header := by
    rw [romSpan_eq] at enough ⊢
    exact Nat.pow_dvd_pow 2 ((Nat.pow_le_pow_iff_right (by decide)).mp enough)
  intro wraps
  apply Banking.highBankAfter_mod register stores
  exact Nat.mod_eq_zero_of_dvd (Nat.dvd_trans divides (Nat.dvd_of_mod_eq_zero wraps))

/-- With no more than that, the highest bit alone selects a number that wraps to bank zero. -/
theorem switched_zero (register : Banking.nonzeroBits? kind = some bits)
    (few : header.romBanks ≤ 2 ^ (bits - 1)) :
    Banking.highBankAfter kind [Banking.highestBit bits] % romSpan header = 0 := by
  have less : romSpan header < 2 ^ bits := (romSpan_lt_iff header (two_le_bits register)).mpr few
  have divides : romSpan header ∣ 2 ^ (bits - 1) := by
    rw [romSpan_eq] at less ⊢
    have := (Nat.pow_lt_pow_iff_right (by decide)).mp less
    exact Nat.pow_dvd_pow 2 (by omega)
  rw [Banking.highBankAfter_highestBit register]
  exact Nat.mod_eq_zero_of_dvd divides

end Wrap

end Slot

end DotMatrix
