import Mathlib.Algebra.Group.Nat.Defs
import Mathlib.Data.Nat.Log
import DotMatrix.Proofs.Cartridge.Slot
import DotMatrix.Proofs.Cpu.Stores

/-!
Which ROM banks are in the two windows. Every bank register holds what the last store to it left
there, so the banks are given by these last stores alone, one formula for each kind of controller.
-/

namespace DotMatrix

/-- The value of the last of some stores to the addresses a register answers to, or, if there is none,
what the register holds at power on. -/
def lastStored (stores : List Store) (answers : Word → Bool) (powerOn : Byte) : Byte :=
  ((stores.filter fun store => answers store.addr).getLast?.map Store.value).getD powerOn

theorem lastStored_concat (stores : List Store) (store : Store) (answers : Word → Bool)
    (powerOn : Byte) :
    lastStored (stores ++ [store]) answers powerOn =
      if answers store.addr then store.value else lastStored stores answers powerOn := by
  unfold lastStored
  rw [List.filter_append]
  by_cases h : answers store.addr = true
  · simp [h]
  · simp [h]

namespace Banking

def between (first past : Nat) (addr : Word) : Bool :=
  decide (first ≤ addr.toNat ∧ addr.toNat < past)

/-- The bank register of an MBC2: bit 8 of the address tells it from the enable register. -/
def mbc2Bank (addr : Word) : Bool :=
  decide (addr.toNat < 0x4000) && addr.toNat.testBit 8

/-- The bank in the window below `0x4000` after some stores since power on. -/
def lowBankAfter (kind : ControllerKind) (stores : List Store) : Nat :=
  match kind with
  | .mbc1 =>
    if (lastStored stores (between 0x6000 0x8000) 0).toNat.testBit 0 then
      ((lastStored stores (between 0x4000 0x6000) 0).toNat &&& 3) <<< 5
    else 0
  | .plain | .mbc2 | .mbc3 | .mbc5 => 0

/-- The bank in the window from `0x4000` on after some stores since power on. -/
def highBankAfter (kind : ControllerKind) (stores : List Store) : Nat :=
  match kind with
  | .plain => 1
  | .mbc1 =>
    ((lastStored stores (between 0x4000 0x6000) 0).toNat &&& 3) <<< 5 |||
      max 1 ((lastStored stores (between 0x2000 0x4000) 1).toNat &&& 31)
  | .mbc2 => max 1 ((lastStored stores mbc2Bank 1).toNat &&& 15)
  | .mbc3 => max 1 ((lastStored stores (between 0x2000 0x4000) 1).toNat &&& 127)
  | .mbc5 =>
    ((lastStored stores (between 0x3000 0x4000) 0).toNat &&& 1) <<< 8 |||
      (lastStored stores (between 0x2000 0x3000) 1).toNat

/-- The registers are those of a kind of controller, and each bank register holds what the last of some
stores to it left there. -/
def Follows (kind : ControllerKind) (stores : List Store) : Banking → Prop
  | plain => kind = .plain
  | mbc1 _ low high advanced =>
    kind = .mbc1 ∧
    low = nonzero (lastStored stores (between 0x2000 0x4000) 1 &&& 0x1F) ∧
    high = lastStored stores (between 0x4000 0x6000) 0 &&& 0x03 ∧
    advanced = (lastStored stores (between 0x6000 0x8000) 0).bit 0
  | mbc2 _ romBank =>
    kind = .mbc2 ∧ romBank = nonzero (lastStored stores mbc2Bank 1 &&& 0x0F)
  | mbc3 _ romBank _ _ =>
    kind = .mbc3 ∧ romBank = nonzero (lastStored stores (between 0x2000 0x4000) 1 &&& 0x7F)
  | mbc5 _ romBank _ _ =>
    kind = .mbc5 ∧
    romBank.high = lastStored stores (between 0x3000 0x4000) 0 &&& 0x01 ∧
    romBank.low = lastStored stores (between 0x2000 0x3000) 1

theorem initial_follows (board : Board) : (initial board).Follows board.kind [] := by
  unfold initial
  split
  · next kind => exact kind
  · next kind => exact ⟨kind, rfl, rfl, rfl⟩
  · next kind => exact ⟨kind, rfl⟩
  · next kind => exact ⟨kind, rfl⟩
  · next kind => exact ⟨kind, rfl, rfl⟩

section Step

variable {kind : ControllerKind} {stores : List Store} {b : Banking}

theorem high_bit_zero (addr : Word) : addr.high.bit 0 = addr.toNat.testBit 8 := by
  have small : addr.toNat / 0x100 < 0x100 := by
    have := addr.toNat_lt
    omega
  have high : addr.high.toNat = addr.toNat >>> 8 := by
    rw [Nat.shiftRight_eq_div_pow, Word.high, UInt8.toNat_ofNat', Nat.mod_eq_of_lt small]
  rw [Byte.bit, high, Nat.testBit_shiftRight]

/-- A store below `0x8000` is the last one to the register it goes to. -/
theorem write_follows (h : b.Follows kind stores) {store : Store}
    (low : store.addr.toNat < 0x8000) :
    (b.write store.addr store.value).Follows kind (stores ++ [store]) := by
  -- in each branch of the write the address says which register has a new last store
  cases b with
  | plain => exact h
  | mbc1 enabled low high advanced =>
      obtain ⟨kind, rfl, rfl, rfl⟩ := h
      unfold write
      dsimp only
      split_ifs <;> grind [Follows, lastStored_concat, between]
  | mbc2 enabled romBank =>
      obtain ⟨kind, rfl⟩ := h
      unfold write
      dsimp only
      split_ifs <;> grind [Follows, lastStored_concat, mbc2Bank, high_bit_zero]
  | mbc3 enabled romBank select armed =>
      obtain ⟨kind, rfl⟩ := h
      unfold write
      dsimp only
      split_ifs <;> grind [Follows, lastStored_concat, between]
  | mbc5 enabled romBank ramBank rumble =>
      obtain ⟨kind, high, low⟩ := h
      unfold write
      dsimp only
      split_ifs <;>
        grind [Follows, lastStored_concat, between, Word.high_ofBytes, Word.low_ofBytes]

theorem between_of_le {first past : Nat} {addr : Word} (above : past ≤ addr.toNat) :
    between first past addr = false := by
  unfold between
  exact decide_eq_false fun inside => absurd inside.2 (Nat.not_lt.mpr above)

/-- A store from `0x8000` on goes to no register of the controller. -/
theorem Follows.skip (h : b.Follows kind stores) {store : Store}
    (high : 0x8000 ≤ store.addr.toNat) : b.Follows kind (stores ++ [store]) := by
  have past : ∀ first past, past ≤ 0x8000 → between first past store.addr = false :=
    fun first past inside => between_of_le (inside.trans high)
  have mbc2 : mbc2Bank store.addr = false := by
    have above : ¬ store.addr.toNat < 0x4000 := by omega
    simp only [mbc2Bank, decide_eq_false above, Bool.false_and]
  cases b with
  | plain => exact h
  | mbc1 | mbc2 | mbc3 | mbc5 => simpa [Follows, lastStored_concat, past, mbc2] using h

end Step

section Banks

variable {kind : ControllerKind} {stores : List Store} {b : Banking}

theorem toNat_nonzero (bank : Byte) : (nonzero bank).toNat = max 1 bank.toNat := by
  unfold nonzero
  split
  · next zero => rw [zero]; rfl
  · next positive =>
      have : bank.toNat ≠ 0 := fun zero => positive (UInt8.toNat_inj.mp zero)
      omega

theorem Follows.lowBank_eq (h : b.Follows kind stores) : b.lowBank = lowBankAfter kind stores := by
  cases b with
  | plain =>
      rw [show kind = .plain from h]
      rfl
  | mbc1 enabled low high advanced =>
      obtain ⟨rfl, -, rfl, mode⟩ := h
      have mode' : (lastStored stores (between 0x6000 0x8000) 0).toNat.testBit 0 = advanced :=
        mode.symm
      cases advanced with
      | true =>
          simp only [lowBank, lowBankAfter, mode', if_true, UInt8.toNat_and, Nat.shiftLeft_eq]
          rfl
      | false => simp only [lowBank, lowBankAfter, mode', Bool.false_eq_true, if_false]
  | mbc2 | mbc3 | mbc5 =>
      obtain ⟨rfl, -⟩ := h
      rfl

theorem Follows.highBank_eq (h : b.Follows kind stores) :
    b.highBank = highBankAfter kind stores := by
  cases b with
  | plain =>
      rw [show kind = .plain from h]
      rfl
  | mbc1 enabled low high advanced =>
      obtain ⟨rfl, rfl, rfl, -⟩ := h
      -- the lower register has five bits, so its sum with the upper one is their union
      have five : max 1 ((lastStored stores (between 0x2000 0x4000) 1).toNat &&& 31) < 2 ^ 5 := by
        have := @Nat.and_le_right (lastStored stores (between 0x2000 0x4000) 1).toNat 31
        omega
      simp only [highBank, highBankAfter, toNat_nonzero, UInt8.toNat_and]
      rw [← Nat.shiftLeft_add_eq_or_of_lt five, Nat.shiftLeft_eq]
      rfl
  | mbc2 enabled romBank =>
      obtain ⟨rfl, rfl⟩ := h
      simp only [highBank, highBankAfter, toNat_nonzero, UInt8.toNat_and]
      rfl
  | mbc3 enabled romBank select armed =>
      obtain ⟨rfl, rfl⟩ := h
      simp only [highBank, highBankAfter, toNat_nonzero, UInt8.toNat_and]
      rfl
  | mbc5 enabled romBank ramBank rumble =>
      obtain ⟨rfl, high, low⟩ := h
      simp only [highBank, highBankAfter]
      rw [← Word.ofBytes_high_low romBank, Word.toNat_ofBytes, high, low,
        ← Nat.shiftLeft_add_eq_or_of_lt (UInt8.toNat_lt _), Nat.shiftLeft_eq, UInt8.toNat_and]
      rfl

end Banks

end Banking

namespace Slot

/-- The span is the least power of two that is no less than the number of banks. -/
theorem romSpan_eq (header : Header) : romSpan header = 2 ^ Nat.clog 2 (max header.romBanks 2) := by
  have two : 2 ≤ max header.romBanks 2 := Nat.le_max_right _ _
  generalize hn : max header.romBanks 2 = n at two
  have above : n ≤ 2 ^ ((n - 1).log2 + 1) := by
    have := @Nat.lt_log2_self (n - 1)
    omega
  have below : 2 ^ (n - 1).log2 < 2 ^ Nat.clog 2 n := by
    have least : 2 ^ (n - 1).log2 ≤ n - 1 := Nat.log2_self_le (by omega)
    have most : n ≤ 2 ^ Nat.clog 2 n := Nat.le_pow_clog (by omega) n
    omega
  have exponent : Nat.clog 2 n = (n - 1).log2 + 1 :=
    Nat.le_antisymm (Nat.clog_le_of_le_pow above)
      ((Nat.pow_lt_pow_iff_right (by omega)).mp below)
  rw [romSpan, hn, exponent, Nat.one_shiftLeft]

/-- A byte of the ROM of an image with a number of banks: bank numbers wrap at the least power of two
that is no less than the number of banks, two at least. -/
def romByte (image : Array Byte) (banks bank : Nat) (addr : Word) : Byte :=
  let mask := 2 ^ Nat.clog 2 (max banks 2) - 1
  image.getD ((bank &&& mask) * 0x4000 + (addr.toNat &&& 0x3FFF)) 0xFF

theorem readRom_eq (slot : Slot) (bank : Nat) (addr : Word) :
    slot.readRom bank addr =
      romByte slot.cartridge.image slot.cartridge.header.romBanks bank addr := by
  have inside : addr.toNat &&& 0x3FFF = addr.toNat % 0x4000 :=
    Nat.and_two_pow_sub_one_eq_mod addr.toNat 14
  rw [readRom, romByte, romSpan_eq, Nat.and_two_pow_sub_one_eq_mod, inside]
  rfl

/-- The bank in the window that an address below `0x8000` is in, after some stores since power on. -/
def bankAfter (kind : ControllerKind) (stores : List Store) (addr : Word) : Nat :=
  if addr.toNat < 0x4000 then Banking.lowBankAfter kind stores
  else Banking.highBankAfter kind stores

/-- The slot holds a cartridge whose bank registers hold what the last of some stores left there. -/
structure Follows (cartridge : Cartridge) (stores : List Store) (slot : Slot) : Prop where
  holds : slot.cartridge = cartridge
  banking : slot.banking.Follows cartridge.header.board.kind stores

section Follows

variable {cartridge : Cartridge} {stores : List Store} {slot : Slot}

theorem insert_follows (cartridge : Cartridge) (now : UInt64) :
    (insert cartridge now).Follows cartridge [] :=
  ⟨rfl, Banking.initial_follows cartridge.header.board⟩

theorem Follows.skip (h : slot.Follows cartridge stores) {store : Store}
    (high : 0x8000 ≤ store.addr.toNat) : slot.Follows cartridge (stores ++ [store]) :=
  ⟨h.holds, h.banking.skip high⟩

theorem write_follows (h : slot.Follows cartridge stores) (now : UInt64) (store : Store) :
    (slot.write now store.addr store.value).Follows cartridge (stores ++ [store]) := by
  refine ⟨(slot.write_cartridge now store.addr store.value).trans h.holds, ?_⟩
  unfold write
  dsimp only
  by_cases low : store.addr.toNat < 0x8000
  · rw [if_pos low]
    exact Banking.write_follows h.banking low
  · rw [if_neg low]
    have later := h.banking.skip (Nat.le_of_not_lt low)
    split
    · split <;> exact later
    · exact later

theorem Follows.read_eq (h : slot.Follows cartridge stores) {addr : Word}
    (low : addr.toNat < 0x8000) :
    slot.read addr =
      romByte cartridge.image cartridge.header.romBanks
        (bankAfter cartridge.header.board.kind stores addr) addr := by
  unfold read bankAfter
  dsimp only
  by_cases first : addr.toNat < 0x4000
  · rw [if_pos first, if_pos first, readRom_eq, h.holds, h.banking.lowBank_eq]
  · rw [if_neg first, if_pos low, if_neg first, readRom_eq, h.holds, h.banking.highBank_eq]

end Follows

end Slot

end DotMatrix
