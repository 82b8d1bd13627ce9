import DotMatrix.Proofs.Cartridge.SwitchedBank
import DotMatrix.Proofs.Console.SlotHistory

/-!
The bank in the switchable window as a program sees it, after any run that leaves the cartridge in
the slot, and the ROMs on which bank zero can come up there.
-/

namespace DotMatrix.Console

/-- The number the bank registers select for the switchable window after a run. -/
def selectedBank (c : Console) (cartridge : Cartridge) (ops : List Operation) : Nat :=
  Banking.highBankAfter cartridge.header.board.kind (SlotEvent.storesSince (c.pastOfAll ops))

/-- The bank that is in the switchable window after a run. -/
def switchedBank (c : Console) (cartridge : Cartridge) (ops : List Operation) : Nat :=
  c.selectedBank cartridge ops % Slot.romSpan cartridge.header

section Windows

variable {image : Array Byte} {cartridge : Cartridge} {c : Console}

/-- A read in the switchable window gives the byte of the image that is in that bank. -/
theorem read_switchedBank (accepted : Cartridge.ofImage image = .ok cartridge)
    (start : c.Starts cartridge) {ops : List Operation} (keeps : ∀ op ∈ ops, op.inserts = false)
    {addr : Word} (window : 0x4000 ≤ addr.toNat ∧ addr.toNat < 0x8000) :
    (c.performAll ops).bus.read addr =
      image.getD (c.switchedBank cartridge ops * 0x4000 + addr.toNat % 0x4000) 0xFF := by
  obtain ⟨now, history⟩ := start.performAll_slot
  have follows := Slot.after_follows cartridge now (c.pastOfAll ops)
  rw [Bus.read_slot (history ops keeps) window.2, follows.read_switched window,
    Cartridge.ofImage_image accepted]
  rfl

/-- The registers of an MBC1, an MBC2 or an MBC3 never select bank zero for the switchable window.
What is there is the bank of the selected number, wrapped at the banks of the ROM, and that is kept
from being bank zero, whatever is stored and however often the console is reset, exactly if the ROM
has more banks than the highest bit of the register numbers. -/
theorem bank_zero_hidden_iff (accepted : Cartridge.ofImage image = .ok cartridge)
    (start : c.Starts cartridge) {bits : Nat}
    (register : Banking.nonzeroBits? cartridge.header.board.kind = some bits) :
    (∀ ops : List Operation, (∀ op ∈ ops, op.inserts = false) →
      0 < c.selectedBank cartridge ops ∧
      ∀ addr : Word, 0x4000 ≤ addr.toNat ∧ addr.toNat < 0x8000 →
        (c.performAll ops).bus.read addr =
          image.getD (c.switchedBank cartridge ops * 0x4000 + addr.toNat % 0x4000) 0xFF) ∧
    ((∀ ops : List Operation, (∀ op ∈ ops, op.inserts = false) →
        c.switchedBank cartridge ops ≠ 0) ↔
      2 ^ (bits - 1) < cartridge.header.romBanks) := by
  refine ⟨fun ops keeps => ⟨Banking.highBankAfter_pos register _, fun addr window =>
    read_switchedBank accepted start keeps window⟩, ?_, ?_⟩
  · intro hidden
    refine Nat.lt_of_not_le fun few => ?_
    apply hidden [.write (Banking.highestBit bits).addr (Banking.highestBit bits).value]
    · intro op member
      rw [List.mem_singleton.mp member]
      rfl
    · exact Slot.switched_zero register few
  · intro many ops _
    exact Slot.switched_ne_zero register many _

end Windows

/-- An image of an MBC1 that states a number of banks by its code. -/
def mbc1Image (code : Byte) : Array Byte :=
  (boardImage 0x01 0x00).set! 0x0148 code

/-- The console that the image has just been put into. -/
def withMbc1 (code : Byte) : Console :=
  ((initial 0).perform (.load (mbc1Image code))).1

/-- On the ROM of 32 banks, nothing that is stored brings bank zero up in the window. -/
theorem bank_zero_hidden_iff_large :
    ∃ cartridge, Cartridge.ofImage (mbc1Image 0x04) = .ok cartridge ∧
      (withMbc1 0x04).Starts cartridge ∧
      Banking.nonzeroBits? cartridge.header.board.kind = some 5 ∧
      ∀ ops : List Operation, (∀ op ∈ ops, op.inserts = false) →
        (withMbc1 0x04).switchedBank cartridge ops ≠ 0 := by
  have header : (Cartridge.ofImage (mbc1Image 0x04)).toOption.map
      (fun cartridge => (cartridge.header.romBanks, cartridge.header.board.kind)) =
        some (32, .mbc1) := by decide +kernel
  obtain ⟨cartridge, accepted, header⟩ := exists_ok_of_map header
  obtain ⟨banks, kind⟩ := Prod.mk.inj header
  have start : (withMbc1 0x04).Starts cartridge := load_starts (initial 0) accepted
  have register : Banking.nonzeroBits? cartridge.header.board.kind = some 5 := by
    rw [kind]
    rfl
  have many : 2 ^ (5 - 1) < cartridge.header.romBanks := by
    rw [banks]
    decide
  exact ⟨cartridge, accepted, start, register,
    (bank_zero_hidden_iff accepted start register).2.mpr many⟩

/-- On the ROM of two banks, bank two is bank zero: its type byte is read in the window. -/
theorem bank_zero_comes_up :
    ∃ cartridge, Cartridge.ofImage (mbc1Image 0x00) = .ok cartridge ∧
      cartridge.header.board.kind = .mbc1 ∧ (withMbc1 0x00).Starts cartridge ∧
      (withMbc1 0x00).switchedBank cartridge [.write 0x2000 0x02] = 0 ∧
      ((withMbc1 0x00).performAll [.write 0x2000 0x02]).bus.read 0x4147 = 0x01 := by
  have header : (Cartridge.ofImage (mbc1Image 0x00)).toOption.map
      (fun cartridge => (cartridge.header.romBanks, cartridge.header.board.kind)) =
        some (2, .mbc1) := by decide +kernel
  have typeByte : (mbc1Image 0x00).getD (0 * 0x4000 + (0x4147 : Word).toNat % 0x4000) 0xFF =
      0x01 := by decide +kernel
  obtain ⟨cartridge, accepted, header⟩ := exists_ok_of_map header
  obtain ⟨banks, kind⟩ := Prod.mk.inj header
  have start : (withMbc1 0x00).Starts cartridge := load_starts (initial 0) accepted
  have zero : (withMbc1 0x00).switchedBank cartridge [.write 0x2000 0x02] = 0 := by
    unfold switchedBank selectedBank Slot.romSpan
    rw [banks, kind]
    rfl
  have keeps : ∀ op ∈ [Operation.write 0x2000 0x02], op.inserts = false := by
    simp [Operation.inserts]
  have window : 0x4000 ≤ (0x4147 : Word).toNat ∧ (0x4147 : Word).toNat < 0x8000 := by decide
  have read := read_switchedBank accepted start keeps window
  rw [zero, typeByte] at read
  exact ⟨cartridge, accepted, kind, start, zero, read⟩

end DotMatrix.Console
