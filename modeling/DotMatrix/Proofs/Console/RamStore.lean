import DotMatrix.Proofs.Cartridge.RamStore
import DotMatrix.Proofs.Console.SlotHistory

/-!
The external RAM as a program and a host see it. Whatever is done with a cartridge in the slot, a read of
its RAM gives the byte that the past left in the cell behind the address, and the contents that are taken
out are all the cells.
-/

namespace DotMatrix

namespace Console

section Store

variable {image : Array Byte} {cartridge : Cartridge} {c : Console}

/-- A read where RAM is open and selected gives the byte of the cell there; where RAM is closed, or
where there is none and no clock chip answers either, it gives `0xFF`. A store changes no cell while
RAM is closed or something else is selected. And the contents are all the cells. -/
theorem external_ram_kept (accepted : Cartridge.ofImage image = .ok cartridge)
    (start : c.Starts cartridge) {ops : List Operation} (run : ∀ op ∈ ops, op.inserts = false) :
    let header := cartridge.header
    let past := c.pastOfAll ops
    let bus := (c.performAll ops).bus
    (∀ addr cell, header.ramCell? past addr = some cell →
      bus.read addr = header.board.seen (header.ramByte cell past)) ∧
    (∀ addr : Word, 0xA000 ≤ addr.toNat → addr.toNat < 0xC000 →
      (Banking.ramEnabled header.board.kind past = false ∨
        header.ram.banks = 0 ∧ Banking.clockOpen header.board past = false) →
      bus.read addr = 0xFF) ∧
    (∀ addr value,
      (Banking.ramEnabled header.board.kind past = false ∨
        Banking.ramBank? header.board past = none) →
      (bus.write addr value).slot.map (·.ram.contents) = bus.slot.map (·.ram.contents)) ∧
    bus.slot.map (·.ram.contents) = some (header.ramContents past) := by
  intro header past bus
  have maskable : header.Maskable := Header.ofImage_maskable (Cartridge.ofImage_header accepted)
  obtain ⟨now, after⟩ := start.performAll_slot
  have hslot := after ops run
  have fresh := Slot.insert_recalls cartridge now
  have recalls : ((Slot.insert cartridge now).after past).Recalls cartridge past :=
    Slot.after_recalls fresh past
  have holds : ((Slot.insert cartridge now).after past).ram.Holds header past :=
    Slot.after_holds fresh maskable (ExternalRam.blank_holds header) past
  refine ⟨?_, ?_, ?_, ?_⟩
  · intro addr cell hits
    rw [Bus.read_slot_window _ hslot (Header.ramCell?_window hits)]
    exact recalls.read_cell maskable holds hits
  · intro addr above below silent
    rw [Bus.read_slot_window _ hslot ⟨above, below⟩]
    rcases silent with closed | ⟨bare, clockless⟩
    · have clockless : Banking.clockOpen header.board past = false := by
        rw [Banking.clockOpen, closed, Bool.and_false, Bool.false_and]
      exact recalls.read_nothing maskable holds ⟨above, below⟩ (Header.ramCell?_closed closed)
        clockless
    · exact recalls.read_nothing maskable holds ⟨above, below⟩ (Header.ramCell?_bare bare) clockless
  · intro addr value untouched
    have misses : header.ramCell? past addr = none := by
      rcases untouched with closed | unselected
      · exact Header.ramCell?_closed closed
      · exact Header.ramCell?_unselected unselected
    have later := recalls.apply_holds maskable holds (.store bus.now ⟨addr, value⟩)
    have same : ((Slot.insert cartridge now).after past).ram.Holds header
        (.store bus.now ⟨addr, value⟩ :: past) := holds.skip bus.now misses
    rw [bus.write_slot_eq, hslot, Option.map_some, Option.map_some, Option.map_some]
    exact congrArg some ((later.contents_eq maskable).trans (same.contents_eq maskable).symm)
  · rw [hslot, Option.map_some, holds.contents_eq maskable]

end Store

/-- Stores to the same place of two banks of an MBC5 whose motor takes the fourth bit of the bank number,
with contents put in before. -/
def storeTwice : List Operation :=
  [.fillRam #[#[0x01, 0x02], #[0x03, 0x04]], .write 0x0000 0x0A, .write 0x4000 0x0D,
    .write 0xA123 0x5A, .write 0x4000 0x08, .write 0xA123 0x11, .write 0x4000 0x05]

theorem external_ram_kept_rumble :
    ∃ cartridge, Cartridge.ofImage (boardImage 0x1E 0x03) = .ok cartridge ∧
      (withBoard 0x1E 0x03).Starts cartridge ∧ (∀ op ∈ storeTwice, op.inserts = false) ∧
      ((withBoard 0x1E 0x03).performAll storeTwice).bus.read 0xA123 = 0x5A ∧
      ((withBoard 0x1E 0x03).performAll storeTwice).bus.read 0xA001 = 0x04 := by
  have run : ∀ op ∈ storeTwice, op.inserts = false := by simp [storeTwice, Operation.inserts]
  have facts : (Cartridge.ofImage (boardImage 0x1E 0x03)).toOption.map (fun cartridge =>
      let past := (withBoard 0x1E 0x03).pastOfAll storeTwice
      let header := cartridge.header
      (header.ramCell? past 0xA123, header.board.seen (header.ramByte ⟨1, 0x0123⟩ past),
        header.ramCell? past 0xA001, header.board.seen (header.ramByte ⟨1, 0x0001⟩ past))) =
      some (some ⟨1, 0x0123⟩, 0x5A, some ⟨1, 0x0001⟩, 0x04) := by decide +kernel
  obtain ⟨cartridge, accepted, known⟩ := exists_ok_of_map facts
  obtain ⟨stored, first, put, second⟩ : _ ∧ _ ∧ _ ∧ _ := by
    simpa only [Prod.mk.injEq] using known
  have start : (withBoard 0x1E 0x03).Starts cartridge := load_starts _ accepted
  have cells := (external_ram_kept accepted start run).1
  exact ⟨cartridge, accepted, start, run, (cells _ _ stored).trans first,
    (cells _ _ put).trans second⟩

/-- A board with a clock chip and no RAM: the chip answers in the window. -/
theorem bare_window_answers :
    ∃ cartridge, Cartridge.ofImage (boardImage 0x0F 0x00) = .ok cartridge ∧
      (withBoard 0x0F 0x00).Starts cartridge ∧ cartridge.header.ram.banks = 0 ∧
      ((withBoard 0x0F 0x00).performAll [.write 0x0000 0x0A, .write 0x4000 0x08]).bus.read 0xA000 ≠
        0xFF := by
  have bare : (Cartridge.ofImage (boardImage 0x0F 0x00)).toOption.map (·.header.ram.banks) =
      some 0 := by decide +kernel
  obtain ⟨cartridge, accepted, bare⟩ := exists_ok_of_map bare
  exact ⟨cartridge, accepted, load_starts _ accepted, bare, by decide +kernel⟩

end Console

end DotMatrix
