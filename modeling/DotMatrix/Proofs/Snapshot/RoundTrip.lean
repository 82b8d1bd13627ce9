import DotMatrix.Proofs.Console.Reachable

/-!
The round trip of snapshots. What is restored is what a new snapshot shows, except for bits that the
console does not store: the low nibble of the flags, the bits of the status register that follow
from others, and the upper halves of the cells of an MBC2. In a snapshot of a reachable console
these bits are already what they will be, and it fits every console with the same cartridge.
-/

namespace DotMatrix

namespace Flags

theorem toByte_high (flags : Flags) : flags.toByte &&& 0xF0 = flags.toByte := by
  rw [← toByte_ofByte, ofByte_toByte]

end Flags

namespace CpuImage

/-- The image as the registers hold it: the low nibble of the flags is zero. -/
def normalized (i : CpuImage) : CpuImage :=
  { i with f := i.f &&& 0xF0 }

theorem ofRegisters_registers (i : CpuImage) : ofRegisters i.registers = i.normalized := by
  simp only [ofRegisters, registers, normalized, Registers.f, Flags.toByte_ofByte]

theorem normalized_ofRegisters (r : Registers) : (ofRegisters r).normalized = ofRegisters r := by
  simp only [normalized, ofRegisters, Registers.f, Flags.toByte_high]

end CpuImage

namespace Mode

theorem code_ofStatus (status : Byte) : (ofStatus status).code = status &&& 0x03 :=
  Byte.of_forall_lt (motive := fun status => (ofStatus status).code = status &&& 0x03)
    (by decide +kernel) status

/-- The bits of a status register with some interrupt enables, in a mode, on the line looked out for
or not. -/
theorem ofStatus_status (mode : Mode) (enables : Byte) (met : Bool) :
    ofStatus (0x80 ||| (enables &&& 0x78) ||| mode.code ||| bif met then 0x04 else 0) = mode := by
  cases mode <;> cases met <;> induction enables using Byte.of_forall_lt <;> decide +kernel +revert

theorem status_status (mode : Mode) (enables : Byte) (met : Bool) :
    let flag : Byte := bif met then 0x04 else 0
    let status := 0x80 ||| (enables &&& 0x78) ||| mode.code ||| flag
    0x80 ||| (status &&& 0x7B) ||| flag = status := by
  cases mode <;> cases met <;> induction enables using Byte.of_forall_lt <;> decide +kernel +revert

end Mode

namespace LcdImage

/-- The image as the controller holds it: the topmost bit of the status register is set, and the bit
for the line looked out for follows from the two lines. -/
def normalized (i : LcdImage) : LcdImage :=
  { i with status := 0x80 ||| (i.status &&& 0x7B) ||| (if i.line = i.compare then 0x04 else 0) }

end LcdImage

namespace Lcd

theorem status_parts (status flag : Byte) :
    0x80 ||| (status &&& 0x78) ||| (status &&& 0x03) ||| flag = 0x80 ||| (status &&& 0x7B) ||| flag := by
  have parts : 0x80 ||| (status &&& 0x78) ||| (status &&& 0x03) = 0x80 ||| (status &&& 0x7B) :=
    Byte.of_forall_lt (motive := fun status =>
      0x80 ||| (status &&& 0x78) ||| (status &&& 0x03) = 0x80 ||| (status &&& 0x7B))
      (by decide +kernel) status
  rw [parts]

theorem image_restored (lcd : Lcd) {image : LcdImage} (valid : image.Valid) :
    (lcd.restored image).image = image.normalized := by
  have oam : (Memory.ofArray 0xA0 image.oam).toArray = image.oam := by
    rw [Memory.ofArray_of_size valid.oam]
  have vram : (Memory.ofArray 0x2000 image.vram).toArray = image.vram := by
    rw [Memory.ofArray_of_size valid.vram]
  have status : (lcd.restored image).status = image.normalized.status := by
    simp only [Lcd.status, restored, Mode.code_ofStatus, enablesMask, LcdImage.normalized]
    exact status_parts _ _
  unfold Lcd.image
  rw [status]
  simp only [restored, oam, vram, LcdImage.normalized]

variable {lcd : Lcd}

theorem status_eq (h : lcd.Sound) :
    lcd.status = 0x80 ||| (lcd.enables &&& 0x78) ||| lcd.mode.code |||
      bif decide (lcd.line = lcd.compare) then 0x04 else 0 := by
  have masked := h.masked
  unfold enablesMask at masked
  rw [masked, Lcd.status, Bool.cond_decide]

theorem ofStatus_image (h : lcd.Sound) : Mode.ofStatus lcd.image.status = lcd.mode := by
  change Mode.ofStatus lcd.status = lcd.mode
  rw [status_eq h]
  exact Mode.ofStatus_status _ _ _

theorem image_valid (h : lcd.Sound) : lcd.image.Valid where
  oam := lcd.oam.size_toArray
  vram := lcd.vram.size_toArray
  last := h.last
  visible := by
    rw [ofStatus_image h]
    exact h.visible

theorem normalized_image (h : lcd.Sound) : lcd.image.normalized = lcd.image := by
  have status : 0x80 ||| (lcd.status &&& 0x7B) |||
      (if lcd.line = lcd.compare then 0x04 else 0) = lcd.status := by
    rw [← Bool.cond_decide, status_eq h]
    exact Mode.status_status lcd.mode lcd.enables (decide (lcd.line = lcd.compare))
  have whole : lcd.image.normalized = { lcd.image with
      status := 0x80 ||| (lcd.status &&& 0x7B) |||
        (if lcd.line = lcd.compare then 0x04 else 0) } := rfl
  rw [whole, status]
  rfl

end Lcd

namespace Snapshot

theorem bankFlaw?_none_iff {slot : Slot} {given : Array (Array Byte)} :
    bankFlaw? (some slot) given = none ↔
      given.size = slot.ram.bankCount ∧ ∀ bank ∈ given, bank.size = slot.ram.bankSize := by
  unfold bankFlaw?
  dsimp only
  split
  · next other =>
      constructor
      · intro h
        cases h
      · intro h
        exact absurd h.1 other
  · next count =>
      have count : given.size = slot.ram.bankCount := Decidable.not_not.mp count
      split
      · next bad =>
          obtain ⟨bank, member, differs⟩ := Array.any_eq_true'.mp bad
          constructor
          · intro h
            cases h
          · intro h
            simp [h.2 bank member] at differs
      · next good =>
          constructor
          · intro _
            refine ⟨count, fun bank member => ?_⟩
            refine Decidable.byContradiction fun differs => good ?_
            exact Array.any_eq_true'.mpr ⟨bank, member, by simpa using differs⟩
          · intro _
            rfl

/-- The snapshot as a console stores it; `halved` says whether it does so in half-byte cells. -/
def normalized (s : Snapshot) (halved : Bool) : Snapshot :=
  { cpu := s.cpu.normalized
    lcd := s.lcd.normalized
    ramBanks := ExternalRam.kept halved s.ramBanks }

end Snapshot

namespace Console

/-- Is there an MBC2 with its half-byte cells in the slot? -/
def halved (c : Console) : Bool :=
  c.bus.slot.any (·.ram.halved)

section Restored

variable {c : Console} {s : Snapshot}

theorem snapshot_restored (fits : Snapshot.bankFlaw? c.bus.slot s.ramBanks = none)
    (valid : s.lcd.Valid) : (c.restored s).snapshot = s.normalized c.halved := by
  have cpu : CpuImage.ofRegisters (c.restored s).cpu.regs = s.cpu.normalized :=
    s.cpu.ofRegisters_registers
  have lcd : (c.restored s).bus.lcd.image = s.lcd.normalized := c.bus.lcd.image_restored valid
  unfold snapshot Snapshot.normalized
  rw [cpu, lcd]
  simp only [restored, halved]
  cases hslot : c.bus.slot with
  | none =>
      rw [hslot] at fits
      have empty : s.ramBanks = #[] := by
        unfold Snapshot.bankFlaw? at fits
        dsimp only at fits
        split at fits
        · next empty => exact Array.isEmpty_iff.mp empty
        · cases fits
      rw [empty]
      rfl
  | some slot =>
      rw [hslot] at fits
      obtain ⟨count, size⟩ := Snapshot.bankFlaw?_none_iff.mp fits
      have banks := ExternalRam.contents_fill count size
      simp only [Option.map_some, Option.any_some, banks]

/-- A snapshot of a sound console shows nothing that is not stored. -/
theorem normalized_snapshot {g : Console} (h : g.Sound) :
    g.snapshot.normalized g.halved = g.snapshot := by
  have cpu := CpuImage.normalized_ofRegisters g.cpu.regs
  have lcd := Lcd.normalized_image h.bus.lcd
  unfold Snapshot.normalized
  simp only [snapshot, cpu, lcd, halved]
  cases hslot : g.bus.slot with
  | none => rfl
  | some slot =>
      have kept := ExternalRam.kept_contents (h.bus.slot slot hslot)
      simp only [Option.any_some, kept]

/-- Consoles with the same cartridge take one another's snapshots. -/
theorem snapshot_fits {g h : Console} (sound : g.Sound) (sound' : h.Sound)
    (same : g.cartridge = h.cartridge) :
    Snapshot.bankFlaw? h.bus.slot g.snapshot.ramBanks = none ∧ h.halved = g.halved := by
  unfold cartridge at same
  unfold halved
  simp only [snapshot]
  cases hg : g.bus.slot with
  | none =>
      cases hh : h.bus.slot with
      | none => exact ⟨rfl, rfl⟩
      | some slot' =>
          rw [hg, hh] at same
          cases same
  | some slot =>
      cases hh : h.bus.slot with
      | none =>
          rw [hg, hh] at same
          cases same
      | some slot' =>
          rw [hg, hh] at same
          have header : slot.cartridge.header = slot'.cartridge.header :=
            congrArg Cartridge.header (Option.some.inj same)
          have fits : slot'.ram.Fits slot.cartridge.header := by
            rw [header]
            exact sound'.bus.slot slot' hh
          obtain ⟨count, size, halved⟩ := (sound.bus.slot slot hg).alike fits
          refine ⟨Snapshot.bankFlaw?_none_iff.mpr ⟨?_, ?_⟩, halved⟩
          · rw [count]
            exact slot.ram.contents_size
          · intro bank member
            rw [size]
            exact slot.ram.size_of_mem_contents member

theorem halved_iff (h : c.Sound) :
    c.halved = true ↔
      ∃ cartridge, c.cartridge = some cartridge ∧ cartridge.header.board.kind = .mbc2 := by
  unfold halved cartridge
  cases hslot : c.bus.slot with
  | none => simp
  | some slot =>
      have kind := ExternalRam.halved_iff (h.bus.slot slot hslot)
      simp only [Option.any_some, kind, Option.map_some, Option.some.injEq, exists_eq_left']

end Restored

/-- A snapshot of a reachable console can be put into every reachable console with the same
cartridge, which then shows the same one; and whatever can be put into a console shows again but for
the bits that are not stored. -/
theorem snapshot_restore :
    (∀ g h : Console, g.Reachable → h.Reachable → g.cartridge = h.cartridge →
      ∃ h', h.restore g.snapshot = .ok h' ∧ h'.snapshot = g.snapshot) ∧
    (∀ (h h' : Console) (s : Snapshot), h.restore s = .ok h' →
      h'.snapshot = s.normalized h.halved) ∧
    (∀ h : Console, h.Reachable → (h.halved = true ↔
      ∃ cartridge, h.cartridge = some cartridge ∧ cartridge.header.board.kind = .mbc2)) := by
  have again : ∀ (h h' : Console) (s : Snapshot), h.restore s = .ok h' →
      h'.snapshot = s.normalized h.halved := by
    intro h h' s ok
    obtain ⟨fits, valid, rfl⟩ := restore_ok_iff.mp ok
    exact snapshot_restored fits valid
  refine ⟨?_, again, fun h reachable => halved_iff reachable.sound⟩
  intro g h reachable reachable' same
  obtain ⟨fits, halved⟩ := snapshot_fits reachable.sound reachable'.sound same
  have ok : h.restore g.snapshot = .ok (h.restored g.snapshot) :=
    restore_ok_iff.mpr ⟨fits, Lcd.image_valid reachable.sound.bus.lcd, rfl⟩
  refine ⟨_, ok, ?_⟩
  rw [again _ _ _ ok, halved, normalized_snapshot reachable.sound]

/-- A console with an MBC2 in its slot. -/
def blankMbc2 : Console :=
  ((initial 0).perform (.load ((programImage #[]).set! 0x0147 0x06))).1

/-- The same after its RAM has been opened, a byte stored there, the picture scrolled, and an
instruction executed. -/
def usedMbc2 : Console :=
  blankMbc2.performAll [.write 0x0000 0x0A, .write 0xA000 0x5A, .write 0xFF42 0x07, .dispatch]

theorem snapshot_restore_mbc2 :
    usedMbc2.Reachable ∧ blankMbc2.Reachable ∧ usedMbc2.cartridge = blankMbc2.cartridge ∧
      blankMbc2.halved = true ∧ usedMbc2.snapshot.lcd.scrollY = 0x07 ∧
      ∃ h', blankMbc2.restore usedMbc2.snapshot = .ok h' ∧ h'.snapshot = usedMbc2.snapshot := by
  have blank : blankMbc2.Reachable := (Reachable.initial 0).perform _
  have used : usedMbc2.Reachable := blank.performAll _
  have same : usedMbc2.cartridge = blankMbc2.cartridge :=
    blankMbc2.performAll_cartridge (by simp [Operation.inserts])
  have facts : blankMbc2.halved = true ∧ usedMbc2.snapshot.lcd.scrollY = 0x07 := by decide +kernel
  obtain ⟨halved, scrolled⟩ := facts
  have restored := snapshot_restore.1 usedMbc2 blankMbc2 used blank same
  exact ⟨used, blank, same, halved, scrolled, restored⟩

end Console

end DotMatrix
