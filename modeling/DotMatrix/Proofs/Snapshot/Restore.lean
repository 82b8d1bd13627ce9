import DotMatrix.Operation

/-!
Restoring a snapshot. It succeeds exactly if the RAM banks fit the slot and the LCD image is valid,
and then everything that a snapshot holds is replaced. Done in place, with all checks before the
first change, it comes to the same, and so does putting in a cartridge.
-/

namespace DotMatrix

/-- The buffers have their sizes, and the line is one that the mode can have. -/
structure LcdImage.Valid (image : LcdImage) : Prop where
  oam : image.oam.size = 0xA0
  vram : image.vram.size = 0x2000
  last : image.line.toNat ≤ Screen.lastLine
  visible : Mode.ofStatus image.status ≠ .vblank → image.line.toNat < Screen.height

namespace Lcd

def restored (lcd : Lcd) (image : LcdImage) : Lcd :=
  { lcd with
    vram := .ofArray _ image.vram
    oam := .ofArray _ image.oam
    control := image.control
    enables := image.status &&& enablesMask
    scrollY := image.scrollY
    scrollX := image.scrollX
    line := image.line
    compare := image.compare
    bgPalette := image.bgPalette
    objPalette0 := image.objPalette0
    objPalette1 := image.objPalette1
    windowY := image.windowY
    windowX := image.windowX
    mode := Mode.ofStatus image.status
    modeClock := 0 }

variable {lcd : Lcd} {image : LcdImage}

theorem restore_of_valid (h : image.Valid) : lcd.restore image = .ok (lcd.restored image) := by
  have notPast : ¬ Screen.lastLine < image.line.toNat := Nat.not_lt.mpr h.last
  have inside : ¬ (Screen.height ≤ image.line.toNat ∧ Mode.ofStatus image.status ≠ .vblank) := by
    rintro ⟨below, outside⟩
    exact absurd (h.visible outside) (Nat.not_lt.mpr below)
  simp only [restore, restored, dif_pos h.oam, dif_pos h.vram, if_neg notPast, if_neg inside,
    Memory.ofArray_of_size h.oam, Memory.ofArray_of_size h.vram]
  rfl

/-- An image that is not valid fails one of four checks, and the first that it fails is the one that
is reported. -/
theorem restore_cases (lcd : Lcd) (image : LcdImage) :
    (image.Valid ∧ lcd.restore image = .ok (lcd.restored image)) ∨
    (image.oam.size ≠ 0xA0 ∧ lcd.restore image = .error (.badSnapshot .oamSize)) ∨
    (image.oam.size = 0xA0 ∧ image.vram.size ≠ 0x2000 ∧
      lcd.restore image = .error (.badSnapshot .vramSize)) ∨
    (image.oam.size = 0xA0 ∧ image.vram.size = 0x2000 ∧ ¬ image.line.toNat ≤ Screen.lastLine ∧
      lcd.restore image = .error (.badSnapshot .lineTooLarge)) ∨
    (image.oam.size = 0xA0 ∧ image.vram.size = 0x2000 ∧ image.line.toNat ≤ Screen.lastLine ∧
      ¬ (image.line.toNat < Screen.height ∨ Mode.ofStatus image.status = .vblank) ∧
      lcd.restore image = .error (.badSnapshot .lineOutsideVBlank)) := by
  by_cases hOam : image.oam.size = 0xA0
  case neg =>
    right; left
    refine ⟨hOam, ?_⟩
    simp only [restore, dif_neg hOam]
    rfl
  by_cases hVram : image.vram.size = 0x2000
  case neg =>
    right; right; left
    refine ⟨hOam, hVram, ?_⟩
    simp only [restore, dif_pos hOam, dif_neg hVram]
    rfl
  by_cases hLast : image.line.toNat ≤ Screen.lastLine
  case neg =>
    right; right; right; left
    refine ⟨hOam, hVram, hLast, ?_⟩
    simp only [restore, dif_pos hOam, dif_pos hVram, if_pos (Nat.lt_of_not_le hLast)]
    rfl
  by_cases hLine : image.line.toNat < Screen.height ∨ Mode.ofStatus image.status = .vblank
  case neg =>
    right; right; right; right
    refine ⟨hOam, hVram, hLast, hLine, ?_⟩
    obtain ⟨below, outside⟩ := not_or.mp hLine
    simp only [restore, dif_pos hOam, dif_pos hVram, if_neg (Nat.not_lt.mpr hLast),
      if_pos (And.intro (Nat.le_of_not_lt below) outside)]
    rfl
  left
  have valid : image.Valid :=
    ⟨hOam, hVram, hLast, fun outside => hLine.resolve_right outside⟩
  exact ⟨valid, restore_of_valid valid⟩

theorem restore_ok_iff {lcd' : Lcd} :
    lcd.restore image = .ok lcd' ↔ image.Valid ∧ lcd' = lcd.restored image := by
  constructor
  · intro h
    rcases lcd.restore_cases image with ⟨valid, ok⟩ | ⟨-, bad⟩ | ⟨-, -, bad⟩ | ⟨-, -, -, bad⟩ |
      ⟨-, -, -, -, bad⟩
    · rw [ok] at h
      exact ⟨valid, (Except.ok.inj h).symm⟩
    all_goals
      rw [bad] at h
      cases h
  · rintro ⟨valid, rfl⟩
    exact restore_of_valid valid

end Lcd

namespace Console

def restored (c : Console) (s : Snapshot) : Console :=
  { cpu := { c.cpu with regs := s.cpu.registers, resumeAt := none }
    bus := { c.bus with
      lcd := c.bus.lcd.restored s.lcd
      slot := c.bus.slot.map fun slot => { slot with ram := slot.ram.fill s.ramBanks } }
    stuckAt := none }

theorem restore_ok_iff {c c' : Console} {s : Snapshot} :
    c.restore s = .ok c' ↔
      Snapshot.bankFlaw? c.bus.slot s.ramBanks = none ∧ s.lcd.Valid ∧ c' = c.restored s := by
  cases hbank : Snapshot.bankFlaw? c.bus.slot s.ramBanks with
  | some flaw =>
      simp only [restore, hbank]
      constructor
      · intro h
        cases h
      · rintro ⟨h, -⟩
        cases h
  | none =>
      simp only [restore, hbank, true_and]
      constructor
      · intro h
        cases hlcd : c.bus.lcd.restore s.lcd with
        | error failure =>
            rw [hlcd] at h
            cases h
        | ok lcd =>
            rw [hlcd] at h
            cases h
            obtain ⟨valid, rfl⟩ := Lcd.restore_ok_iff.mp hlcd
            exact ⟨valid, rfl⟩
      · rintro ⟨valid, rfl⟩
        rw [Lcd.restore_of_valid valid]
        rfl

/-- All or nothing: the console of an attempt that succeeded, or the console as it was with what
went wrong. -/
def attempt (c : Console) : Except Failure Console → Console × Option Failure
  | .ok next => (next, none)
  | .error failure => (c, some failure)

end Console

namespace HostCall

variable (c : Console)

/-- Putting in a cartridge in place is all or nothing. -/
theorem load_outcome (image : Array Byte) :
    (load image).outcome c = c.attempt (c.load image) := by
  simp only [outcome, load, Console.load]
  cases Cartridge.ofImage image with
  | error failure => rfl
  | ok cartridge => rfl

theorem restoreLcd_run (image : LcdImage) :
    (restoreLcd image).run.run c =
      match c.bus.lcd.restore image with
      | .ok lcd => (.ok (), { c with bus.lcd := lcd })
      | .error failure => (.error failure, c) := by
  rcases c.bus.lcd.restore_cases image with ⟨valid, ok⟩ | ⟨hOam, bad⟩ | ⟨hOam, hVram, bad⟩ |
    ⟨hOam, hVram, hLast, bad⟩ | ⟨hOam, hVram, hLast, hLine, bad⟩
  · have hLine : image.line.toNat < Screen.height ∨ Mode.ofStatus image.status = .vblank :=
      (Decidable.em (Mode.ofStatus image.status = .vblank)).elim Or.inr
        fun outside => Or.inl (valid.visible outside)
    simp only [ok, restoreLcd, if_pos valid.oam, if_pos valid.vram, if_pos valid.last, if_pos hLine]
    rfl
  · simp only [bad, restoreLcd, if_neg hOam]
    rfl
  · simp only [bad, restoreLcd, if_pos hOam, if_neg hVram]
    rfl
  · simp only [bad, restoreLcd, if_pos hOam, if_pos hVram, if_neg hLast]
    rfl
  · simp only [bad, restoreLcd, if_pos hOam, if_pos hVram, if_pos hLast, if_neg hLine]
    rfl

/-- What comes after a call runs where the call succeeds. -/
theorem run_bind {α β : Type} (call : HostCall α) (next : α → HostCall β) :
    (call >>= next).run.run c =
      match call.run.run c with
      | (.ok a, c) => (next a).run.run c
      | (.error failure, c) => (.error failure, c) := by
  rw [ExceptT.run_bind, StateT.run_bind]
  rcases call.run.run c with ⟨failure | a, c'⟩
  · rfl
  · rfl

/-- Restoring a snapshot in place is all or nothing. -/
theorem restore_outcome (s : Snapshot) :
    (restore s).outcome c = c.attempt (c.restore s) := by
  have hget : (get : HostCall Console).run.run c = (.ok c, c) := rfl
  simp only [outcome, restore, run_bind, hget]
  cases hbank : Snapshot.bankFlaw? c.bus.slot s.ramBanks with
  | some flaw =>
      simp only [Console.restore, hbank]
      rfl
  | none =>
      simp only [Console.restore, hbank, run_bind, restoreLcd_run]
      cases c.bus.lcd.restore s.lcd with
      | error failure => rfl
      | ok lcd => rfl

end HostCall

end DotMatrix
