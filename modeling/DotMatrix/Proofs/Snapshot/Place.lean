import DotMatrix.Proofs.Lcd.Course

/-!
Where a snapshot puts the LCD controller. A snapshot is refused if its line does not exist or is below
the screen outside the vertical blank; but a vertical blank on a line of the screen is let through, and so
is any point of the frame with the display off. Only without these two is the controller put where it can
come by itself, and only then is the next frame complete within the length of a frame.
-/

namespace DotMatrix

/-- The image is of a controller where it can come by itself: its vertical blank is below the screen, and
with the display off it is in the vertical blank at line zero. -/
def LcdImage.InCourse (image : LcdImage) : Prop :=
  if image.control.bit 7 then
    Mode.ofStatus image.status = .vblank → Screen.height ≤ image.line.toNat
  else image.line = 0 ∧ Mode.ofStatus image.status = .vblank

namespace Lcd

variable {lcd : Lcd} {image : LcdImage}

theorem restored_placed (lcd : Lcd) (valid : image.Valid) : (lcd.restored image).Placed :=
  ⟨⟨valid.last, valid.visible⟩, Mode.duration_pos _⟩

theorem restored_inCourse_iff (lcd : Lcd) (valid : image.Valid) :
    (lcd.restored image).InCourse ↔ image.InCourse := by
  have placed := restored_placed lcd valid
  have control : (lcd.restored image).enabled = image.control.bit 7 := rfl
  cases lit : image.control.bit 7 with
  | true =>
      rw [inCourse_lit (control.trans lit), LcdImage.InCourse, if_pos lit]
      exact and_iff_right placed
  | false =>
      rw [inCourse_dark (control.trans lit), LcdImage.InCourse, if_neg (Bool.eq_false_iff.mp lit)]
      exact and_congr_right fun _ => and_iff_left rfl

end Lcd

namespace Console

/-- A snapshot that is refused is refused as such. -/
theorem restore_error {c : Console} {s : Snapshot} {failure : Failure}
    (refused : c.restore s = .error failure) : ∃ flaw, failure = .badSnapshot flaw := by
  cases hbank : Snapshot.bankFlaw? c.bus.slot s.ramBanks with
  | some flaw =>
      simp only [restore, hbank] at refused
      exact ⟨flaw, (Except.error.inj refused).symm⟩
  | none =>
      simp only [restore, hbank] at refused
      rcases c.bus.lcd.restore_cases s.lcd with ⟨-, ok⟩ | ⟨-, bad⟩ | ⟨-, -, bad⟩ | ⟨-, -, -, bad⟩ |
        ⟨-, -, -, -, bad⟩
      · rw [ok] at refused
        cases refused
      all_goals
        rw [bad] at refused
        exact ⟨_, (Except.error.inj refused).symm⟩

/-- A snapshot is refused as such, or it puts the LCD controller on a line that its mode can have. It puts
it where steps and writes lead from a reset exactly if its image is of such a place. With the display on,
that is also when the next frame is due within the length of a frame; and the frame is complete as soon as
the cycles until then have passed, as long as the display stays on. -/
theorem restored_place (c : Console) (s : Snapshot) :
    (∀ failure, c.restore s = .error failure → ∃ flaw, failure = .badSnapshot flaw) ∧
    ∀ c', c.restore s = .ok c' →
      let lcd := c'.bus.lcd
      lcd.line.toNat ≤ Screen.lastLine ∧
      (lcd.mode ≠ .vblank → lcd.line.toNat < Screen.height) ∧
      ((∃ events : List LcdEvent, (∀ event ∈ events, event.runs = true) ∧
          (Lcd.initial.applyAll events).point = lcd.point) ↔ s.lcd.InCourse) ∧
      (lcd.enabled = true →
        (lcd.untilFlush ≤ Screen.frameCycles ↔ s.lcd.InCourse) ∧
        ∀ events : List LcdEvent, (∀ event ∈ events, event.runs = true) →
          lcd.staysOn events = true →
          (lcd.flushesIn events = true ↔ lcd.untilFlush ≤ (events.map LcdEvent.cycles).sum)) := by
  refine ⟨fun _ => restore_error, fun c' accepted => ?_⟩
  obtain ⟨-, valid, rfl⟩ := restore_ok_iff.mp accepted
  have placed : (c.restored s).bus.lcd.Placed := Lcd.restored_placed c.bus.lcd valid
  have inCourse : (c.restored s).bus.lcd.InCourse ↔ s.lcd.InCourse :=
    Lcd.restored_inCourse_iff c.bus.lcd valid
  refine ⟨placed.last, placed.visible, ?_, fun lit => ⟨?_, fun events runs on => ?_⟩⟩
  · exact (Lcd.inCourse_iff_led _).trans inCourse
  · rw [Lcd.untilFlush_le_iff placed, ← inCourse, Lcd.inCourse_lit lit]
    exact (and_iff_right placed).symm
  · exact Lcd.flushesIn_iff placed runs on

/-- A new console in the vertical blank, on a line below the screen. -/
def lateBlank : Snapshot :=
  { (initial 0).snapshot with lcd.status := 0x81, lcd.line := 150 }

theorem restored_place_lateBlank :
    ∃ c', (initial 0).restore lateBlank = .ok c' ∧ lateBlank.lcd.InCourse ∧
      c'.bus.lcd.untilFlush ≤ Screen.frameCycles ∧
      c'.bus.lcd.flushesIn [.step 10000, .write 0xFF40 0x80, .step 6872] = true := by
  have valid : lateBlank.lcd.Valid :=
    ⟨by decide +kernel, by decide +kernel, by decide +kernel, by decide +kernel⟩
  have accepted : (initial 0).restore lateBlank = .ok ((initial 0).restored lateBlank) :=
    restore_ok_iff.mpr ⟨by decide +kernel, valid, rfl⟩
  have inCourse : lateBlank.lcd.InCourse := by
    rw [LcdImage.InCourse, if_pos (by decide +kernel)]
    intro _
    decide +kernel
  have lit : ((initial 0).restored lateBlank).bus.lcd.enabled = true := by decide +kernel
  obtain ⟨-, -, -, whenLit⟩ := (restored_place (initial 0) lateBlank).2 _ accepted
  obtain ⟨due, flushes⟩ := whenLit lit
  refine ⟨_, accepted, inCourse, due.mpr inCourse, ?_⟩
  refine (flushes _ (by simp [LcdEvent.runs]) (by decide +kernel)).mpr ?_
  decide +kernel

/-- A new console in the vertical blank, but at the top of the screen. -/
def earlyBlank : Snapshot :=
  { (initial 0).snapshot with lcd.status := 0x81 }

/-- A new console with the display off in the middle of a frame. -/
def darkLine : Snapshot :=
  { (initial 0).snapshot with lcd.control := 0x11, lcd.line := 5 }

/-- Both snapshots are accepted, though no steps and writes lead to their positions; and the first one is late
for its frame. -/
theorem misplaced_accepted :
    (∃ c', (initial 0).restore earlyBlank = .ok c' ∧ c'.bus.lcd.enabled = true ∧
      c'.bus.lcd.mode = .vblank ∧ c'.bus.lcd.line = 0 ∧
      (¬ ∃ events : List LcdEvent, (∀ event ∈ events, event.runs = true) ∧
        (Lcd.initial.applyAll events).point = c'.bus.lcd.point) ∧
      c'.bus.lcd.flushesIn [.step Screen.frameCycles] = false) ∧
    (∃ c', (initial 0).restore darkLine = .ok c' ∧ c'.bus.lcd.enabled = false ∧
      c'.bus.lcd.mode = .oamScan ∧ c'.bus.lcd.line = 5) := by
  constructor
  · have valid : earlyBlank.lcd.Valid :=
      ⟨by decide +kernel, by decide +kernel, by decide +kernel, by decide +kernel⟩
    refine ⟨_, restore_ok_iff.mpr ⟨by decide +kernel, valid, rfl⟩, by decide +kernel,
      by decide +kernel, by decide +kernel, ?_, by decide +kernel⟩
    intro led
    have inCourse : earlyBlank.lcd.InCourse :=
      (Lcd.restored_inCourse_iff _ valid).mp ((Lcd.inCourse_iff_led _).mp led)
    rw [LcdImage.InCourse, if_pos (by decide +kernel)] at inCourse
    exact absurd (inCourse (by decide +kernel)) (by decide +kernel)
  · have valid : darkLine.lcd.Valid :=
      ⟨by decide +kernel, by decide +kernel, by decide +kernel, by decide +kernel⟩
    exact ⟨_, restore_ok_iff.mpr ⟨by decide +kernel, valid, rfl⟩, by decide +kernel,
      by decide +kernel, by decide +kernel⟩

end Console

end DotMatrix
