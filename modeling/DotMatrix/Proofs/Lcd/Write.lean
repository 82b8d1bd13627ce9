import DotMatrix.Proofs.Lcd.Timeline

/-!
What a write does to the LCD controller. It keeps its place in the frame unless the write is to the
control register and switches the display, and then it starts over.
-/

namespace DotMatrix

namespace Lcd

/-- Two states of the controller at the same point of the same frame, and both on or both off. -/
structure Abreast (lcd lcd' : Lcd) : Prop where
  enabled : lcd'.enabled = lcd.enabled
  line : lcd'.line = lcd.line
  mode : lcd'.mode = lcd.mode
  clock : lcd'.modeClock = lcd.modeClock
  frames : lcd'.frames = lcd.frames

/-- The second state has been switched on or off since the first, and has just started over. -/
structure Switched (lcd lcd' : Lcd) : Prop where
  enabled : lcd'.enabled = !lcd.enabled
  line : lcd'.line = 0
  mode : lcd'.mode = if lcd'.enabled then .oamScan else .vblank
  clock : lcd'.modeClock = 0
  frames : lcd'.frames = lcd.frames

namespace Abreast

variable {lcd lcd' lcd'' : Lcd}

theorem refl (lcd : Lcd) : lcd.Abreast lcd := ⟨rfl, rfl, rfl, rfl, rfl⟩

theorem of_control (control : lcd'.control = lcd.control) (line : lcd'.line = lcd.line)
    (mode : lcd'.mode = lcd.mode) (clock : lcd'.modeClock = lcd.modeClock)
    (frames : lcd'.frames = lcd.frames) : lcd.Abreast lcd' :=
  ⟨by simp only [Lcd.enabled, control], line, mode, clock, frames⟩

theorem trans (h : lcd.Abreast lcd') (h' : lcd'.Abreast lcd'') : lcd.Abreast lcd'' :=
  ⟨h'.enabled.trans h.enabled, h'.line.trans h.line, h'.mode.trans h.mode,
    h'.clock.trans h.clock, h'.frames.trans h.frames⟩

theorem placed (h : lcd.Abreast lcd') (hlcd : lcd.Placed) : lcd'.Placed := by
  refine ⟨⟨?_, ?_⟩, ?_⟩
  · rw [h.line]
    exact hlcd.last
  · rw [h.line, h.mode]
    exact hlcd.visible
  · rw [h.clock, h.mode]
    exact hlcd.clock

theorem onTime (h : lcd.Abreast lcd') (hlcd : lcd.OnTime) : lcd'.OnTime := by
  unfold OnTime
  rw [h.line, h.mode]
  exact hlcd

theorem untilFlush (h : lcd.Abreast lcd') : lcd'.untilFlush = lcd.untilFlush := by
  simp only [Lcd.untilFlush, modeToFlush, h.line, h.mode, h.clock]

theorem phase (h : lcd.Abreast lcd') : lcd'.phase = lcd.phase := by
  simp only [Lcd.phase, modePhase, h.line, h.mode, h.clock]

theorem switched (h : lcd.Abreast lcd') (h' : lcd'.Switched lcd'') : lcd.Switched lcd'' :=
  ⟨by rw [h'.enabled, h.enabled], h'.line, h'.mode, h'.clock, h'.frames.trans h.frames⟩

end Abreast

namespace Switched

variable {lcd lcd' lcd'' : Lcd}

theorem abreast (h : lcd.Switched lcd') (h' : lcd'.Abreast lcd'') : lcd.Switched lcd'' := by
  refine ⟨h'.enabled.trans h.enabled, h'.line.trans h.line, ?_, h'.clock.trans h.clock,
    h'.frames.trans h.frames⟩
  rw [h'.mode, h'.enabled, h.mode]

theorem placed (h : lcd.Switched lcd') : lcd'.Placed := by
  refine ⟨⟨?_, fun _ => ?_⟩, ?_⟩
  · rw [h.line]
    decide
  · rw [h.line]
    decide
  · rw [h.clock]
    exact lcd'.mode.duration_pos

/-- After it has been switched on, the controller has all visible lines before it. -/
theorem untilFlush (h : lcd.Switched lcd') (lit : lcd'.enabled = true) :
    lcd'.untilFlush = Screen.visibleCycles := by
  have mode : lcd'.mode = .oamScan := by
    rw [h.mode, lit]
    rfl
  rw [Screen.visibleCycles_eq]
  simp [Lcd.untilFlush, modeToFlush, mode, h.clock, h.line, Mode.start, Screen.lineCycles,
    Screen.height]

end Switched

theorem writeRegister_abreast (lcd : Lcd) {addr : Word} (h : addr ≠ 0xFF40) (value : Byte) :
    lcd.Abreast (lcd.writeRegister addr value) := by
  unfold writeRegister
  split
  · next hcontrol => exact absurd (UInt16.toNat_inj.mp hcontrol) h
  all_goals exact .of_control rfl rfl rfl rfl rfl

theorem write_abreast (lcd : Lcd) {addr : Word} (h : addr ≠ 0xFF40) (value : Byte) :
    lcd.Abreast (lcd.write addr value) := by
  unfold write
  split
  · exact .of_control rfl rfl rfl rfl rfl
  · split
    · exact .of_control rfl rfl rfl rfl rfl
    · exact writeRegister_abreast lcd h value

theorem setControl_enabled (lcd : Lcd) (value : Byte) :
    (lcd.setControl value).enabled = value.bit 7 := by
  unfold setControl
  split <;> rfl

/-- A write to the control register leaves the display as it is or switches it, by its topmost
bit. -/
theorem setControl_cases (lcd : Lcd) (value : Byte) :
    (value.bit 7 = lcd.enabled ∧ lcd.Abreast (lcd.setControl value)) ∨
    (value.bit 7 = !lcd.enabled ∧ lcd.Switched (lcd.setControl value)) := by
  have hon : ∀ mode, ({ lcd with control := value }.restart mode).enabled = value.bit 7 :=
    fun _ => rfl
  cases hwas : lcd.enabled <;> cases his : value.bit 7
  case false.true =>
    refine Or.inr ⟨rfl, ?_⟩
    simp only [setControl, hwas, his]
    exact ⟨by rw [hon, his, hwas]; rfl, rfl, by rw [hon, his]; rfl, rfl, rfl⟩
  case true.false =>
    refine Or.inr ⟨rfl, ?_⟩
    simp only [setControl, hwas, his]
    exact ⟨by rw [hon, his, hwas]; rfl, rfl, by rw [hon, his]; rfl, rfl, rfl⟩
  all_goals
    refine Or.inl ⟨rfl, ?_⟩
    simp only [setControl, hwas, his]
    exact ⟨his.trans hwas.symm, rfl, rfl, rfl, rfl⟩

theorem setControl_enables (lcd : Lcd) (value : Byte) :
    (lcd.setControl value).enables = lcd.enables := by
  unfold setControl
  split <;> rfl

theorem write_enables (lcd : Lcd) (addr : Word) (value : Byte) :
    (lcd.write addr value).enables = lcd.enables ∨
      (lcd.write addr value).enables = value &&& enablesMask := by
  unfold write
  split
  · exact Or.inl rfl
  · split
    · exact Or.inl rfl
    · unfold writeRegister
      split
      · exact Or.inl (setControl_enables lcd value)
      · exact Or.inr rfl
      all_goals exact Or.inl rfl

end Lcd

end DotMatrix
