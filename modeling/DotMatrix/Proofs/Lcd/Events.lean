import Mathlib.Order.Interval.Finset.Nat
import DotMatrix.Proofs.Lcd.Timeline

/-!
What the LCD controller asks for while it runs, as events of a timeline that repeats with every
frame. The beginning of the vertical blank completes a frame and asks for its interrupt, and the
beginning of a mode asks for the display interrupt if it is enabled. A step counts and reports the
events of the time that passes in it, however many modes and frames that is.
-/

namespace DotMatrix

theorem Byte.bit_or (a b : Byte) (i : Nat) : (a ||| b).bit i = (a.bit i || b.bit i) := by
  rw [bit, UInt8.toNat_or, Nat.testBit_or]
  rfl

namespace Screen

/-- The times after one and up to another at which a frame is complete. -/
def flushes (start stop : Nat) : Finset Nat :=
  (Finset.Ioc start stop).filter fun time => time % frameCycles = visibleCycles

theorem framesBy_succ (time : Nat) :
    framesBy (time + 1) =
      framesBy time + if (time + 1) % frameCycles = visibleCycles then 1 else 0 := by
  rw [framesBy_eq, framesBy_eq, frameCycles_eq, visibleCycles_eq]
  split <;> omega

/-- The frames that are complete by a time are counted one by one. -/
theorem card_flushes (start count : Nat) :
    framesBy start + (flushes start (start + count)).card = framesBy (start + count) := by
  induction count with
  | zero => simp [flushes]
  | succ count ih =>
      have later : start + (count + 1) ∉ flushes start (start + count) := by
        simp [flushes]
      have grown : Finset.Ioc start (start + (count + 1)) =
          insert (start + (count + 1)) (Finset.Ioc start (start + count)) := by
        ext time
        simp only [Finset.mem_Ioc, Finset.mem_insert]
        omega
      rw [← Nat.add_assoc, framesBy_succ, ← ih, Nat.add_assoc start]
      simp only [flushes] at later ⊢
      rw [grown, Finset.filter_insert]
      split
      · rw [Finset.card_insert_of_notMem later, Nat.add_assoc]
      · rw [Nat.add_zero]

end Screen

namespace Lcd

/-- Does a mode begin at a time of the frame whose display interrupt is enabled? -/
def SignalsAt (lcd : Lcd) (time : Nat) : Prop :=
  let point := time % Screen.frameCycles
  (∃ line < Screen.height, point = 114 * line ∧ lcd.enables.bit 5 = true) ∨
  (∃ line < Screen.height,
    point = 114 * line + 20 ∧ lcd.enables.bit 6 = true ∧ line = lcd.compare.toNat) ∨
  (∃ line < Screen.height, point = 114 * line + 63 ∧ lcd.enables.bit 3 = true) ∨
  (point = Screen.visibleCycles ∧ lcd.enables.bit 4 = true)

/-- Do the same modes of two controllers ask for the display interrupt? -/
structure Enabling (lcd lcd' : Lcd) : Prop where
  enables : lcd'.enables = lcd.enables
  compare : lcd'.compare = lcd.compare

section EndMode

variable {lcd lcd' : Lcd}

theorem SignalsAt.congr (h : lcd.Enabling lcd') (time : Nat) :
    lcd'.SignalsAt time ↔ lcd.SignalsAt time := by
  simp only [SignalsAt, h.enables, h.compare]

@[simp] theorem drawLine_compare (lcd : Lcd) : lcd.drawLine.compare = lcd.compare := by
  unfold drawLine
  split <;> rfl

theorem endMode_enabling (lcd : Lcd) : lcd.Enabling lcd.endMode.1 := by
  refine ⟨endMode_enables lcd, ?_⟩
  unfold endMode
  split
  · rfl
  · exact drawLine_compare lcd
  · split <;> rfl
  · split <;> rfl

section Points

variable (lcd : Lcd) {line : Nat}

theorem signalsAt_mod (time : Nat) :
    lcd.SignalsAt (time % Screen.frameCycles) ↔ lcd.SignalsAt time := by
  simp only [SignalsAt, Nat.mod_mod]

theorem signalsAt_scan (h : line < Screen.height) :
    lcd.SignalsAt (114 * line) ↔ lcd.enables.bit 5 = true := by
  simp only [Screen.height] at h
  simp only [SignalsAt, Screen.frameCycles_eq, Screen.visibleCycles_eq, Screen.height]
  constructor
  · rintro (⟨_, _, _, enabled⟩ | ⟨_, _, _, _⟩ | ⟨_, _, _, _⟩ | ⟨_, _⟩)
    · exact enabled
    all_goals omega
  · intro enabled
    exact Or.inl ⟨line, h, by omega, enabled⟩

theorem signalsAt_drawing (h : line < Screen.height) :
    lcd.SignalsAt (114 * line + 20) ↔ lcd.enables.bit 6 = true ∧ line = lcd.compare.toNat := by
  simp only [Screen.height] at h
  simp only [SignalsAt, Screen.frameCycles_eq, Screen.visibleCycles_eq, Screen.height]
  constructor
  · rintro (⟨_, _, _, _⟩ | ⟨line', _, _, enabled, match_⟩ | ⟨_, _, _, _⟩ | ⟨_, _⟩)
    · omega
    · exact ⟨enabled, by omega⟩
    all_goals omega
  · rintro ⟨enabled, same⟩
    exact Or.inr (Or.inl ⟨line, h, by omega, enabled, same⟩)

theorem signalsAt_hblank (h : line < Screen.height) :
    lcd.SignalsAt (114 * line + 63) ↔ lcd.enables.bit 3 = true := by
  simp only [Screen.height] at h
  simp only [SignalsAt, Screen.frameCycles_eq, Screen.visibleCycles_eq, Screen.height]
  constructor
  · rintro (⟨_, _, _, _⟩ | ⟨_, _, _, _⟩ | ⟨_, _, _, enabled⟩ | ⟨_, _⟩)
    · omega
    · omega
    · exact enabled
    · omega
  · intro enabled
    exact Or.inr (Or.inr (Or.inl ⟨line, h, by omega, enabled⟩))

theorem signalsAt_vblank : lcd.SignalsAt Screen.visibleCycles ↔ lcd.enables.bit 4 = true := by
  simp only [SignalsAt, Screen.frameCycles_eq, Screen.visibleCycles_eq, Screen.height]
  constructor
  · rintro (⟨_, _, _, _⟩ | ⟨_, _, _, _⟩ | ⟨_, _, _, _⟩ | ⟨_, enabled⟩)
    · omega
    · omega
    · omega
    · exact enabled
  · intro enabled
    exact Or.inr (Or.inr (Or.inr ⟨trivial, enabled⟩))

/-- No mode begins between the points where one does. -/
theorem not_signalsAt {time : Nat}
    (h : (0 < time % 114 ∧ time % 114 ≠ 20 ∧ time % 114 ≠ 63) ∨ 16416 < time)
    (inFrame : time < Screen.frameCycles) : ¬ lcd.SignalsAt time := by
  rw [Screen.frameCycles_eq] at inFrame
  simp only [SignalsAt, Screen.frameCycles_eq, Screen.visibleCycles_eq, Screen.height]
  rintro (⟨_, _, _, _⟩ | ⟨_, _, _, _⟩ | ⟨_, _, _, _⟩ | ⟨_, _⟩) <;> omega

end Points

theorem enter_bit_zero (lcd : Lcd) (mode : Mode) : (lcd.enter mode).2.bit 0 = false := by
  unfold enter
  dsimp only
  split <;> rfl

theorem enter_bit_one (lcd : Lcd) (mode : Mode) :
    (lcd.enter mode).2.bit 1 = lcd.wantsInterrupt mode := by
  unfold enter
  dsimp only
  split
  · next wants => rw [wants]; rfl
  · next wants => rw [Bool.eq_false_iff.2 wants]; rfl

/-- The end of a mode announces the vertical blank exactly if that begins then. -/
theorem endMode_bit_zero (h : lcd.OnLine) (onTime : lcd.OnTime) :
    lcd.endMode.2.bit 0 = true ↔
      (lcd.modePhase + lcd.mode.duration) % Screen.frameCycles = Screen.visibleCycles := by
  have visible := h.visible
  have last := h.last
  rw [Screen.frameCycles_eq, Screen.visibleCycles_eq]
  cases hmode : lcd.mode with
  | oamScan | drawing =>
      have visible := visible (by rw [hmode]; decide)
      simp only [endMode, hmode, enter_bit_zero, modePhase, Mode.start, Mode.duration,
        Screen.lineCycles, Screen.height, Bool.false_eq_true, false_iff] at visible ⊢
      omega
  | hblank =>
      have visible := visible (by rw [hmode]; decide)
      have announced : Interrupt.vblank.mask.bit 0 = true := rfl
      simp only [endMode, hmode, modePhase, Mode.start, Mode.duration, Screen.lineCycles,
        Screen.height] at visible ⊢
      split
      · simp only [Byte.bit_or, announced, Bool.or_true, true_iff]
        omega
      · simp only [enter_bit_zero, Bool.false_eq_true, false_iff]
        omega
  | vblank =>
      have below := onTime hmode
      have silent : (0 : Byte).bit 0 = false := rfl
      simp only [endMode, hmode, modePhase, Mode.start, Mode.duration, Screen.lineCycles,
        Screen.height, Screen.lastLine] at below last ⊢
      split
      · simp only [enter_bit_zero, Bool.false_eq_true, false_iff]
        omega
      · simp only [silent, Bool.false_eq_true, false_iff]
        omega

/-- The end of a mode asks for the display interrupt exactly if the mode that begins then does. -/
theorem endMode_bit_one (h : lcd.OnLine) (onTime : lcd.OnTime) :
    lcd.endMode.2.bit 1 = true ↔ lcd.SignalsAt (lcd.modePhase + lcd.mode.duration) := by
  have visible := h.visible
  have last := h.last
  cases hmode : lcd.mode with
  | oamScan =>
      have visible := visible (by rw [hmode]; decide)
      have point : lcd.modePhase + Mode.oamScan.duration = 114 * lcd.line.toNat + 20 := by
        simp only [modePhase, hmode, Mode.start, Mode.duration, Screen.lineCycles]
      rw [point, signalsAt_drawing lcd visible]
      simp only [endMode, hmode, enter_bit_one, wantsInterrupt, Bool.and_eq_true, beq_iff_eq,
        UInt8.toNat_inj]
  | drawing =>
      have visible := visible (by rw [hmode]; decide)
      have point : lcd.modePhase + Mode.drawing.duration = 114 * lcd.line.toNat + 63 := by
        simp only [modePhase, hmode, Mode.start, Mode.duration, Screen.lineCycles]
      rw [point, signalsAt_hblank lcd visible]
      simp only [endMode, hmode, enter_bit_one, wantsInterrupt, drawLine_enables]
  | hblank =>
      have visible := visible (by rw [hmode]; decide)
      have point : lcd.modePhase + Mode.hblank.duration = 114 * (lcd.line.toNat + 1) := by
        simp only [modePhase, hmode, Mode.start, Mode.duration, Screen.lineCycles]
        omega
      rw [point]
      simp only [endMode, hmode]
      split
      · next lastLine =>
          have complete : 114 * (lcd.line.toNat + 1) = Screen.visibleCycles := by
            rw [lastLine]
            rfl
          have unasked : Interrupt.vblank.mask.bit 1 = false := rfl
          rw [complete, signalsAt_vblank]
          simp only [Byte.bit_or, unasked, Bool.or_false, enter_bit_one, wantsInterrupt, flush]
      · next more =>
          have visible : lcd.line.toNat + 1 < Screen.height := by
            simp only [Screen.height] at visible more ⊢
            omega
          rw [signalsAt_scan lcd visible]
          simp only [enter_bit_one, wantsInterrupt]
  | vblank =>
      have below := onTime hmode
      have point : lcd.modePhase + Mode.vblank.duration = 114 * (lcd.line.toNat + 1) := by
        simp only [modePhase, hmode, Mode.start, Mode.duration, Screen.lineCycles]
        omega
      rw [point]
      simp only [endMode, hmode]
      split
      · next lastLine =>
          have wraps : 114 * (lcd.line.toNat + 1) % Screen.frameCycles = 114 * 0 := by
            rw [Nat.le_antisymm last lastLine]
            rfl
          rw [← signalsAt_mod, wraps, signalsAt_scan lcd (by decide)]
          simp only [enter_bit_one, wantsInterrupt]
      · next more =>
          have silent : (0 : Byte).bit 1 = false := rfl
          simp only [silent, Bool.false_eq_true, false_iff]
          refine lcd.not_signalsAt (Or.inr ?_) ?_ <;>
            simp only [Screen.height, Screen.lastLine, Screen.frameCycles_eq] at below more ⊢ <;>
            omega

theorem enter_lt (lcd : Lcd) (mode : Mode) : (lcd.enter mode).2.toNat < 2 ^ 2 := by
  unfold enter
  dsimp only
  split <;> decide

/-- The end of a mode requests no other interrupt. -/
theorem endMode_bit_ge (lcd : Lcd) {i : Nat} (h : 2 ≤ i) : lcd.endMode.2.bit i = false := by
  have few : lcd.endMode.2.toNat < 2 ^ 2 := by
    unfold endMode
    split
    · exact enter_lt _ _
    · exact enter_lt _ _
    · split
      · rw [UInt8.toNat_or]
        exact Nat.or_lt_two_pow (enter_lt _ _) (by decide)
      · exact enter_lt _ _
    · split
      · exact enter_lt _ _
      · show (0 : Byte).toNat < 2 ^ 2
        decide
  exact Nat.testBit_lt_two_pow (Nat.lt_of_lt_of_le few (Nat.pow_le_pow_right (by decide) h))

/-- Nothing begins inside a mode. -/
theorem quiet_inside (h : lcd.OnLine) (onTime : lcd.OnTime) {time : Nat}
    (after : lcd.modePhase < time) (before : time < lcd.modePhase + lcd.mode.duration) :
    time % Screen.frameCycles ≠ Screen.visibleCycles ∧ ¬ lcd.SignalsAt time := by
  obtain ⟨inFrame, -⟩ := modePhase_add h onTime
    (show time - lcd.modePhase < lcd.mode.duration by omega)
  rw [Nat.add_sub_cancel' (Nat.le_of_lt after)] at inFrame
  have visible := h.visible
  rw [Nat.mod_eq_of_lt inFrame, Screen.visibleCycles_eq]
  refine ⟨?_, lcd.not_signalsAt ?_ inFrame⟩ <;> cases hmode : lcd.mode with
  | oamScan | drawing | hblank =>
      have visible := visible (by rw [hmode]; decide)
      simp only [modePhase, hmode, Mode.start, Mode.duration, Screen.lineCycles,
        Screen.height] at after before visible
      omega
  | vblank =>
      have below := onTime hmode
      simp only [modePhase, hmode, Mode.start, Mode.duration, Screen.lineCycles,
        Screen.height] at after before below
      omega

end EndMode

/-- Is there an event after one time and up to another? -/
def Within (event : Nat → Prop) (start stop : Nat) : Prop :=
  ∃ time, start < time ∧ time ≤ stop ∧ event time

section Within

variable {event : Nat → Prop} {start middle stop : Nat}

theorem Within.split (h : start ≤ middle) (h' : middle ≤ stop) :
    Within event start stop ↔ Within event start middle ∨ Within event middle stop := by
  constructor
  · rintro ⟨time, after, before, happens⟩
    by_cases early : time ≤ middle
    · exact Or.inl ⟨time, after, early, happens⟩
    · exact Or.inr ⟨time, by omega, before, happens⟩
  · rintro (⟨time, after, before, happens⟩ | ⟨time, after, before, happens⟩)
    · exact ⟨time, after, by omega, happens⟩
    · exact ⟨time, by omega, before, happens⟩

/-- Events that repeat with every frame can be looked for in any frame. -/
theorem Within.mod_frame (repeats : ∀ time, event (time % Screen.frameCycles) ↔ event time)
    (count : Nat) :
    Within event (start % Screen.frameCycles) (start % Screen.frameCycles + count) ↔
      Within event start (start + count) := by
  have shift (time offset : Nat) :
      event (start % Screen.frameCycles + offset) ↔ event (start + offset) := by
    rw [← repeats, ← repeats (start + offset), Nat.mod_add_mod]
  constructor
  · rintro ⟨time, after, before, happens⟩
    refine ⟨start + (time - start % Screen.frameCycles), by omega, by omega, ?_⟩
    rw [← shift time, Nat.add_sub_cancel' (Nat.le_of_lt after)]
    exact happens
  · rintro ⟨time, after, before, happens⟩
    refine ⟨start % Screen.frameCycles + (time - start), by omega, by omega, ?_⟩
    rw [shift time, Nat.add_sub_cancel' (Nat.le_of_lt after)]
    exact happens

end Within

section Run

variable {lcd : Lcd} {i : Nat} {event : Nat → Prop}

/-- A bit of the requests stands for an event: it is set at the end of a mode exactly if the event
is then, and the event is at no time inside a mode. -/
structure Announces (lcd : Lcd) (i : Nat) (event : Nat → Prop) : Prop where
  repeats : ∀ time, event (time % Screen.frameCycles) ↔ event time
  ends : ∀ {lcd' : Lcd}, lcd'.OnLine → lcd'.OnTime → lcd.Enabling lcd' →
    (lcd'.endMode.2.bit i = true ↔ event (lcd'.modePhase + lcd'.mode.duration))
  inside : ∀ {lcd' : Lcd}, lcd'.OnLine → lcd'.OnTime → lcd.Enabling lcd' → ∀ {time : Nat},
    lcd'.modePhase < time → time < lcd'.modePhase + lcd'.mode.duration → ¬ event time

theorem Enabling.trans {lcd lcd' lcd'' : Lcd} (h : lcd.Enabling lcd') (h' : lcd'.Enabling lcd'') :
    lcd.Enabling lcd'' :=
  ⟨h'.enables.trans h.enables, h'.compare.trans h.compare⟩

/-- A run sets a bit exactly if its event is in the time that passes, or the bit was set before. -/
theorem run_bit (announces : lcd.Announces i event) {lcd' : Lcd} (enabling : lcd.Enabling lcd')
    (h : lcd'.OnLine) (onTime : lcd'.OnTime) (time : Nat) (requests : Byte) :
    (lcd'.run time requests).2.bit i = true ↔
      requests.bit i = true ∨ Within event lcd'.modePhase (lcd'.modePhase + time) := by
  -- `lcd'` is the controller on the way, `lcd` the one the events are read from
  induction time using Nat.strongRecOn generalizing lcd' requests with
  | ind time ih =>
      have pos := lcd'.mode.duration_pos
      rw [run_eq]
      split
      · next enough =>
          obtain ⟨onTime', phase', -⟩ := endMode_phase h onTime
          have here : Within event lcd'.modePhase (lcd'.modePhase + lcd'.mode.duration) ↔
              event (lcd'.modePhase + lcd'.mode.duration) := by
            refine ⟨?_, fun happens => ⟨_, by omega, Nat.le_refl _, happens⟩⟩
            rintro ⟨time', after, before, happens⟩
            rcases Nat.lt_or_eq_of_le before with short | exactly
            · exact absurd happens (announces.inside h onTime enabling after short)
            · exact exactly ▸ happens
          have later := ih (time - lcd'.mode.duration) (by omega)
            (enabling.trans lcd'.endMode_enabling) (endMode_onLine h) onTime'
            (requests ||| lcd'.endMode.2)
          rw [later, phase', Within.mod_frame announces.repeats, Byte.bit_or, Bool.or_eq_true,
            announces.ends h onTime enabling, ← here, or_assoc,
            ← Within.split (Nat.le_add_right _ _) (Nat.le_add_right _ _), Nat.add_assoc,
            Nat.add_sub_cancel' enough]
      · next short =>
          refine ⟨Or.inl, ?_⟩
          rintro (set | ⟨time', after, before, happens⟩)
          · exact set
          · exact absurd happens (announces.inside h onTime enabling after (by omega))

theorem step_bit (announces : lcd.Announces i event) (h : lcd.Placed) (onTime : lcd.OnTime)
    (lit : lcd.enabled = true) (cycles : Nat) :
    (lcd.step cycles).2.bit i = true ↔ Within event lcd.phase (lcd.phase + cycles) := by
  have onLine : ({ lcd with flushed := false } : Lcd).OnLine := ⟨h.last, h.visible⟩
  have enabling : lcd.Enabling { lcd with flushed := false } := ⟨rfl, rfl⟩
  have clock := h.clock
  have silent : (0 : Byte).bit i = true ↔ False := by
    simp [Byte.bit]
  have before : ¬ Within event lcd.modePhase lcd.phase := by
    rintro ⟨time, after, before, happens⟩
    rw [phase] at before
    exact announces.inside h.toOnLine onTime ⟨rfl, rfl⟩ after (by omega) happens
  have split : Within event lcd.modePhase (lcd.phase + cycles) ↔
      Within event lcd.modePhase lcd.phase ∨ Within event lcd.phase (lcd.phase + cycles) :=
    Within.split (Nat.le_add_right _ _) (Nat.le_add_right _ _)
  rw [step_of_lit lit, run_bit announces enabling onLine onTime, silent, false_or]
  change Within event lcd.modePhase (lcd.modePhase + (lcd.modeClock + cycles)) ↔ _
  rw [← Nat.add_assoc]
  exact split.trans (or_iff_right before)

theorem announces_vblank (lcd : Lcd) :
    lcd.Announces 0 fun time => time % Screen.frameCycles = Screen.visibleCycles where
  repeats time := by rw [Nat.mod_mod]
  ends h onTime _ := endMode_bit_zero h onTime
  inside h onTime _ _ after before := (quiet_inside h onTime after before).1

theorem announces_display (lcd : Lcd) : lcd.Announces 1 lcd.SignalsAt where
  repeats := lcd.signalsAt_mod
  ends h onTime enabling := (endMode_bit_one h onTime).trans (SignalsAt.congr enabling _)
  inside h onTime enabling time after before signals :=
    (quiet_inside h onTime after before).2 ((SignalsAt.congr enabling time).2 signals)

theorem announces_nothing (lcd : Lcd) (h : 2 ≤ i) : lcd.Announces i fun _ => False where
  repeats _ := Iff.rfl
  ends {lcd'} _ _ _ := by simp only [lcd'.endMode_bit_ge h, Bool.false_eq_true]
  inside _ _ _ _ _ _ := not_false

end Run

section Timeline

variable {lcd : Lcd}

theorem within_flushes (start stop : Nat) :
    Within (fun time => time % Screen.frameCycles = Screen.visibleCycles) start stop ↔
      1 ≤ (Screen.flushes start stop).card := by
  rw [Nat.one_le_iff_ne_zero, Ne, Finset.card_eq_zero, ← Ne, ← Finset.nonempty_iff_ne_empty]
  simp only [Within, Finset.Nonempty, Screen.flushes, Finset.mem_filter, Finset.mem_Ioc, and_assoc]

/-- With a vertical blank that begins on time, the frame is complete when the phase says so. -/
theorem phase_add_untilFlush (h : lcd.Placed) (onTime : lcd.OnTime) :
    (lcd.phase + lcd.untilFlush) % Screen.frameCycles = Screen.visibleCycles ∧
      lcd.untilFlush ≤ Screen.frameCycles := by
  have clock := h.clock
  have last := h.last
  have visible := h.visible
  rw [Screen.frameCycles_eq, Screen.visibleCycles_eq]
  cases hmode : lcd.mode with
  | vblank =>
      have below := onTime hmode
      simp only [untilFlush, modeToFlush, phase, modePhase, hmode, Mode.start, Mode.duration,
        Screen.visibleCycles_eq, Screen.lineCycles, Screen.lastLine, Screen.height]
        at clock last below ⊢
      omega
  | oamScan | drawing | hblank =>
      have visible := visible (by rw [hmode]; decide)
      simp only [untilFlush, modeToFlush, phase, modePhase, hmode, Mode.start, Mode.duration,
        Screen.lineCycles, Screen.height] at clock visible ⊢
      omega

/-- A step marks a frame as complete exactly if one is complete in the time that passes. -/
theorem step_flushed_iff (h : lcd.Placed) (onTime : lcd.OnTime) (lit : lcd.enabled = true)
    (cycles : Nat) :
    (lcd.step cycles).1.flushed = true ↔
      1 ≤ (Screen.flushes lcd.phase (lcd.phase + cycles)).card := by
  have counted := Screen.card_flushes lcd.phase cycles
  have pos := untilFlush_pos h
  obtain ⟨due, near⟩ := phase_add_untilFlush h onTime
  rw [Screen.framesBy_eq, Screen.framesBy_eq] at counted
  rw [Screen.frameCycles_eq, Screen.visibleCycles_eq] at due
  rw [Screen.frameCycles_eq] at near
  rcases step_lit h lit cycles with ⟨notYet, left⟩ | ⟨flushed, enough⟩
  · rw [notYet]
    simp only [Bool.false_eq_true, false_iff]
    have pos' := untilFlush_pos (step_placed h.toOnLine cycles)
    omega
  · rw [flushed]
    simp only [true_iff]
    omega

/-- The mode at a phase. -/
def modeAt (phase : Nat) : Mode :=
  if Screen.visibleCycles ≤ phase then .vblank
  else if phase % Screen.lineCycles < 20 then .oamScan
  else if phase % Screen.lineCycles < 63 then .drawing
  else .hblank

/-- A step of a controller that is on and on time, in full: it moves on along the timeline of the
frame, counts the frames that are complete in the time that passes, announces a vertical blank that
begins in it, asks for the display interrupt if a mode begins in it that has it enabled, and asks
for nothing else. -/
theorem step_timeline (h : lcd.Placed) (onTime : lcd.OnTime) (lit : lcd.enabled = true)
    (cycles : Nat) :
    let next := (lcd.step cycles).1
    let requests := (lcd.step cycles).2
    let phase := (lcd.phase + cycles) % Screen.frameCycles
    let flushes := (Screen.flushes lcd.phase (lcd.phase + cycles)).card
    (next.Placed ∧ next.OnTime ∧ next.phase = phase ∧
      next.line.toNat = phase / Screen.lineCycles ∧ next.mode = modeAt phase ∧
      next.mode.start + next.modeClock = phase % Screen.lineCycles) ∧
    next.frames = lcd.frames + flushes ∧
    (next.flushed = true ↔ 1 ≤ flushes) ∧
    (requests.bit 0 = true ↔ 1 ≤ flushes) ∧
    (requests.bit 1 = true ↔
      ∃ time, lcd.phase < time ∧ time ≤ lcd.phase + cycles ∧ lcd.SignalsAt time) ∧
    (∀ i, 2 ≤ i → requests.bit i = false) ∧
    (Screen.visibleCycles ≤ lcd.phase → lcd.phase + cycles < Screen.frameCycles →
      requests.bit 1 = false) := by
  have placed := step_placed h.toOnLine cycles
  obtain ⟨onTime', phase', frames'⟩ := step_phase h onTime lit cycles
  obtain ⟨line', mode', clock'⟩ := place_of_phase placed onTime'
  have counted := Screen.card_flushes lcd.phase cycles
  have signals := step_bit lcd.announces_display h onTime lit cycles
  refine ⟨⟨placed, onTime', phase', ?_, ?_, ?_⟩, by omega,
    step_flushed_iff h onTime lit cycles, ?_, signals, ?_, ?_⟩
  · rw [line', phase']
  · have blank : Screen.height ≤ (lcd.step cycles).1.line.toNat ↔
        Screen.visibleCycles ≤ (lcd.step cycles).1.phase := by
      rw [line', Screen.visibleCycles_eq]
      simp only [Screen.height, Screen.lineCycles]
      omega
    rw [mode', ← phase', modeAt]
    simp only [blank]
  · rw [clock', phase']
  · exact (step_bit lcd.announces_vblank h onTime lit cycles).trans (within_flushes _ _)
  · intro i large
    have none := step_bit (lcd.announces_nothing large) h onTime lit cycles
    simp only [Within, and_false, exists_false, iff_false, Bool.not_eq_true] at none
    exact none
  · intro blank inFrame
    rw [← Bool.not_eq_true, signals]
    rintro ⟨time, after, before, happens⟩
    refine lcd.not_signalsAt (Or.inr ?_) (by omega) happens
    rw [Screen.visibleCycles_eq] at blank
    omega

/-- A controller at the start of a frame that looks out for line zero. -/
def watching : Lcd :=
  { initial with control := 0x80, enables := 0x40, mode := .oamScan }

/-- It asks for the display interrupt when that line is drawn. -/
theorem step_timeline_watching :
    (watching.Placed ∧ watching.OnTime ∧ watching.enabled = true) ∧
      (watching.step 20).1.mode = .drawing ∧ (watching.step 20).2.bit 1 = true := by
  have placed : watching.Placed := ⟨⟨by decide, fun _ => by decide⟩, by decide⟩
  have onTime : watching.OnTime := fun blank => absurd blank (by decide)
  have lit : watching.enabled = true := rfl
  obtain ⟨⟨-, -, -, -, mode, -⟩, -, -, -, display, -⟩ := step_timeline placed onTime lit 20
  refine ⟨⟨placed, onTime, lit⟩, mode, display.2 ⟨20, by decide, by decide, ?_⟩⟩
  exact (watching.signalsAt_drawing (show 0 < Screen.height by decide)).2 ⟨rfl, rfl⟩

end Timeline

end Lcd

end DotMatrix
