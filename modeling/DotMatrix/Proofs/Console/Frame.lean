import DotMatrix.Proofs.Console.Reachable

/-!
Running for a frame, dispatch by dispatch. Every dispatch brings the next frame nearer while the
display is on, and while it is off the time without a frame adds up; but a program that switches the
display starts both counts over again.
-/

namespace DotMatrix.Console

def lit (c : Console) : Bool :=
  c.bus.lcd.enabled

/-- The cycles until a frame is complete, if the display stays on or is switched on next. -/
def untilFrame (c : Console) : Nat :=
  if c.lit then c.bus.lcd.untilFlush else Screen.visibleCycles

section OneDispatch

variable {c : Console} {cycles : Nat}

theorem untilFrame_pos (h : c.bus.lcd.Placed) : 0 < c.untilFrame := by
  unfold untilFrame
  split
  · exact Lcd.untilFlush_pos h
  · rw [Screen.visibleCycles_eq]
    omega

/-- The display is on or off after a dispatch as the stores have left it. -/
theorem dispatch_lit_eq (ok : c.dispatch.2 = .ok cycles) :
    c.dispatch.1.lit = c.stored.lcd.enabled := by
  unfold lit
  rw [(dispatch_ok ok).bus, Bus.elapse_lcd, Lcd.step_enabled]

/-- Stores that leave the display on leave the next frame as far away as it was. -/
theorem stored_lit (h : c.bus.lcd.Placed) (on : c.stored.lcd.enabled = true) :
    c.stored.lcd.Placed ∧ c.stored.lcd.untilFlush = c.untilFrame := by
  unfold untilFrame lit
  rcases c.stored_lcd_cases with abreast | switched
  · have was : c.bus.lcd.enabled = true := abreast.enabled.symm.trans on
    rw [if_pos was]
    exact ⟨abreast.placed h, abreast.untilFlush⟩
  · have was : c.bus.lcd.enabled = false := by
      have flipped := switched.enabled
      rw [on] at flipped
      simpa using flipped
    rw [was, if_neg Bool.false_ne_true]
    exact ⟨switched.placed, switched.untilFlush on⟩

theorem dispatch_dark (ok : c.dispatch.2 = .ok cycles) (dark : c.dispatch.1.lit = false) :
    c.dispatch.1.bus.lcd.flushed = false := by
  rw [dispatch_lit_eq ok] at dark
  rw [(dispatch_ok ok).bus, Bus.elapse_lcd]
  exact Lcd.step_dark dark cycles

/-- A dispatch that leaves the display on either is too short for the frame and brings it nearer, or
completes it. -/
theorem dispatch_lit (h : c.bus.lcd.Placed) (ok : c.dispatch.2 = .ok cycles)
    (lit : c.dispatch.1.lit = true) :
    (c.dispatch.1.bus.lcd.flushed = false ∧ c.dispatch.1.untilFrame + cycles = c.untilFrame) ∨
    (c.dispatch.1.bus.lcd.flushed = true ∧ c.untilFrame ≤ cycles) := by
  have on : c.stored.lcd.enabled = true := (dispatch_lit_eq ok).symm.trans lit
  obtain ⟨placed, frame⟩ := stored_lit h on
  have now : c.dispatch.1.untilFrame = c.dispatch.1.bus.lcd.untilFlush := by
    unfold untilFrame
    rw [if_pos lit]
  rw [now, ← frame, (dispatch_ok ok).bus, Bus.elapse_lcd]
  exact Lcd.step_lit placed on cycles

theorem dispatchCycles_pos (ok : c.dispatch.2 = .ok cycles) : 0 < c.dispatchCycles := by
  have passes := dispatch_ok ok
  rw [c.dispatchCycles_eq ok]
  have least := passes.least
  omega

end OneDispatch

/-- How long the display has been off without a break after a number of dispatches, if it was off for
some time before them. -/
def darkAfter (c : Console) (dark : Nat) : Nat → Nat
  | 0 => dark
  | n + 1 => if (c.after (n + 1)).lit then 0 else c.darkAfter dark n + (c.after n).dispatchCycles

/-- Running for a frame does not end with a dispatch. -/
structure GoesOn (c : Console) (dark n : Nat) : Prop where
  ok : ∃ cycles, (c.after n).dispatch.2 = .ok cycles
  flushed : (c.after (n + 1)).bus.lcd.flushed = false
  dark : c.darkAfter dark (n + 1) < Screen.frameCycles

section Running

variable {c : Console} {cycles : Nat}

theorem darkAfter_dispatch (c : Console) (dark n : Nat) :
    c.dispatch.1.darkAfter (c.darkAfter dark 1) n = c.darkAfter dark (n + 1) := by
  induction n with
  | zero => rfl
  | succ n ih =>
      rw [darkAfter, ih, after_dispatch, after_dispatch]
      rfl

theorem goesOn_succ (c : Console) (dark n : Nat) :
    c.GoesOn dark (n + 1) ↔ c.dispatch.1.GoesOn (c.darkAfter dark 1) n := by
  constructor
  · intro h
    refine ⟨?_, ?_, ?_⟩
    · rw [after_dispatch]
      exact h.ok
    · rw [after_dispatch]
      exact h.flushed
    · rw [darkAfter_dispatch]
      exact h.dark
  · intro h
    refine ⟨?_, ?_, ?_⟩
    · rw [← after_dispatch]
      exact h.ok
    · rw [← after_dispatch]
      exact h.flushed
    · rw [← darkAfter_dispatch]
      exact h.dark

theorem goesOn_below_succ (c : Console) (limit dark : Nat) :
    (∀ n < limit + 1, c.GoesOn dark n) ↔
      c.GoesOn dark 0 ∧ ∀ n < limit, c.dispatch.1.GoesOn (c.darkAfter dark 1) n := by
  constructor
  · intro h
    exact ⟨h 0 (Nat.succ_pos _),
      fun n before => (c.goesOn_succ dark n).mp (h (n + 1) (Nat.succ_lt_succ before))⟩
  · rintro ⟨first, rest⟩ n before
    cases n with
    | zero => exact first
    | succ n => exact (c.goesOn_succ dark n).mpr (rest n (Nat.lt_of_succ_lt_succ before))

theorem darkAfter_one (dark : Nat) (ok : c.dispatch.2 = .ok cycles) :
    c.darkAfter dark 1 = if c.dispatch.1.lit then 0 else dark + cycles := by
  simp only [darkAfter, after, c.dispatchCycles_eq ok]

/-- Running for a frame goes on after a first dispatch that it does not end with. -/
theorem runFrame_unfinished_succ (c : Console) (limit dark : Nat) :
    (c.runFrame (limit + 1) dark).2 = .unfinished ↔
      c.GoesOn dark 0 ∧ (c.dispatch.1.runFrame limit (c.darkAfter dark 1)).2 = .unfinished := by
  have first : c.after (0 + 1) = c.dispatch.1 := rfl
  cases hd : c.dispatch.2 with
  | error failure =>
      have ends : c.runFrame (limit + 1) dark = (c.dispatch.1, .failed failure) := by
        rw [runFrame_succ, show c.dispatch = (c.dispatch.1, .error failure) from Prod.ext rfl hd]
      rw [ends]
      constructor
      · intro h
        cases h
      · rintro ⟨⟨⟨cycles, ok⟩, -, -⟩, -⟩
        exact absurd (ok.symm.trans hd) (by simp)
  | ok cycles =>
      have count := darkAfter_one dark hd
      have goes : c.runFrame (limit + 1) dark =
          if c.dispatch.1.bus.lcd.flushed then (c.dispatch.1, .flushed)
          else if c.dispatch.1.lit then c.dispatch.1.runFrame limit 0
          else if Screen.frameCycles ≤ dark + cycles then (c.dispatch.1, .dark)
          else c.dispatch.1.runFrame limit (dark + cycles) := by
        rw [runFrame_succ, show c.dispatch = (c.dispatch.1, .ok cycles) from Prod.ext rfl hd]
        rfl
      rw [goes]
      constructor
      · intro h
        split at h
        · cases h
        · next notFlushed =>
            have flushed : c.dispatch.1.bus.lcd.flushed = false := by simpa using notFlushed
            split at h
            · next on =>
                rw [if_pos on] at count
                refine ⟨⟨⟨cycles, hd⟩, flushed, ?_⟩, count ▸ h⟩
                rw [Nat.zero_add, count]
                decide
            · next off =>
                rw [if_neg off] at count
                split at h
                · cases h
                · next short =>
                    refine ⟨⟨⟨cycles, hd⟩, flushed, ?_⟩, count ▸ h⟩
                    rw [Nat.zero_add, count]
                    exact Nat.lt_of_not_le short
      · rintro ⟨⟨-, flushed, short⟩, h⟩
        rw [first] at flushed
        rw [Nat.zero_add] at short
        rw [if_neg (by rw [flushed]; exact Bool.false_ne_true)]
        split
        · next on =>
            rw [if_pos on] at count
            exact count ▸ h
        · next off =>
            rw [if_neg off] at count
            rw [count] at short
            rw [if_neg (Nat.not_le.mpr short)]
            exact count ▸ h

/-- Running for a frame uses up its steps exactly if it ends with none of the dispatches. -/
theorem runFrame_unfinished_iff (c : Console) (limit dark : Nat) :
    (c.runFrame limit dark).2 = .unfinished ↔ ∀ n < limit, c.GoesOn dark n := by
  induction limit generalizing c dark with
  | zero =>
      constructor
      · intro _ n before
        exact absurd before (Nat.not_lt_zero n)
      · intro _
        rfl
  | succ limit ih => rw [runFrame_unfinished_succ, ih, goesOn_below_succ]

end Running

/-- The display was switched some cycles ago at the most, as far as the two counts tell. -/
structure Recent (c : Console) (elapsed dark : Nat) : Prop where
  frame : Screen.visibleCycles ≤ c.untilFrame + elapsed
  dark : dark ≤ if c.lit then 0 else elapsed

section Recent

variable {c : Console} {elapsed dark cycles : Nat}

/-- A dispatch soon after a switch does not end the running for a frame. -/
theorem Recent.dispatch (h : c.Recent elapsed dark) (sound : c.Sound)
    (ok : c.dispatch.2 = .ok cycles) (short : elapsed + cycles < Screen.visibleCycles) :
    c.GoesOn dark 0 ∧ c.dispatch.1.Recent (elapsed + cycles) (c.darkAfter dark 1) := by
  have frame := h.frame
  have count := darkAfter_one dark ok
  have wait : dark ≤ elapsed := by
    have bound := h.dark
    split at bound <;> omega
  rw [Screen.visibleCycles_eq] at short frame
  cases on : c.dispatch.1.lit with
  | false =>
      rw [on, if_neg Bool.false_ne_true] at count
      refine ⟨⟨⟨cycles, ok⟩, dispatch_dark ok on, ?_⟩, ⟨?_, ?_⟩⟩
      · rw [Nat.zero_add, count, Screen.frameCycles_eq]
        omega
      · rw [untilFrame, on, if_neg Bool.false_ne_true]
        exact Nat.le_add_right _ _
      · rw [on, if_neg Bool.false_ne_true, count]
        omega
  | true =>
      rw [on, if_pos rfl] at count
      rcases dispatch_lit sound.bus.lcd.toPlaced ok on with ⟨notFlushed, nearer⟩ | ⟨-, due⟩
      · refine ⟨⟨⟨cycles, ok⟩, notFlushed, ?_⟩, ⟨?_, ?_⟩⟩
        · rw [Nat.zero_add, count, Screen.frameCycles_eq]
          omega
        · rw [Screen.visibleCycles_eq]
          omega
        · rw [on, if_pos rfl]
          exact Nat.le_of_eq count
      · omega

/-- A dispatch that switches the display starts both counts over again. -/
theorem Recent.switch (h : c.Recent elapsed dark) (sound : c.Sound)
    (ok : c.dispatch.2 = .ok cycles) (short : elapsed + cycles < Screen.visibleCycles)
    (switched : c.dispatch.1.lit = !c.lit) : c.dispatch.1.Recent cycles (c.darkAfter dark 1) := by
  have goes := (h.dispatch sound ok short).1
  have count := darkAfter_one dark ok
  have wait := h.dark
  cases on : c.dispatch.1.lit with
  | false =>
      have was : c.lit = true := by
        rw [on] at switched
        simpa using switched
      rw [was, if_pos rfl] at wait
      rw [on, if_neg Bool.false_ne_true] at count
      refine ⟨?_, ?_⟩
      · rw [untilFrame, on, if_neg Bool.false_ne_true]
        exact Nat.le_add_right _ _
      · rw [on, if_neg Bool.false_ne_true, count]
        omega
  | true =>
      have was : c.lit = false := by
        rw [on] at switched
        simpa using switched
      have whole : c.untilFrame = Screen.visibleCycles := by
        rw [untilFrame, was, if_neg Bool.false_ne_true]
      rw [on, if_pos rfl] at count
      refine ⟨?_, ?_⟩
      · rcases dispatch_lit sound.bus.lcd.toPlaced ok on with ⟨-, nearer⟩ | ⟨flushed, -⟩
        · omega
        · exact absurd (goes.flushed.symm.trans flushed) Bool.false_ne_true
      · rw [count]
        exact Nat.zero_le _

/-- Running for a frame goes on for ever along an invariant that keeps it going. -/
theorem goesOn_of_invariant {motive : Console → Nat → Prop}
    (keep : ∀ c dark, motive c dark →
      c.GoesOn dark 0 ∧ motive c.dispatch.1 (c.darkAfter dark 1))
    (start : motive c dark) (n : Nat) : c.GoesOn dark n := by
  induction n generalizing c dark with
  | zero => exact (keep c dark start).1
  | succ n ih => exact (c.goesOn_succ dark n).mpr (ih (keep c dark start).2)

end Recent

end DotMatrix.Console
