import DotMatrix.Lcd.Timing

/-!
Where the LCD controller is in the frame, and where it is a number of cycles later. Two measures
serve: the cycles until the next frame is complete, which also counts for a vertical blank that
begins too early, and the phase, which counts the cycles since line zero. A run of the controller
lowers the first and raises the second, modulo the length of a frame, by the time that passes.
-/

namespace DotMatrix

namespace Mode

/-- How many cycles into a line the mode begins. -/
def start : Mode → Nat
  | oamScan => 0
  | drawing => 20
  | hblank => 63
  | vblank => 0

end Mode

namespace Screen

/-- The cycles from the beginning of a frame to the end of its last visible line. -/
def visibleCycles : Nat := lineCycles * height

/-- How many frames are complete by a time, if one began at time zero. -/
def framesBy (time : Nat) : Nat :=
  (time + (frameCycles - visibleCycles)) / frameCycles

theorem visibleCycles_eq : visibleCycles = 16416 := rfl

theorem frameCycles_eq : frameCycles = 17556 := rfl

theorem framesBy_eq (time : Nat) : framesBy time = (time + 1140) / 17556 := rfl

end Screen

namespace Lcd

/-- The line is one that the mode can have: the lines below the screen belong to the vertical
blank. -/
structure OnLine (lcd : Lcd) : Prop where
  last : lcd.line.toNat ≤ Screen.lastLine
  visible : lcd.mode ≠ .vblank → lcd.line.toNat < Screen.height

/-- The controller is at a point of the frame: on a line of the mode, before the mode's end. -/
structure Placed (lcd : Lcd) : Prop extends OnLine lcd where
  clock : lcd.modeClock < lcd.mode.duration

/-- The vertical blank has not begun before its time. -/
def OnTime (lcd : Lcd) : Prop :=
  lcd.mode = .vblank → Screen.height ≤ lcd.line.toNat

/-- The cycles from the beginning of the mode at hand until the frame is complete. -/
def modeToFlush (lcd : Lcd) : Nat :=
  match lcd.mode with
  | .vblank =>
    Screen.lineCycles * (Screen.lastLine + 1 - lcd.line.toNat) + Screen.visibleCycles
  | mode => Screen.lineCycles * (Screen.height - lcd.line.toNat) - mode.start

/-- The cycles until the frame is complete. -/
def untilFlush (lcd : Lcd) : Nat :=
  lcd.modeToFlush - lcd.modeClock

/-- The cycles from the beginning of the frame to the beginning of the mode at hand. -/
def modePhase (lcd : Lcd) : Nat :=
  Screen.lineCycles * lcd.line.toNat + lcd.mode.start

/-- The cycles since the beginning of the frame. -/
def phase (lcd : Lcd) : Nat :=
  lcd.modePhase + lcd.modeClock

section EndMode

variable {lcd : Lcd}

@[simp] theorem drawLine_line (lcd : Lcd) : lcd.drawLine.line = lcd.line := by
  unfold drawLine
  split <;> rfl

@[simp] theorem drawLine_control (lcd : Lcd) : lcd.drawLine.control = lcd.control := by
  unfold drawLine
  split <;> rfl

@[simp] theorem drawLine_flushed (lcd : Lcd) : lcd.drawLine.flushed = lcd.flushed := by
  unfold drawLine
  split <;> rfl

@[simp] theorem drawLine_frames (lcd : Lcd) : lcd.drawLine.frames = lcd.frames := by
  unfold drawLine
  split <;> rfl

@[simp] theorem drawLine_enables (lcd : Lcd) : lcd.drawLine.enables = lcd.enables := by
  unfold drawLine
  split <;> rfl

theorem toNat_line_succ (h : lcd.line.toNat ≤ Screen.lastLine) :
    (lcd.line + 1).toNat = lcd.line.toNat + 1 := by
  rw [UInt8.toNat_add]
  simp only [Screen.lastLine] at h
  have one : (1 : Byte).toNat = 1 := rfl
  omega

/-- What the end of a mode does to the place in the frame and to the frames, mode by mode. -/
inductive EndsMode (lcd next : Lcd) : Prop where
  | scanned (mode : lcd.mode = .oamScan) (next_mode : next.mode = .drawing)
      (line : next.line = lcd.line) (flushed : next.flushed = lcd.flushed)
      (frames : next.frames = lcd.frames)
  | drawn (mode : lcd.mode = .drawing) (next_mode : next.mode = .hblank)
      (line : next.line = lcd.line) (flushed : next.flushed = lcd.flushed)
      (frames : next.frames = lcd.frames)
  | nextLine (mode : lcd.mode = .hblank) (more : lcd.line.toNat + 1 < Screen.height)
      (next_mode : next.mode = .oamScan) (line : next.line.toNat = lcd.line.toNat + 1)
      (flushed : next.flushed = lcd.flushed) (frames : next.frames = lcd.frames)
  | complete (mode : lcd.mode = .hblank) (last : lcd.line.toNat + 1 = Screen.height)
      (next_mode : next.mode = .vblank) (line : next.line.toNat = Screen.height)
      (flushed : next.flushed = true) (frames : next.frames = lcd.frames + 1)
  | blankLine (mode : lcd.mode = .vblank) (more : lcd.line.toNat < Screen.lastLine)
      (next_mode : next.mode = .vblank) (line : next.line.toNat = lcd.line.toNat + 1)
      (flushed : next.flushed = lcd.flushed) (frames : next.frames = lcd.frames)
  | restart (mode : lcd.mode = .vblank) (last : lcd.line.toNat = Screen.lastLine)
      (next_mode : next.mode = .oamScan) (line : next.line.toNat = 0)
      (flushed : next.flushed = lcd.flushed) (frames : next.frames = lcd.frames)

theorem endMode_cases (h : lcd.OnLine) : lcd.EndsMode lcd.endMode.1 := by
  have succ := toNat_line_succ h.last
  have visible := h.visible
  cases hmode : lcd.mode with
  | oamScan =>
      simp only [endMode, hmode, enter]
      exact .scanned hmode rfl rfl rfl rfl
  | drawing =>
      simp only [endMode, hmode, enter]
      exact .drawn hmode rfl (drawLine_line lcd) (drawLine_flushed lcd) (drawLine_frames lcd)
  | hblank =>
      have visible := visible (by rw [hmode]; decide)
      by_cases last : lcd.line.toNat = Screen.height - 1
      · simp only [endMode, hmode, enter, last, if_true]
        have last : lcd.line.toNat + 1 = Screen.height := by
          rw [last]
          rfl
        exact .complete hmode last rfl (succ.trans last) rfl rfl
      · simp only [endMode, hmode, enter, last, if_false]
        have more : lcd.line.toNat + 1 < Screen.height := by
          simp only [Screen.height] at *
          omega
        exact .nextLine hmode more rfl succ rfl rfl
  | vblank =>
      by_cases last : Screen.lastLine ≤ lcd.line.toNat
      · simp only [endMode, hmode, enter, last, if_true]
        exact .restart hmode (Nat.le_antisymm h.last last) rfl rfl rfl rfl
      · simp only [endMode, hmode, last, if_false]
        exact .blankLine hmode (by omega) rfl succ rfl rfl

@[simp] theorem endMode_control (lcd : Lcd) : lcd.endMode.1.control = lcd.control := by
  unfold endMode
  split
  · rfl
  · exact drawLine_control lcd
  · split <;> rfl
  · split <;> rfl

@[simp] theorem endMode_enables (lcd : Lcd) : lcd.endMode.1.enables = lcd.enables := by
  unfold endMode
  split
  · rfl
  · exact drawLine_enables lcd
  · split <;> rfl
  · split <;> rfl

theorem endMode_onLine (h : lcd.OnLine) : lcd.endMode.1.OnLine := by
  cases endMode_cases h with
  | scanned hmode hnext line | drawn hmode hnext line =>
      have visible := h.visible (by rw [hmode]; decide)
      rw [← line] at visible
      exact ⟨line ▸ h.last, fun _ => visible⟩
  | nextLine hmode more hnext line =>
      rw [← line] at more
      refine ⟨?_, fun _ => more⟩
      simp only [Screen.height, Screen.lastLine] at more ⊢
      omega
  | complete hmode last hnext line =>
      refine ⟨?_, fun outside => absurd hnext outside⟩
      rw [line]
      decide
  | blankLine hmode more hnext line =>
      refine ⟨?_, fun outside => absurd hnext outside⟩
      omega
  | restart hmode last hnext line =>
      refine ⟨?_, fun _ => ?_⟩
      · rw [line]
        decide
      · rw [line]
        decide

/-- The end of a mode completes the frame exactly if the frame was due then; otherwise the frame
comes nearer by the time of the mode. -/
theorem endMode_toFlush (h : lcd.OnLine) :
    (lcd.modeToFlush = lcd.mode.duration ∧ lcd.endMode.1.flushed = true) ∨
    (lcd.modeToFlush = lcd.mode.duration + lcd.endMode.1.modeToFlush ∧
      lcd.endMode.1.flushed = lcd.flushed ∧ lcd.endMode.1.frames = lcd.frames) := by
  have visible := h.visible
  cases endMode_cases h with
  | complete hmode last _ _ flushed =>
      left
      refine ⟨?_, flushed⟩
      simp only [modeToFlush, hmode, Mode.start, Mode.duration, Screen.lineCycles]
      omega
  | scanned hmode hnext line flushed frames | drawn hmode hnext line flushed frames =>
      right
      refine ⟨?_, flushed, frames⟩
      have visible := visible (by rw [hmode]; decide)
      simp only [modeToFlush, hmode, hnext, line, Mode.start, Mode.duration, Screen.lineCycles]
      omega
  | nextLine hmode more hnext line flushed frames =>
      right
      refine ⟨?_, flushed, frames⟩
      simp only [modeToFlush, hmode, hnext, line, Mode.start, Mode.duration, Screen.lineCycles]
      omega
  | blankLine hmode more hnext line flushed frames =>
      right
      refine ⟨?_, flushed, frames⟩
      simp only [modeToFlush, hmode, hnext, line, Mode.duration, Screen.lineCycles]
      omega
  | restart hmode last hnext line flushed frames =>
      right
      refine ⟨?_, flushed, frames⟩
      simp only [modeToFlush, hmode, hnext, last, line, Mode.start, Mode.duration,
        Screen.visibleCycles, Screen.lineCycles]
      omega

/-- With a vertical blank that begins on time, the end of a mode raises the phase by the time of
the mode, modulo the length of a frame, and counts the frames that are complete by then. -/
theorem endMode_phase (h : lcd.OnLine) (onTime : lcd.OnTime) :
    lcd.endMode.1.OnTime ∧
    lcd.endMode.1.modePhase = (lcd.modePhase + lcd.mode.duration) % Screen.frameCycles ∧
    lcd.endMode.1.frames + Screen.framesBy lcd.modePhase =
      lcd.frames + Screen.framesBy (lcd.modePhase + lcd.mode.duration) := by
  have visible := h.visible
  simp only [Screen.frameCycles_eq, Screen.framesBy_eq]
  cases endMode_cases h with
  | scanned hmode hnext line flushed frames | drawn hmode hnext line flushed frames =>
      have visible := visible (by rw [hmode]; decide)
      refine ⟨fun blank => absurd (hnext.symm.trans blank) (by decide), ?_, ?_⟩ <;>
        simp only [modePhase, hmode, hnext, line, frames, Mode.start, Mode.duration,
          Screen.lineCycles, Screen.height] at visible ⊢ <;> omega
  | nextLine hmode more hnext line flushed frames =>
      refine ⟨fun blank => absurd (hnext.symm.trans blank) (by decide), ?_, ?_⟩ <;>
        simp only [modePhase, hmode, hnext, line, frames, Mode.start, Mode.duration,
          Screen.lineCycles, Screen.height] at more ⊢ <;> omega
  | complete hmode last hnext line flushed frames =>
      refine ⟨fun _ => Nat.le_of_eq line.symm, ?_, ?_⟩ <;>
        simp only [modePhase, hmode, hnext, line, frames, Mode.start, Mode.duration,
          Screen.lineCycles, Screen.height] at last ⊢ <;> omega
  | blankLine hmode more hnext line flushed frames =>
      have below := onTime hmode
      refine ⟨fun _ => by omega, ?_, ?_⟩ <;>
        simp only [modePhase, hmode, hnext, line, frames, Mode.start, Mode.duration,
          Screen.lineCycles, Screen.height, Screen.lastLine] at below more ⊢ <;> omega
  | restart hmode last hnext line flushed frames =>
      refine ⟨fun blank => absurd (hnext.symm.trans blank) (by decide), ?_, ?_⟩ <;>
        simp only [modePhase, hmode, hnext, last, line, frames, Mode.start, Mode.duration,
          Screen.lineCycles, Screen.lastLine]

/-- No frame begins or is complete inside a mode. -/
theorem modePhase_add (h : lcd.OnLine) (onTime : lcd.OnTime) {time : Nat}
    (short : time < lcd.mode.duration) :
    lcd.modePhase + time < Screen.frameCycles ∧
      Screen.framesBy (lcd.modePhase + time) = Screen.framesBy lcd.modePhase := by
  have last := h.last
  have visible := h.visible
  simp only [Screen.frameCycles_eq, Screen.framesBy_eq]
  cases hmode : lcd.mode with
  | oamScan | drawing | hblank =>
      have visible := visible (by rw [hmode]; decide)
      simp only [modePhase, hmode, Mode.start, Mode.duration, Screen.lineCycles,
        Screen.height] at short visible ⊢
      omega
  | vblank =>
      have below := onTime hmode
      simp only [modePhase, hmode, Mode.start, Mode.duration, Screen.lineCycles,
        Screen.height, Screen.lastLine] at short last below ⊢
      omega

end EndMode

section Run

theorem run_eq (lcd : Lcd) (time : Nat) (requests : Byte) :
    lcd.run time requests =
      if lcd.mode.duration ≤ time then
        lcd.endMode.1.run (time - lcd.mode.duration) (requests ||| lcd.endMode.2)
      else ({ lcd with modeClock := time }, requests) := by
  rw [run]

/-- Induction along a run: what every end of a mode passes on, and what holds once the time in hand
is less than the mode lasts, holds of the run. -/
theorem run_induction {motive : Lcd → Nat → Lcd → Prop}
    (rest : ∀ lcd time, time < lcd.mode.duration → motive lcd time { lcd with modeClock := time })
    (next : ∀ (lcd : Lcd) time final,
      motive lcd.endMode.1 time final → motive lcd (lcd.mode.duration + time) final)
    (lcd : Lcd) (time : Nat) (requests : Byte) :
    motive lcd time (lcd.run time requests).1 := by
  induction time using Nat.strongRecOn generalizing lcd requests with
  | ind time ih =>
      rw [run_eq]
      split
      · next enough =>
          have pos := lcd.mode.duration_pos
          have step := next lcd _ _
            (ih (time - lcd.mode.duration) (by omega) lcd.endMode.1 (requests ||| lcd.endMode.2))
          rwa [Nat.add_sub_cancel' enough] at step
      · next short => exact rest lcd time (by omega)

variable {lcd : Lcd}

theorem run_placed (h : lcd.OnLine) (time : Nat) (requests : Byte) :
    (lcd.run time requests).1.Placed := by
  refine run_induction (motive := fun lcd _ final => lcd.OnLine → final.Placed) ?_ ?_
    lcd time requests h
  · intro lcd time short h
    exact { h with clock := short }
  · intro lcd time final ih h
    exact ih (endMode_onLine h)

theorem run_control (lcd : Lcd) (time : Nat) (requests : Byte) :
    (lcd.run time requests).1.control = lcd.control := by
  refine run_induction (motive := fun lcd _ final => final.control = lcd.control) ?_ ?_
    lcd time requests
  · intro lcd time _
    rfl
  · intro lcd time final ih
    exact ih.trans (endMode_control lcd)

theorem run_enables (lcd : Lcd) (time : Nat) (requests : Byte) :
    (lcd.run time requests).1.enables = lcd.enables := by
  refine run_induction (motive := fun lcd _ final => final.enables = lcd.enables) ?_ ?_
    lcd time requests
  · intro lcd time _
    rfl
  · intro lcd time final ih
    exact ih.trans (endMode_enables lcd)

/-- A run that is too short for the frame brings the frame nearer. -/
theorem run_before_flush (h : lcd.OnLine) {time : Nat} (before : time < lcd.modeToFlush)
    (requests : Byte) :
    (lcd.run time requests).1.untilFlush + time = lcd.modeToFlush ∧
      (lcd.run time requests).1.flushed = lcd.flushed := by
  refine run_induction
    (motive := fun lcd time final => lcd.OnLine → time < lcd.modeToFlush →
      final.untilFlush + time = lcd.modeToFlush ∧ final.flushed = lcd.flushed) ?_ ?_
    lcd time requests h before
  · intro lcd time _ _ before
    refine ⟨?_, rfl⟩
    change lcd.modeToFlush - time + time = lcd.modeToFlush
    omega
  · intro lcd time final ih h before
    rcases endMode_toFlush h with ⟨due, -⟩ | ⟨nearer, flushed, -⟩
    · omega
    · obtain ⟨until_, flushed'⟩ := ih (endMode_onLine h) (by omega)
      exact ⟨by omega, flushed'.trans flushed⟩

/-- A run that is long enough for the frame completes it, and once complete, a frame is not taken
back. -/
theorem run_flushes (h : lcd.OnLine) {time : Nat}
    (due : lcd.flushed = true ∨ lcd.modeToFlush ≤ time) (requests : Byte) :
    (lcd.run time requests).1.flushed = true := by
  refine run_induction
    (motive := fun lcd time final => lcd.OnLine → lcd.flushed = true ∨ lcd.modeToFlush ≤ time →
      final.flushed = true) ?_ ?_ lcd time requests h due
  · intro lcd time short h due
    rcases due with flushed | enough
    · exact flushed
    · rcases endMode_toFlush h with ⟨now, -⟩ | ⟨nearer, -, -⟩ <;> omega
  · intro lcd time final ih h due
    apply ih (endMode_onLine h)
    rcases endMode_toFlush h with ⟨-, done⟩ | ⟨nearer, same, -⟩
    · exact Or.inl done
    · rcases due with flushed | enough
      · exact Or.inl (same.trans flushed)
      · exact Or.inr (by omega)

/-- A run raises the phase by the time that passes, modulo the length of a frame, and counts the
frames that are complete by then. -/
theorem run_phase (h : lcd.OnLine) (onTime : lcd.OnTime) (time : Nat) (requests : Byte) :
    (lcd.run time requests).1.OnTime ∧
    (lcd.run time requests).1.phase = (lcd.modePhase + time) % Screen.frameCycles ∧
    (lcd.run time requests).1.frames + Screen.framesBy lcd.modePhase =
      lcd.frames + Screen.framesBy (lcd.modePhase + time) := by
  refine run_induction
    (motive := fun lcd time final => lcd.OnLine → lcd.OnTime →
      final.OnTime ∧ final.phase = (lcd.modePhase + time) % Screen.frameCycles ∧
      final.frames + Screen.framesBy lcd.modePhase =
        lcd.frames + Screen.framesBy (lcd.modePhase + time)) ?_ ?_ lcd time requests h onTime
  · intro lcd time short h onTime
    obtain ⟨inFrame, same⟩ := modePhase_add h onTime short
    rw [same, Nat.mod_eq_of_lt inFrame]
    exact ⟨onTime, rfl, rfl⟩
  · intro lcd time final ih h onTime
    obtain ⟨onTime', phase', frames'⟩ := endMode_phase h onTime
    obtain ⟨final_onTime, final_phase, final_frames⟩ := ih (endMode_onLine h) onTime'
    rw [phase'] at final_phase final_frames
    rw [Screen.frameCycles_eq] at *
    simp only [Screen.framesBy_eq] at *
    exact ⟨final_onTime, by omega, by omega⟩

end Run

section Step

variable {lcd : Lcd}

theorem step_of_lit (lit : lcd.enabled = true) (cycles : Nat) :
    lcd.step cycles = { lcd with flushed := false }.run (lcd.modeClock + cycles) 0 := by
  simp only [step]
  exact if_pos lit

theorem step_of_dark (dark : lcd.enabled = false) (cycles : Nat) :
    lcd.step cycles = ({ lcd with flushed := false }.restart .vblank, 0) := by
  simp only [step]
  exact if_neg (fun lit => Bool.false_ne_true (dark.symm.trans lit))

theorem step_cases (lcd : Lcd) (cycles : Nat) :
    (lcd.enabled = true ∧
      lcd.step cycles = { lcd with flushed := false }.run (lcd.modeClock + cycles) 0) ∨
    (lcd.enabled = false ∧
      lcd.step cycles = ({ lcd with flushed := false }.restart .vblank, 0)) := by
  cases hlcd : lcd.enabled with
  | true => exact Or.inl ⟨rfl, step_of_lit hlcd cycles⟩
  | false => exact Or.inr ⟨rfl, step_of_dark hlcd cycles⟩

@[simp] theorem step_control (lcd : Lcd) (cycles : Nat) :
    (lcd.step cycles).1.control = lcd.control := by
  rcases step_cases lcd cycles with ⟨-, hstep⟩ | ⟨-, hstep⟩
  · rw [hstep]
    exact run_control _ _ _
  · rw [hstep]
    rfl

@[simp] theorem step_enables (lcd : Lcd) (cycles : Nat) :
    (lcd.step cycles).1.enables = lcd.enables := by
  rcases step_cases lcd cycles with ⟨-, hstep⟩ | ⟨-, hstep⟩
  · rw [hstep]
    exact run_enables _ _ _
  · rw [hstep]
    rfl

@[simp] theorem step_enabled (lcd : Lcd) (cycles : Nat) :
    (lcd.step cycles).1.enabled = lcd.enabled := by
  simp only [enabled, step_control]

theorem restart_placed (lcd : Lcd) (mode : Mode) : (lcd.restart mode).Placed := by
  refine ⟨⟨?_, ?_⟩, mode.duration_pos⟩
  · exact Nat.zero_le _
  · intro _
    exact Nat.succ_pos _

theorem step_placed (h : lcd.OnLine) (cycles : Nat) : (lcd.step cycles).1.Placed := by
  rcases step_cases lcd cycles with ⟨-, hstep⟩ | ⟨-, hstep⟩
  · have onLine : ({ lcd with flushed := false } : Lcd).OnLine := ⟨h.last, h.visible⟩
    rw [hstep]
    exact run_placed onLine _ _
  · rw [hstep]
    exact restart_placed _ _

theorem step_dark (dark : lcd.enabled = false) (cycles : Nat) :
    (lcd.step cycles).1.flushed = false := by
  rw [step_of_dark dark]
  rfl

/-- With the display on, a step either is too short for the frame and brings it nearer, or completes
it. -/
theorem step_lit (h : lcd.Placed) (lit : lcd.enabled = true) (cycles : Nat) :
    ((lcd.step cycles).1.flushed = false ∧
      (lcd.step cycles).1.untilFlush + cycles = lcd.untilFlush) ∨
    ((lcd.step cycles).1.flushed = true ∧ lcd.untilFlush ≤ cycles) := by
  have onLine : ({ lcd with flushed := false } : Lcd).OnLine := ⟨h.last, h.visible⟩
  have hto : ({ lcd with flushed := false } : Lcd).modeToFlush = lcd.modeToFlush := rfl
  have pos : lcd.mode.duration ≤ lcd.modeToFlush := by
    rcases endMode_toFlush h.toOnLine with ⟨now, -⟩ | ⟨nearer, -, -⟩ <;> omega
  have clock := h.clock
  rw [step_of_lit lit]
  by_cases before : lcd.modeClock + cycles < lcd.modeToFlush
  · left
    obtain ⟨nearer, flushed⟩ := run_before_flush onLine (hto ▸ before) 0
    refine ⟨flushed, ?_⟩
    simp only [untilFlush] at nearer ⊢
    omega
  · right
    refine ⟨run_flushes onLine (Or.inr (hto ▸ Nat.le_of_not_lt before)) 0, ?_⟩
    simp only [untilFlush]
    omega

theorem untilFlush_pos (h : lcd.Placed) : 0 < lcd.untilFlush := by
  have clock := h.clock
  simp only [untilFlush]
  rcases endMode_toFlush h.toOnLine with ⟨now, -⟩ | ⟨nearer, -, -⟩ <;> omega

/-- With the display on, a step raises the phase by the time that passes and counts the frames that
are complete by then. -/
theorem step_phase (h : lcd.Placed) (onTime : lcd.OnTime) (lit : lcd.enabled = true)
    (cycles : Nat) :
    (lcd.step cycles).1.OnTime ∧
    (lcd.step cycles).1.phase = (lcd.phase + cycles) % Screen.frameCycles ∧
    (lcd.step cycles).1.frames + Screen.framesBy lcd.phase =
      lcd.frames + Screen.framesBy (lcd.phase + cycles) := by
  have onLine : ({ lcd with flushed := false } : Lcd).OnLine := ⟨h.last, h.visible⟩
  have hphase : ({ lcd with flushed := false } : Lcd).modePhase = lcd.modePhase := rfl
  obtain ⟨-, same⟩ := modePhase_add h.toOnLine onTime h.clock
  obtain ⟨onTime', phase', frames'⟩ := run_phase onLine onTime (lcd.modeClock + cycles) 0
  rw [step_of_lit lit]
  rw [hphase, ← Nat.add_assoc] at phase' frames'
  rw [← same] at frames'
  exact ⟨onTime', phase', frames'⟩

/-- The place in the frame can be read off the phase. -/
theorem place_of_phase (h : lcd.Placed) (onTime : lcd.OnTime) :
    lcd.line.toNat = lcd.phase / Screen.lineCycles ∧
    lcd.mode =
      (if Screen.height ≤ lcd.line.toNat then .vblank
       else if lcd.phase % Screen.lineCycles < 20 then .oamScan
       else if lcd.phase % Screen.lineCycles < 63 then .drawing
       else .hblank) ∧
    lcd.mode.start + lcd.modeClock = lcd.phase % Screen.lineCycles := by
  have visible := h.visible
  have clock := h.clock
  cases hmode : lcd.mode with
  | vblank =>
      have below := onTime hmode
      simp only [phase, modePhase, hmode, Mode.start, Mode.duration, Screen.lineCycles,
        below, if_true] at clock ⊢
      refine ⟨by omega, trivial, by omega⟩
  | oamScan | drawing | hblank =>
      have visible := visible (by rw [hmode]; decide)
      simp only [phase, modePhase, hmode, Mode.start, Mode.duration, Screen.lineCycles,
        Nat.not_le.mpr visible, if_false] at clock ⊢
      refine ⟨by omega, ?_, by omega⟩
      grind

end Step

end Lcd

end DotMatrix
