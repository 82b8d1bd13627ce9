import DotMatrix.Proofs.Lcd.WholeFrames

/-!
The course of the LCD controller. From a reset, steps and writes lead to every point of a frame whose
vertical blank begins on time and, with the display off, to one point only; they lead nowhere else. And
while the display stays on, the next frame is complete when as many cycles have passed as are left until
then, however they are cut into steps and whatever is written between them.
-/

namespace DotMatrix

namespace LcdEvent

/-- Does it come while a program runs? -/
def runs : LcdEvent → Bool
  | step _ | write _ _ | setOam _ _ | transfer _ => true
  | restore _ | reset => false

/-- The cycles that pass. -/
def cycles : LcdEvent → Nat
  | step cycles => cycles
  | _ => 0

/-- Is it anything but a step? -/
def instant : LcdEvent → Bool
  | step _ => false
  | _ => true

theorem cycles_of_instant {event : LcdEvent} (h : event.instant = true) : event.cycles = 0 := by
  cases event with
  | step cycles => cases h
  | write | setOam | transfer | restore | reset => rfl

end LcdEvent

namespace Lcd

/-- Where the controller is. -/
structure Point where
  lit : Bool
  mode : Mode
  line : Byte
  clock : Nat
  deriving DecidableEq, Repr

def point (lcd : Lcd) : Point :=
  ⟨lcd.enabled, lcd.mode, lcd.line, lcd.modeClock⟩

/-- The controller is where frame after frame leads it: at a point of the frame, with a vertical blank that
has begun on time, or where it stays while the display is off. -/
def InCourse (lcd : Lcd) : Prop :=
  if lcd.enabled then lcd.Placed ∧ lcd.OnTime
  else lcd.line = 0 ∧ lcd.mode = .vblank ∧ lcd.modeClock = 0

/-- Is the display on at first and after each of some events? -/
def staysOn (lcd : Lcd) : List LcdEvent → Bool
  | [] => lcd.enabled
  | event :: rest => lcd.enabled && (lcd.apply event).staysOn rest

/-- Does one of the steps among some events complete a frame? -/
def flushesIn (lcd : Lcd) : List LcdEvent → Bool
  | [] => false
  | .step cycles :: rest =>
    (lcd.step cycles).1.flushed || (lcd.apply (.step cycles)).flushesIn rest
  | event :: rest => (lcd.apply event).flushesIn rest

section Course

variable {lcd lcd' : Lcd}

theorem inCourse_lit (lit : lcd.enabled = true) : lcd.InCourse ↔ lcd.Placed ∧ lcd.OnTime := by
  rw [InCourse, if_pos lit]

theorem inCourse_dark (dark : lcd.enabled = false) :
    lcd.InCourse ↔ lcd.line = 0 ∧ lcd.mode = .vblank ∧ lcd.modeClock = 0 := by
  rw [InCourse, if_neg (Bool.eq_false_iff.mp dark)]

/-- Whether the controller is in course can be told from its point. -/
theorem InCourse.congr (h : lcd.InCourse) (same : lcd'.point = lcd.point) : lcd'.InCourse := by
  simp only [point, Point.mk.injEq] at same
  obtain ⟨enabled, mode, line, clock⟩ := same
  cases hlit : lcd.enabled with
  | true =>
      obtain ⟨placed, onTime⟩ := (inCourse_lit hlit).mp h
      refine (inCourse_lit (enabled.trans hlit)).mpr ⟨⟨⟨?_, ?_⟩, ?_⟩, ?_⟩
      · rw [line]
        exact placed.last
      · rw [mode, line]
        exact placed.visible
      · rw [mode, clock]
        exact placed.clock
      · rw [OnTime, mode, line]
        exact onTime
  | false =>
      obtain ⟨top, blank, zero⟩ := (inCourse_dark hlit).mp h
      exact (inCourse_dark (enabled.trans hlit)).mpr
        ⟨line.trans top, mode.trans blank, clock.trans zero⟩

theorem Abreast.point (h : lcd.Abreast lcd') : lcd'.point = lcd.point := by
  simp only [Lcd.point, h.enabled, h.mode, h.line, h.clock]

theorem Switched.inCourse (h : lcd.Switched lcd') : lcd'.InCourse := by
  cases hlit : lcd'.enabled with
  | true =>
      have scans : lcd'.mode = .oamScan := by
        rw [h.mode, hlit]
        rfl
      refine (inCourse_lit hlit).mpr ⟨h.placed, fun blank => ?_⟩
      exact absurd (scans.symm.trans blank) (by decide)
  | false =>
      have blank : lcd'.mode = .vblank := by
        rw [h.mode, hlit]
        rfl
      exact (inCourse_dark hlit).mpr ⟨h.line, blank, h.clock⟩

theorem step_inCourse (h : lcd.InCourse) (cycles : Nat) : (lcd.step cycles).1.InCourse := by
  cases hlit : lcd.enabled with
  | true =>
      obtain ⟨placed, onTime⟩ := (inCourse_lit hlit).mp h
      have still : (lcd.step cycles).1.enabled = true := (step_enabled lcd cycles).trans hlit
      exact (inCourse_lit still).mpr
        ⟨step_placed placed.toOnLine cycles, (step_phase placed onTime hlit cycles).1⟩
  | false =>
      have still : (lcd.step cycles).1.enabled = false := (step_enabled lcd cycles).trans hlit
      refine (inCourse_dark still).mpr ?_
      rw [step_of_dark hlit]
      exact ⟨rfl, rfl, rfl⟩

/-- What comes while a program runs and is no step leaves the controller at its point, or switches the
display. -/
theorem apply_cases {event : LcdEvent} (runs : event.runs = true) :
    (∃ cycles, event = .step cycles) ∨
      event.instant = true ∧ (lcd.Abreast (lcd.apply event) ∨ lcd.Switched (lcd.apply event)) := by
  cases event with
  | step cycles => exact Or.inl ⟨cycles, rfl⟩
  | write addr value => exact Or.inr ⟨rfl, lcd.write_cases addr value⟩
  | setOam | transfer => exact Or.inr ⟨rfl, Or.inl (.of_control rfl rfl rfl rfl rfl)⟩
  | restore | reset => cases runs

theorem apply_inCourse (h : lcd.InCourse) {event : LcdEvent} (runs : event.runs = true) :
    (lcd.apply event).InCourse := by
  rcases apply_cases runs with ⟨cycles, rfl⟩ | ⟨-, abreast | switched⟩
  · exact step_inCourse h cycles
  · exact h.congr abreast.point
  · exact switched.inCourse

theorem applyAll_inCourse (h : lcd.InCourse) {events : List LcdEvent}
    (runs : ∀ event ∈ events, event.runs = true) : (lcd.applyAll events).InCourse := by
  induction events generalizing lcd with
  | nil => exact h
  | cons event rest ih =>
      have first := apply_inCourse h (runs event List.mem_cons_self)
      exact ih first fun event member => runs event (List.mem_cons_of_mem _ member)

theorem initial_inCourse : initial.InCourse :=
  (inCourse_dark rfl).mpr ⟨rfl, rfl, rfl⟩

/-- With the display on, the point can be read off the phase. -/
theorem point_eq_of_phase (h : lcd.Placed) (onTime : lcd.OnTime) (h' : lcd'.Placed)
    (onTime' : lcd'.OnTime) (enabled : lcd'.enabled = lcd.enabled) (same : lcd'.phase = lcd.phase) :
    lcd'.point = lcd.point := by
  obtain ⟨line, mode, clock⟩ := place_of_phase h onTime
  obtain ⟨line', mode', clock'⟩ := place_of_phase h' onTime'
  rw [same] at line' mode' clock'
  have lines : lcd'.line.toNat = lcd.line.toNat := line'.trans line.symm
  have modes : lcd'.mode = lcd.mode := by rw [mode', mode, lines]
  have clocks : lcd'.modeClock = lcd.modeClock := by
    rw [modes] at clock'
    omega
  simp only [point, enabled, modes, UInt8.toNat_inj.mp lines, clocks]

/-- Once it is switched on, the controller comes to every point of the frame by a single step. -/
theorem point_of_switched {start : Lcd} (switched : start.Switched lcd') (lit' : lcd'.enabled = true)
    (lit : lcd.enabled = true) (h : lcd.Placed) (onTime : lcd.OnTime) :
    (lcd'.step lcd.phase).1.point = lcd.point := by
  obtain ⟨placed', onTime'⟩ := (inCourse_lit lit').mp switched.inCourse
  have begins : lcd'.phase = 0 := by
    have scans : lcd'.mode = .oamScan := by
      rw [switched.mode, lit']
      rfl
    rw [phase, modePhase, switched.line, scans, switched.clock]
    rfl
  obtain ⟨onTime'', arrives, -⟩ := step_phase placed' onTime' lit' lcd.phase
  have inFrame : lcd.phase < Screen.frameCycles := (modePhase_add h.toOnLine onTime h.clock).1
  rw [begins, Nat.zero_add, Nat.mod_eq_of_lt inFrame] at arrives
  have enabled : (lcd'.step lcd.phase).1.enabled = lcd.enabled := by
    rw [step_enabled, lit', lit]
  exact point_eq_of_phase h onTime (step_placed placed'.toOnLine _) onTime'' enabled arrives

/-- The points in course are those that steps and writes lead to from a reset. -/
theorem inCourse_iff_led (lcd : Lcd) :
    (∃ events : List LcdEvent, (∀ event ∈ events, event.runs = true) ∧
      (initial.applyAll events).point = lcd.point) ↔ lcd.InCourse := by
  constructor
  · rintro ⟨events, runs, arrives⟩
    exact (applyAll_inCourse initial_inCourse runs).congr arrives.symm
  · intro h
    cases hlit : lcd.enabled with
    | true =>
        obtain ⟨placed, onTime⟩ := (inCourse_lit hlit).mp h
        have on : (initial.write 0xFF40 0x80).enabled = true := by decide
        have switched : initial.Switched (initial.write 0xFF40 0x80) := by
          rcases initial.write_cases 0xFF40 0x80 with abreast | switched
          · exact absurd (abreast.enabled.symm.trans on) (by decide)
          · exact switched
        refine ⟨[.write 0xFF40 0x80, .step lcd.phase], ?_, ?_⟩
        · simp [LcdEvent.runs]
        · exact point_of_switched switched on hlit placed onTime
    | false =>
        obtain ⟨line, mode, clock⟩ := (inCourse_dark hlit).mp h
        refine ⟨[], fun event member => absurd member List.not_mem_nil, ?_⟩
        simp only [applyAll, List.foldl_nil, point, hlit, line, mode, clock]
        rfl

end Course

section Flush

variable {lcd : Lcd}

theorem staysOn_lit {events : List LcdEvent} (on : lcd.staysOn events = true) :
    lcd.enabled = true := by
  cases events with
  | nil => exact on
  | cons event rest => exact (Bool.and_eq_true_iff.mp on).1

theorem flushesIn_instant {event : LcdEvent} (instant : event.instant = true)
    (rest : List LcdEvent) :
    lcd.flushesIn (event :: rest) = (lcd.apply event).flushesIn rest := by
  cases event with
  | step cycles => cases instant
  | write | setOam | transfer | restore | reset => rfl

/-- While the display stays on, a frame is completed if and only if the cycles that are left until then
have passed. -/
theorem flushesIn_iff (h : lcd.Placed) {events : List LcdEvent}
    (runs : ∀ event ∈ events, event.runs = true) (on : lcd.staysOn events = true) :
    lcd.flushesIn events = true ↔ lcd.untilFlush ≤ (events.map LcdEvent.cycles).sum := by
  induction events generalizing lcd with
  | nil =>
      have pos := untilFlush_pos h
      simp only [flushesIn, List.map_nil, List.sum_nil, Bool.false_eq_true, false_iff]
      omega
  | cons event rest ih =>
      obtain ⟨lit, on⟩ := Bool.and_eq_true_iff.mp on
      have later : ∀ event ∈ rest, event.runs = true :=
        fun event member => runs event (List.mem_cons_of_mem _ member)
      rw [List.map_cons, List.sum_cons]
      rcases apply_cases (runs event List.mem_cons_self) with
        ⟨cycles, rfl⟩ | ⟨instant, abreast | switched⟩
      · have placed : (lcd.step cycles).1.Placed := step_placed h.toOnLine cycles
        have rest_iff := ih placed later on
        change ((lcd.step cycles).1.flushed || (lcd.step cycles).1.flushesIn rest) = true ↔
          lcd.untilFlush ≤ cycles + _
        rcases step_lit h lit cycles with ⟨notYet, nearer⟩ | ⟨flushed, due⟩
        · rw [notYet, Bool.false_or, rest_iff]
          omega
        · rw [flushed, Bool.true_or]
          simp only [true_iff]
          omega
      · rw [flushesIn_instant instant, ih (abreast.placed h) later on, abreast.untilFlush,
          LcdEvent.cycles_of_instant instant, Nat.zero_add]
      · have off : (lcd.apply event).enabled = false := by
          rw [switched.enabled, lit]
          rfl
        exact absurd (off.symm.trans (staysOn_lit on)) Bool.false_ne_true

/-- The next frame is complete within the length of a frame exactly if the vertical blank has not begun
before its time. -/
theorem untilFlush_le_iff (h : lcd.Placed) :
    lcd.untilFlush ≤ Screen.frameCycles ↔ lcd.OnTime := by
  have clock := h.clock
  rw [Screen.frameCycles_eq]
  cases hmode : lcd.mode with
  | vblank =>
      have last := h.last
      simp only [untilFlush, modeToFlush, OnTime, hmode, Mode.duration, Screen.visibleCycles_eq,
        Screen.lineCycles, Screen.lastLine, Screen.height, true_implies] at clock last ⊢
      omega
  | oamScan | drawing | hblank =>
      simp only [untilFlush, modeToFlush, OnTime, hmode, Mode.start, Screen.lineCycles,
        Screen.height, reduceCtorEq, false_implies, iff_true]
      omega

end Flush

end Lcd

end DotMatrix
