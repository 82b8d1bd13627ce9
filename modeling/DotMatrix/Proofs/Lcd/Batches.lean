import Mathlib.Algebra.GroupWithZero.Nat
import DotMatrix.Proofs.Lcd.Timeline

/-!
Steps of the LCD controller in pieces. However the cycles that pass are divided into steps, the
controller comes to the same state, both pictures included, and asks for the same interrupts. Only the
mark of a completed frame is about the last step alone, so over some steps it is there if one of them
completed a frame.
-/

namespace DotMatrix

namespace Lcd

/-- The controller with the mark of a completed frame, if it is to have it or has it already. -/
def mark (lcd : Lcd) (flushed : Bool) : Lcd :=
  { lcd with flushed := flushed || lcd.flushed }

/-- The controller with another clock of its mode. -/
def setClock (lcd : Lcd) (clock : Nat) : Lcd :=
  { lcd with modeClock := clock }

section EndMode

variable (lcd : Lcd) (clock : Nat) (flushed : Bool)

/-- Drawing does not look at the clock or at the mark. -/
theorem drawLine_resumed :
    ((lcd.setClock clock).mark flushed).drawLine = (lcd.drawLine.setClock clock).mark flushed := by
  have line : ((lcd.setClock clock).mark flushed).line = lcd.line := rfl
  have composed : ((lcd.setClock clock).mark flushed).composeLine = lcd.composeLine := rfl
  unfold drawLine
  rw [line, composed]
  split
  · simp only [setClock, mark]
  · rfl

/-- Completing a frame sets the mark, whether it was there or not. -/
theorem flush_resumed :
    ((lcd.setClock clock).mark flushed).flush = (lcd.flush.setClock clock).mark flushed := by
  simp only [flush, setClock, mark, Bool.or_true]

theorem endMode_resumed :
    ((lcd.setClock clock).mark flushed).endMode =
      ((lcd.endMode.1.setClock clock).mark flushed, lcd.endMode.2) := by
  have mode : ((lcd.setClock clock).mark flushed).mode = lcd.mode := rfl
  have line : ((lcd.setClock clock).mark flushed).line = lcd.line := rfl
  cases hmode : lcd.mode with
  | oamScan =>
      simp only [endMode, mode, hmode]
      rfl
  | drawing =>
      simp only [endMode, mode, hmode, drawLine_resumed]
      rfl
  | hblank =>
      simp only [endMode, mode, hmode, line, flush_resumed]
      split <;> rfl
  | vblank =>
      simp only [endMode, mode, hmode, line]
      split <;> rfl

end EndMode

section Run

variable (lcd : Lcd)

/-- A run counts from the time in hand and not from the clock, keeps a mark that it finds, and adds its
requests to those there are. -/
theorem run_resumed (clock : Nat) (flushed : Bool) (time : Nat) (earlier requests : Byte) :
    ((lcd.setClock clock).mark flushed).run time (earlier ||| requests) =
      ((lcd.run time requests).1.mark flushed, earlier ||| (lcd.run time requests).2) := by
  induction time using Nat.strongRecOn generalizing lcd requests with
  | ind time ih =>
      have mode : ((lcd.setClock clock).mark flushed).mode = lcd.mode := rfl
      rw [run_eq, run_eq lcd, mode]
      split
      · next enough =>
          have shorter : time - lcd.mode.duration < time := by
            have := lcd.mode.duration_pos
            omega
          rw [endMode_resumed, UInt8.or_assoc]
          exact ih _ shorter lcd.endMode.1 (requests ||| lcd.endMode.2)
      · rfl

/-- A run that stops for some time and goes on where it stopped is one run. -/
theorem run_add (first more : Nat) (requests : Byte) :
    lcd.run (first + more) requests =
      (lcd.run first requests).1.run ((lcd.run first requests).1.modeClock + more)
        (lcd.run first requests).2 := by
  induction first using Nat.strongRecOn generalizing lcd requests with
  | ind first ih =>
      by_cases enough : lcd.mode.duration ≤ first
      · have shorter : first - lcd.mode.duration < first := by
          have := lcd.mode.duration_pos
          omega
        have ends : lcd.run first requests =
            lcd.endMode.1.run (first - lcd.mode.duration) (requests ||| lcd.endMode.2) := by
          rw [run_eq, if_pos enough]
        have later : first + more - lcd.mode.duration = first - lcd.mode.duration + more := by omega
        rw [ends, ← ih _ shorter, run_eq, if_pos (by omega), later]
      · have stops : lcd.run first requests = (lcd.setClock first, requests) := by
          rw [run_eq, if_neg enough]
          rfl
        have along := lcd.run_resumed first false (first + more) 0 requests
        rw [UInt8.zero_or, UInt8.zero_or] at along
        rw [stops]
        exact along.symm

end Run

section Step

variable (lcd : Lcd) (first more : Nat)

/-- With the display on, the controller goes on from where a step has left it as if the step had not
ended there. -/
theorem step_add_lit (lit : lcd.enabled = true) :
    lcd.step (first + more) =
      (((lcd.step first).1.step more).1.mark (lcd.step first).1.flushed,
        (lcd.step first).2 ||| ((lcd.step first).1.step more).2) := by
  have still : (lcd.step first).1.enabled = true := (lcd.step_enabled first).trans lit
  have stops := step_of_lit lit first
  generalize lcd.step first = stop at still stops ⊢
  have along := run_resumed { stop.1 with flushed := false } stop.1.modeClock stop.1.flushed
    (stop.1.modeClock + more) stop.2 0
  have same : (setClock { stop.1 with flushed := false } stop.1.modeClock).mark stop.1.flushed =
      stop.1 := by
    simp only [setClock, mark, Bool.or_false]
  rw [same, UInt8.or_zero] at along
  rw [step_of_lit lit, ← Nat.add_assoc, run_add, ← stops, step_of_lit still]
  exact along

/-- With the display off, the controller waits at the same place however long it is. -/
theorem step_add_dark (dark : lcd.enabled = false) :
    lcd.step (first + more) =
      (((lcd.step first).1.step more).1.mark (lcd.step first).1.flushed,
        (lcd.step first).2 ||| ((lcd.step first).1.step more).2) := by
  have still : (lcd.step first).1.enabled = false := (lcd.step_enabled first).trans dark
  rw [step_of_dark still, step_of_dark dark, step_of_dark dark]
  simp only [restart, mark, Bool.or_false, UInt8.or_self]

theorem step_add :
    lcd.step (first + more) =
      (((lcd.step first).1.step more).1.mark (lcd.step first).1.flushed,
        (lcd.step first).2 ||| ((lcd.step first).1.step more).2) := by
  cases h : lcd.enabled with
  | true => exact lcd.step_add_lit first more h
  | false => exact lcd.step_add_dark first more h

end Step

/-- The controller after some steps. -/
def stepAll (lcd : Lcd) (steps : List Nat) : Lcd :=
  steps.foldl (fun lcd cycles => (lcd.step cycles).1) lcd

/-- Does one of some steps complete a frame? -/
def flushedBy (lcd : Lcd) : List Nat → Bool
  | [] => false
  | cycles :: rest => (lcd.step cycles).1.flushed || (lcd.step cycles).1.flushedBy rest

/-- The interrupts that some steps ask for. -/
def requestedBy (lcd : Lcd) : List Nat → Byte
  | [] => 0
  | cycles :: rest => (lcd.step cycles).2 ||| (lcd.step cycles).1.requestedBy rest

/-- A step comes to any steps that take as many cycles. -/
theorem step_eq_stepAll (lcd : Lcd) (first : Nat) (rest : List Nat) :
    lcd.step (first + rest.sum) =
      ({ lcd.stepAll (first :: rest) with flushed := lcd.flushedBy (first :: rest) },
        lcd.requestedBy (first :: rest)) := by
  induction rest generalizing lcd first with
  | nil =>
      simp only [stepAll, flushedBy, requestedBy, List.sum_nil, List.foldl_cons, List.foldl_nil,
        Bool.or_false, UInt8.or_zero]
      rfl
  | cons next rest ih =>
      have later := ih (lcd.step first).1 next
      rw [List.sum_cons, step_add, later]
      rfl

/-- Stepping in batches is stepping in pieces. In every state of the controller a step of a sum of cycles
comes to a step of each summand, the marks of a completed frame and the requests taken together; so a
number of cycles leads to the same state and the same requests however it is divided into steps. -/
theorem steps_batch (lcd : Lcd) :
    (∀ first more,
      lcd.step (first + more) =
        ({ ((lcd.step first).1.step more).1 with
            flushed := (lcd.step first).1.flushed || ((lcd.step first).1.step more).1.flushed },
          (lcd.step first).2 ||| ((lcd.step first).1.step more).2)) ∧
    (∀ first rest,
      lcd.step (first + rest.sum) =
        ({ lcd.stepAll (first :: rest) with flushed := lcd.flushedBy (first :: rest) },
          lcd.requestedBy (first :: rest))) ∧
    ∀ first rest first' rest', first + rest.sum = first' + rest'.sum →
      ({ lcd.stepAll (first :: rest) with flushed := false } =
          { lcd.stepAll (first' :: rest') with flushed := false }) ∧
        lcd.flushedBy (first :: rest) = lcd.flushedBy (first' :: rest') ∧
        lcd.requestedBy (first :: rest) = lcd.requestedBy (first' :: rest') := by
  refine ⟨lcd.step_add, lcd.step_eq_stepAll, ?_⟩
  intro first rest first' rest' same
  have whole := lcd.step_eq_stepAll first rest
  have whole' := lcd.step_eq_stepAll first' rest'
  rw [same, whole'] at whole
  obtain ⟨states, requests⟩ := Prod.mk.inj whole
  refine ⟨?_, ?_, requests.symm⟩
  · exact congrArg (fun lcd : Lcd => { lcd with flushed := false }) states.symm
  · exact congrArg (fun lcd : Lcd => lcd.flushed) states.symm

/-- The controller in the last pause of the screen. -/
def lastPause : Lcd :=
  { initial with control := 0x80, line := 143, mode := .hblank }

/-- The frame is completed in the second of three steps, and in the middle of the one step. -/
theorem steps_batch_lastPause :
    30 + [30, 200].sum = 260 + [].sum ∧
      lastPause.flushedBy [30, 30, 200] = true ∧ lastPause.flushedBy [260] = true ∧
      lastPause.requestedBy [30, 30, 200] = lastPause.requestedBy [260] ∧
      lastPause.requestedBy [260] = Interrupt.vblank.mask := by
  have flushed : lastPause.flushedBy [260] = true := by decide +kernel
  have requested : lastPause.requestedBy [260] = Interrupt.vblank.mask := by decide +kernel
  obtain ⟨-, -, same⟩ := steps_batch lastPause
  obtain ⟨-, marks, requests⟩ := same 30 [30, 200] 260 [] rfl
  exact ⟨rfl, marks.trans flushed, flushed, requests, requested⟩

end Lcd

end DotMatrix
