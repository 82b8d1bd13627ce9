import DotMatrix.Proofs.Console.Failures
import DotMatrix.Proofs.Cpu.Sleep

/-!
Sleep in two fields. A processor may keep a flag that it sleeps, beside the address where it will go
on. Then every way out of sleep has to clear both: serving an interrupt, waking for a request, a reset
and a snapshot. Here such a processor is run by the operations of the console, and it comes out that
the flag is set exactly if an address is remembered, whatever the operations are.
-/

namespace DotMatrix

structure FlaggedMachine extends Machine where
  asleep : Bool

namespace FlaggedMachine

/-- The machine whose flag says whether an address is remembered. -/
def of (m : Machine) : FlaggedMachine :=
  { m with asleep := m.cpu.resumeAt.isSome }

theorem of_toMachine (m : Machine) : (of m).toMachine = m := rfl

def leaveSleep (f : FlaggedMachine) : FlaggedMachine :=
  { f with cpu := f.cpu.wake, asleep := false }

def execute (f : FlaggedMachine) (i : Instruction) (operand : Word) : FlaggedMachine where
  toMachine := f.toMachine.execute i operand
  asleep :=
    match i with
    | .halt => true
    | _ => f.asleep

def executeNext (f : FlaggedMachine) : FlaggedMachine × Option Failure :=
  let pc := f.cpu.regs.pc
  match f.toMachine.fetchInstruction with
  | (.error opcode, m) =>
    ({ m with cpu.cycles := m.cpu.cycles.drop, asleep := f.asleep },
      some (.undefinedOpcode opcode pc))
  | (.ok i, m) =>
    let (operand, m) := m.fetchImmediate i.immediate
    let cycles := i.cycles m.cpu.regs.flags
    let f := execute { m with asleep := f.asleep } i operand
    ({ f with toMachine := f.spend cycles }, none)

def commit (f : FlaggedMachine) : FlaggedMachine × Nat :=
  let (m, cycles) := f.toMachine.commit
  ({ f with toMachine := m }, cycles)

/-- One step. What the processor does depends on the flag, and the way back on the address. -/
def step (f : FlaggedMachine) : FlaggedMachine × Except Failure Nat :=
  let pending := f.bus.pending
  if pending != 0 && f.cpu.regs.ime then
    let (f, cycles) := commit { f.toMachine.serve pending with asleep := false }
    (f, .ok cycles)
  else
    let f := if pending != 0 && f.asleep then f.leaveSleep else f
    if f.asleep then
      let (f, cycles) := commit { f with toMachine := f.spend 1 }
      (f, .ok cycles)
    else
      match f.executeNext with
      | (f, some failure) => (f, .error failure)
      | (f, none) =>
        let (f, cycles) := f.commit
        (f, .ok cycles)

section Agreement

variable (m : Machine)

theorem execute_of (i : Instruction) (operand : Word) :
    (of m).execute i operand = of (m.execute i operand) := by
  by_cases halts : i = .halt
  · subst halts
    rfl
  · simp only [execute, of, m.execute_resumeAt halts operand]

theorem executeNext_of : (of m).executeNext = (of m.executeNext.1, m.executeNext.2) := by
  have kept (m' : Machine) (same : m'.cpu.resumeAt = m.cpu.resumeAt) :
      { m' with asleep := (of m).asleep } = of m' := by
    simp only [of, same]
  rcases m.fetchInstruction_cases with ⟨-, fetched⟩ | ⟨i, pc, fetched⟩
  · simp only [executeNext, Machine.executeNext, of_toMachine, fetched]
    rfl
  · simp only [executeNext, Machine.executeNext, of_toMachine, fetched]
    rw [kept _ (by rw [Machine.fetchImmediate_snd]), execute_of]
    rfl

/-- A pending request clears the flag and the address. -/
theorem leaveSleep_of :
    (if ((of m).bus.pending != 0 && (of m).asleep) = true then (of m).leaveSleep else of m) =
      of m.awake := by
  rw [of_toMachine]
  by_cases quiet : m.bus.pending = 0
  · simp only [Machine.awake_of_quiet quiet, quiet, bne_self_eq_false, Bool.false_and,
      Bool.false_eq_true, if_false]
  · rw [Machine.awake_of_pending quiet]
    cases resume : m.cpu.resumeAt with
    | none =>
        have same : { m with cpu.resumeAt := none } = m := by rw [← resume]
        simp only [of, resume, Option.isSome_none, Bool.and_false, Bool.false_eq_true, if_false, same]
    | some addr =>
        have some : (m.bus.pending != 0) = true := by simpa using quiet
        simp only [of, resume, some, Option.isSome_some, Bool.and_true, if_true]
        rfl

theorem step_of : (of m).step = (of m.step.1, m.step.2) := by
  by_cases serves : m.serves = true
  · rw [Machine.step_serves serves]
    simp only [Machine.serves] at serves
    exact if_pos serves
  · have unserved : m.serves = false := by simpa using serves
    simp only [Machine.serves] at serves
    refine (if_neg serves).trans ?_
    dsimp only
    rw [leaveSleep_of]
    by_cases asleep : m.awake.cpu.halted = true
    · rw [Machine.step_sleeps unserved asleep]
      exact if_pos asleep
    · have up : m.awake.cpu.halted = false := by simpa using asleep
      rw [Machine.step_next unserved up]
      refine (if_neg asleep).trans ?_
      rw [executeNext_of]
      rcases m.awake.executeNext with ⟨m', failure | none⟩
      · rfl
      · rfl

end Agreement

end FlaggedMachine

/-- Does the operation run the processor? -/
def Operation.runs : Operation → Bool
  | dispatch | step | frame _ => true
  | _ => false

/-- The console with such a processor. -/
structure FlaggedConsole extends Console where
  asleep : Bool

namespace FlaggedConsole

def of (c : Console) : FlaggedConsole :=
  { c with asleep := c.cpu.resumeAt.isSome }

def machine (f : FlaggedConsole) : FlaggedMachine :=
  { f.toMachine with asleep := f.asleep }

def dispatch (f : FlaggedConsole) : FlaggedConsole × Except Failure Nat :=
  match f.stuckAt with
  | some (opcode, pc) => (f, .error (.stuck opcode pc))
  | none =>
    if f.bus.slot.isNone then (f, .error .emptySlot)
    else
      match f.machine.step with
      | (m, .ok cycles) => ({ m with bus := m.bus.elapse cycles, stuckAt := none }, .ok cycles)
      | (m, .error failure) =>
        let stuckAt :=
          match failure with
          | .undefinedOpcode opcode pc => some (opcode, pc)
          | _ => none
        ({ m with stuckAt := stuckAt }, .error failure)

def runFrame (limit dark : Nat) (f : FlaggedConsole) : FlaggedConsole × Console.FrameEnd :=
  match limit with
  | 0 => (f, .unfinished)
  | limit + 1 =>
    match f.dispatch with
    | (f, .error failure) => (f, .failed failure)
    | (f, .ok cycles) =>
      if f.bus.lcd.flushed then (f, .flushed)
      else if f.bus.lcd.enabled then runFrame limit 0 f
      else if Screen.frameCycles ≤ dark + cycles then (f, .dark)
      else runFrame limit (dark + cycles) f

/-- What frees a console that is stuck clears the flag as well. -/
def perform (f : FlaggedConsole) : Operation → FlaggedConsole
  | .dispatch => f.dispatch.1
  | .frame limit => (runFrame limit 0 f).1
  | .step => { f with toMachine := f.machine.step.1.toMachine, asleep := f.machine.step.1.asleep }
  | op =>
    { (f.toConsole.perform op).1 with asleep := f.asleep && !f.toConsole.frees op }

def performAll (f : FlaggedConsole) (ops : List Operation) : FlaggedConsole :=
  ops.foldl perform f

section Agreement

variable (c : Console)

theorem dispatch_of : (of c).dispatch = (of c.dispatch.1, c.dispatch.2) := by
  have stepped : (of c).machine.step = (.of c.toMachine.step.1, c.toMachine.step.2) :=
    FlaggedMachine.step_of c.toMachine
  unfold dispatch Console.dispatch
  rw [stepped]
  cases stuck : c.stuckAt with
  | some place => simp only [of, stuck]
  | none =>
      cases empty : c.bus.slot.isNone with
      | true => simp only [of, stuck, empty, if_true]
      | false =>
          simp only [of, stuck, empty, Bool.false_eq_true, if_false]
          rcases c.toMachine.step with ⟨m, failure | cycles⟩
          · rfl
          · rfl

theorem runFrame_of (limit dark : Nat) :
    runFrame limit dark (of c) = (of (c.runFrame limit dark).1, (c.runFrame limit dark).2) := by
  induction limit generalizing c dark with
  | zero => rfl
  | succ limit ih =>
      unfold runFrame
      rw [Console.runFrame_succ]
      rw [dispatch_of]
      rcases c.dispatch with ⟨c', failure | cycles⟩
      · rfl
      · dsimp only
        have same : (of c').bus = c'.bus := rfl
        rw [same]
        split
        · rfl
        split
        · exact ih c' 0
        split
        · rfl
        · exact ih c' (dark + cycles)

/-- An operation that does not run the processor clears the address if it frees a console that is
stuck, and keeps it otherwise. -/
theorem perform_resumeAt {op : Operation} (still : op.runs = false) :
    (c.perform op).1.cpu.resumeAt.isSome = (c.cpu.resumeAt.isSome && !c.frees op) := by
  cases frees : c.frees op with
  | true =>
      rw [Bool.not_true, Bool.and_false]
      rcases Console.perform_of_frees frees with ⟨before, result⟩ | ⟨s, result⟩
      · rw [result]
        rfl
      · rw [result]
        rfl
  | false =>
      rw [Bool.not_false, Bool.and_true]
      cases op with
      | dispatch | step | frame => cases still
      | reset | insert => cases frees
      | load image =>
          cases failed : (c.perform (.load image)).2 with
          | none => simp [Console.frees, failed] at frees
          | some failure => rw [Console.load_failed failed]
      | restore s =>
          cases failed : (c.perform (.restore s)).2 with
          | none => simp [Console.frees, failed] at frees
          | some failure => rw [Console.restore_failed failed]
      | _ => rfl

theorem perform_of (op : Operation) : (of c).perform op = of (c.perform op).1 := by
  have aside (still : op.runs = false) :
      { (c.perform op).1 with asleep := (of c).asleep && !c.frees op } = of (c.perform op).1 := by
    have kept := perform_resumeAt c still
    simp only [of, kept]
  cases op with
  | dispatch =>
      rw [Console.performDispatch_fst]
      exact congrArg Prod.fst (dispatch_of c)
  | frame limit =>
      rw [Console.performFrame_fst]
      exact congrArg Prod.fst (runFrame_of c limit 0)
  | step =>
      rw [Console.performStep_fst]
      have stepped : (of c).machine.step = (.of c.toMachine.step.1, c.toMachine.step.2) :=
        FlaggedMachine.step_of c.toMachine
      simp only [perform, stepped]
      rfl
  | _ => exact aside rfl

/-- Whatever the operations are, the flag is set exactly if an address is remembered. -/
theorem performAll_of (ops : List Operation) : (of c).performAll ops = of (c.performAll ops) := by
  induction ops generalizing c with
  | nil => rfl
  | cons op rest ih =>
      change ((of c).perform op).performAll rest = _
      rw [perform_of, ih]
      rfl

end Agreement

end FlaggedConsole

end DotMatrix
