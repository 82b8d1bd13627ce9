import Mathlib.Tactic.SplitIfs
import DotMatrix.Proofs.Console.Reset

/-!
The console at another wall time. The processor sees the bus through its reads and its requests, and
neither shows the wall time or the time at which a clock chip was last brought up to date. So a step
does the same at any wall time, as long as its stores do.
-/

namespace DotMatrix

theorem Slot.syncedAt_read (slot : Slot) (synced : UInt64) (addr : Word) :
    (slot.syncedAt synced).read addr = slot.read addr := by
  unfold read syncedAt
  cases slot.clock with
  | none => rfl
  | some chip => rfl

namespace Bus

/-- The bus at another wall time, with the clock chip in the slot brought up to date at a time. -/
def retimed (bus : Bus) (now synced : UInt64) : Bus :=
  { bus with now := now, slot := bus.slot.map (·.syncedAt synced) }

section Retimed

variable (bus : Bus) (now synced : UInt64)

@[simp] theorem retimed_pending : (bus.retimed now synced).pending = bus.pending := rfl

@[simp] theorem retimed_read (addr : Word) :
    (bus.retimed now synced).read addr = bus.read addr := by
  have slot : (bus.retimed now synced).slot = bus.slot.map (·.syncedAt synced) := rfl
  unfold read
  cases BusRegion.ofAddress addr with
  | romLow | romHigh | externalRam =>
      dsimp only
      rw [slot]
      cases bus.slot with
      | none => rfl
      | some slot => exact slot.syncedAt_read synced addr
  | _ => rfl

@[simp] theorem retimed_readWord (addr : Word) :
    (bus.retimed now synced).readWord addr = bus.readWord addr := by
  simp only [readWord, retimed_read]

end Retimed

/-- Stores to which the wall time makes no difference. -/
def Blind (bus : Bus) (stores : List Store) : Prop :=
  ∀ now synced,
    (bus.retimed now synced).writeAll stores = (bus.writeAll stores).retimed now synced

theorem elapse_retimed (bus : Bus) (now synced : UInt64) (cycles : Nat) :
    (bus.retimed now synced).elapse cycles = (bus.elapse cycles).retimed now synced := by
  simp only [elapse, requestIf]
  change (if (bus.timer.step cycles).2 then _ else _) = _
  split <;> rfl

end Bus

namespace Machine

/-- The machine with its bus at another wall time. -/
def retimed (m : Machine) (now synced : UInt64) : Machine :=
  { m with bus := m.bus.retimed now synced }

section Sight

variable (m : Machine) (now synced : UInt64)

@[simp] theorem retimed_cpu : (m.retimed now synced).cpu = m.cpu := rfl

@[simp] theorem retimed_bus : (m.retimed now synced).bus = m.bus.retimed now synced := rfl

theorem awake_retimed : (m.retimed now synced).awake = m.awake.retimed now synced := by
  by_cases woken : (m.bus.pending != 0) = true
  · simp only [awake, retimed_bus, Bus.retimed_pending, woken, if_true]
    rfl
  · simp only [awake, retimed_bus, Bus.retimed_pending, woken,
      Bool.false_eq_true, if_false]

theorem serves_retimed : (m.retimed now synced).serves = m.serves := rfl

theorem answered_retimed : (m.retimed now synced).answered = m.answered.retimed now synced := by
  by_cases serves : m.serves = true
  · simp only [answered, serves_retimed, retimed_bus, Bus.retimed_pending, serves, if_true]
    rfl
  · simp only [answered, serves_retimed, retimed_bus, serves, Bool.false_eq_true, if_false]

theorem fetch_retimed :
    (m.retimed now synced).fetch = (m.fetch.1, m.fetch.2.retimed now synced) := by
  simp only [fetch, retimed_bus, Bus.retimed_read, retimed_cpu]
  rfl

theorem fetchWord_retimed :
    (m.retimed now synced).fetchWord = (m.fetchWord.1, m.fetchWord.2.retimed now synced) := by
  simp only [fetchWord, fetch_retimed]

theorem fetchImmediate_retimed (form : Immediate) :
    (m.retimed now synced).fetchImmediate form =
      ((m.fetchImmediate form).1, (m.fetchImmediate form).2.retimed now synced) := by
  unfold fetchImmediate
  split
  · rfl
  · simp only [fetch_retimed]
  · exact m.fetchWord_retimed now synced

theorem fetchInstruction_retimed :
    (m.retimed now synced).fetchInstruction =
      (m.fetchInstruction.1, m.fetchInstruction.2.retimed now synced) := by
  simp only [fetchInstruction, fetch_retimed]
  split <;> rfl

theorem readPlace_retimed (place : Place) :
    (m.retimed now synced).readPlace place = m.readPlace place := by
  cases place with
  | atHl => exact m.bus.retimed_read now synced m.cpu.regs.hl
  | _ => rfl

theorem instructionStores_retimed (i : Instruction) (operand : Word) :
    (m.retimed now synced).instructionStores i operand = m.instructionStores i operand := by
  simp only [instructionStores, readPlace_retimed, retimed_cpu]
  rfl

theorem stores_retimed : (m.retimed now synced).stores = m.stores := by
  have fetched := m.awake.fetchInstruction_retimed now synced
  simp only [stores, serves_retimed, awake_retimed, fetched, retimed_cpu]
  split_ifs
  · rfl
  · rfl
  · rcases m.awake.fetchInstruction with ⟨opcode | i, m'⟩
    · rfl
    · simp only [fetchImmediate_retimed, instructionStores_retimed]

theorem writePlace_retimed_cpu (place : Place) (value : Byte) :
    ((m.retimed now synced).writePlace place value).cpu = (m.writePlace place value).cpu := by
  cases place <;> rfl

theorem setPlace_retimed_cpu (place : Place) (result : Byte × Flags) :
    ((m.retimed now synced).setPlace place result).cpu = (m.setPlace place result).cpu := by
  cases place <;> rfl

theorem push_cpu (value : Word) :
    (m.push value).cpu = { m.cpu with regs.sp := m.cpu.regs.sp - 2 } := rfl

theorem callTo_cpu (target : Word) :
    (m.callTo target).cpu = { m.cpu with regs.sp := m.cpu.regs.sp - 2, regs.pc := target } := by
  simp only [callTo, jumpTo, push_cpu]

/-- What an instruction makes of the processor depends on the wall time in no way. -/
theorem execute_retimed_cpu (i : Instruction) (operand : Word) :
    ((m.retimed now synced).execute i operand).cpu = (m.execute i operand).cpu := by
  cases i with
  | load dst src =>
      simp only [execute, readPlace_retimed]
      exact m.writePlace_retimed_cpu now synced dst _
  | loadImmediate dst => exact m.writePlace_retimed_cpu now synced dst _
  | inc place | dec place | shift op place =>
      simp only [execute, readPlace_retimed]
      exact m.setPlace_retimed_cpu now synced place _
  | resetBit n place | setBit n place =>
      simp only [execute, readPlace_retimed]
      exact m.writePlace_retimed_cpu now synced place _
  | jumpRelative cond | jump cond | call cond =>
      by_cases holds : cond.holds m.cpu.regs.flags = true
      · simp only [execute, retimed_cpu, jumpTo, callTo_cpu, holds, if_true]
      · simp only [execute, retimed_cpu, holds, Bool.false_eq_true, if_false]
  | ret cond =>
      by_cases holds : cond.holds m.cpu.regs.flags = true
      · simp only [execute, returnBack, pop, jumpTo, retimed_bus, Bus.retimed_readWord,
          retimed_cpu, holds, if_true]
      · simp only [execute, retimed_cpu, holds, Bool.false_eq_true, if_false]
  | _ =>
      simp only [execute, returnBack, pop, jumpTo, setA, setRegs, store, push_cpu, callTo_cpu,
        readPlace_retimed, retimed_bus, Bus.retimed_read, Bus.retimed_readWord, retimed_cpu]

end Sight

section Step

variable {m : Machine}

theorem serve_cpu (m : Machine) (pending : Byte) :
    (m.serve pending).cpu =
      { m.cpu.wake with
        regs := { m.cpu.regs with
          ime := false
          sp := m.cpu.regs.sp - 2
          pc := (Interrupt.first pending).vector }
        cycles := m.cpu.cycles.add 5 } := by
  simp only [serve, jumpTo, spend, push_cpu, Cpu.wake]

/-- A step makes the same of the processor at any wall time, and answers the same. -/
theorem step_retimed_cpu (m : Machine) (now synced : UInt64) :
    (m.retimed now synced).step.1.cpu = m.step.1.cpu ∧
      (m.retimed now synced).step.2 = m.step.2 := by
  have serves := m.serves_retimed now synced
  have awake := m.awake_retimed now synced
  by_cases h : m.serves = true
  · rw [step_serves h, step_serves (serves.trans h)]
    simp only [commit, serve_cpu, retimed_bus, Bus.retimed_pending, retimed_cpu, and_self]
  · have h : m.serves = false := by simpa using h
    by_cases asleep : m.awake.cpu.halted = true
    · rw [step_sleeps h asleep, step_sleeps (serves.trans h) (by rw [awake]; exact asleep), awake]
      exact ⟨rfl, rfl⟩
    · have up : m.awake.cpu.halted = false := by simpa using asleep
      rw [step_next h up, step_next (serves.trans h) (by rw [awake]; exact up), awake]
      simp only [executeNext, fetchInstruction_retimed]
      rcases m.awake.fetchInstruction with ⟨opcode | i, m'⟩
      · exact ⟨rfl, rfl⟩
      · simp only [fetchImmediate_retimed, commit, spend, execute_retimed_cpu, retimed_cpu]
        exact ⟨trivial, trivial⟩

/-- A step whose stores do the same at any wall time does the same itself. -/
theorem step_retimed (blind : m.answered.Blind m.stores) (now synced : UInt64) :
    (m.retimed now synced).step = (m.step.1.retimed now synced, m.step.2) := by
  obtain ⟨cpu, answer⟩ := m.step_retimed_cpu now synced
  have bus : (m.retimed now synced).step.1.bus = m.step.1.bus.retimed now synced := by
    rcases m.step_cases with ⟨cycles, m', hstep, advances⟩ | ⟨opcode, m', hstep, refuses⟩
    · rcases (m.retimed now synced).step_cases with ⟨_, _, hstep', advances'⟩ | ⟨_, _, hstep', -⟩
      · rw [hstep, hstep', advances.bus, advances'.bus, answered_retimed, stores_retimed]
        exact blind now synced
      · rw [hstep, hstep'] at answer
        cases answer
    · rcases (m.retimed now synced).step_cases with ⟨_, _, hstep', -⟩ | ⟨_, _, hstep', refuses'⟩
      · rw [hstep, hstep'] at answer
        cases answer
      · rw [hstep, hstep', refuses.result, refuses'.result]
        change (m.retimed now synced).awake.bus = m.awake.bus.retimed now synced
        rw [awake_bus, awake_bus]
        rfl
  refine Prod.ext ?_ answer
  exact congrArg₂ Machine.mk cpu bus

end Step

end Machine

namespace Console

/-- The console with its bus at another wall time. -/
def retimed (c : Console) (now synced : UInt64) : Console :=
  { c with bus := c.bus.retimed now synced }

variable {c : Console}

theorem stores_retimed (c : Console) (now synced : UInt64) :
    (c.retimed now synced).stores = c.stores := by
  have same := c.toMachine.stores_retimed now synced
  have empty : (c.retimed now synced).bus.slot.isNone = c.bus.slot.isNone := Option.isNone_map
  simp only [stores, empty]
  exact congrArg (fun stores => if c.stuckAt.isSome || c.bus.slot.isNone then [] else stores) same

/-- A dispatch whose stores do the same at any wall time does the same itself. -/
theorem dispatch_retimed (blind : c.answered.Blind c.stores) (now synced : UInt64) :
    (c.retimed now synced).dispatch = (c.dispatch.1.retimed now synced, c.dispatch.2) := by
  have stuck : (c.retimed now synced).stuckAt = c.stuckAt := rfl
  have empty : (c.retimed now synced).bus.slot.isNone = c.bus.slot.isNone := Option.isNone_map
  have machine : (c.retimed now synced).toMachine = c.toMachine.retimed now synced := rfl
  unfold dispatch
  rw [stuck, empty, machine]
  cases hstuck : c.stuckAt with
  | some place => rfl
  | none =>
      dsimp only
      by_cases hslot : c.bus.slot.isNone = true
      · rw [if_pos hslot, if_pos hslot]
      · have here : c.stores = c.toMachine.stores := by
          simp only [stores, hstuck, hslot, Option.isSome_none, Bool.or_self, Bool.false_eq_true,
            if_false]
        rw [if_neg hslot, if_neg hslot, Machine.step_retimed (here ▸ blind)]
        rcases c.toMachine.step with ⟨m, failure | cycles⟩
        · rfl
        · simp only [Machine.retimed_bus, Bus.elapse_retimed]
          rfl

theorem snapshot_retimed (c : Console) (now synced : UInt64) :
    (c.retimed now synced).snapshot = c.snapshot := by
  simp only [snapshot, retimed, Bus.retimed]
  cases c.bus.slot <;> rfl

/-- What a dispatch answers and makes of the processor depends on the wall time in no way, even where
what its stores do depends on it. -/
theorem dispatch_retimed_cpu (c : Console) (now synced : UInt64) :
    (c.retimed now synced).dispatch.2 = c.dispatch.2 ∧
      (c.retimed now synced).dispatch.1.cpu = c.dispatch.1.cpu := by
  have stuck : (c.retimed now synced).stuckAt = c.stuckAt := rfl
  have empty : (c.retimed now synced).bus.slot.isNone = c.bus.slot.isNone := Option.isNone_map
  obtain ⟨cpu, answer⟩ := c.toMachine.step_retimed_cpu now synced
  have machine : (c.retimed now synced).toMachine = c.toMachine.retimed now synced := rfl
  unfold dispatch
  rw [stuck, empty, machine]
  cases c.stuckAt with
  | some place => exact ⟨rfl, rfl⟩
  | none =>
      by_cases hslot : c.bus.slot.isNone = true
      · simp only [hslot, if_true]
        exact ⟨trivial, rfl⟩
      · simp only [hslot, Bool.false_eq_true, if_false]
        rcases hstep : c.toMachine.step with ⟨m, result⟩
        rcases hstep' : (c.toMachine.retimed now synced).step with ⟨m', result'⟩
        rw [hstep, hstep'] at cpu answer
        obtain rfl : result' = result := answer
        cases result' with
        | error failure => exact ⟨rfl, cpu⟩
        | ok cycles => exact ⟨rfl, cpu⟩

end Console

end DotMatrix
