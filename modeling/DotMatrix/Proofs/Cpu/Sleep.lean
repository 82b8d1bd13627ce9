import DotMatrix.Proofs.Cpu.Step

/-!
Sleep. An instruction puts the processor to sleep and lets it remember where to go on; it then stays
where it is until a request wakes it. So the place a sleeping processor remembers is the one its
program counter is at, and that place is behind the instruction that put it to sleep.
-/

namespace DotMatrix

theorem Instruction.decodeExtended_ne_halt (opcode : Byte) : decodeExtended opcode ≠ .halt := by
  unfold decodeExtended
  dsimp only
  split <;> intro same <;> cases same

namespace Machine

section Execute

variable (m : Machine)

@[simp] theorem writePlace_resumeAt (place : Place) (value : Byte) :
    (m.writePlace place value).cpu.resumeAt = m.cpu.resumeAt := by
  cases place <;> rfl

@[simp] theorem setPlace_resumeAt (place : Place) (result : Byte × Flags) :
    (m.setPlace place result).cpu.resumeAt = m.cpu.resumeAt :=
  m.writePlace_resumeAt place result.1

/-- Only one instruction puts the processor to sleep. -/
theorem execute_resumeAt {i : Instruction} (other : i ≠ .halt) (operand : Word) :
    (m.execute i operand).cpu.resumeAt = m.cpu.resumeAt := by
  cases i with
  | halt => exact absurd rfl other
  | load dst src => exact m.writePlace_resumeAt dst _
  | loadImmediate dst => exact m.writePlace_resumeAt dst _
  | inc place => exact m.setPlace_resumeAt place _
  | dec place => exact m.setPlace_resumeAt place _
  | shift op place => exact m.setPlace_resumeAt place _
  | resetBit n place => exact m.writePlace_resumeAt place _
  | setBit n place => exact m.writePlace_resumeAt place _
  | jumpRelative cond =>
      simp only [execute]
      split <;> rfl
  | jump cond =>
      simp only [execute]
      split <;> rfl
  | call cond =>
      simp only [execute]
      split <;> rfl
  | ret cond =>
      simp only [execute]
      split <;> rfl
  | _ => rfl

/-- No byte after the prefix encodes the instruction that puts the processor to sleep. -/
theorem decode_of_fetchInstruction_halt {m' : Machine}
    (fetched : m.fetchInstruction = (.ok .halt, m')) :
    Instruction.decode (m.bus.read m.cpu.regs.pc) = some .halt := by
  simp only [fetchInstruction, fetch] at fetched
  split at fetched
  · cases fetched
  · exact absurd (Except.ok.inj (congrArg Prod.fst fetched)) (Instruction.decodeExtended_ne_halt _)
  · next i _ decodes =>
      have same : i = .halt := Except.ok.inj (congrArg Prod.fst fetched)
      rw [decodes, same]

end Execute

/-- Does the next step put the processor to sleep? -/
structure Halts (m : Machine) : Prop where
  unserved : m.serves = false
  up : m.awake.cpu.halted = false
  decodes : Instruction.decode (m.bus.read m.cpu.regs.pc) = some .halt

section Steps

variable {m : Machine}

/-- Who sleeps on has found no request, and so was asleep before. -/
theorem quiet_of_awake_halted (asleep : m.awake.cpu.halted = true) :
    m.bus.pending = 0 ∧ m.cpu.halted = true := by
  by_cases quiet : m.bus.pending = 0
  · rw [awake_of_quiet quiet] at asleep
    exact ⟨quiet, asleep⟩
  · rw [awake_of_pending quiet] at asleep
    cases asleep

theorem awake_up (up : m.awake.cpu.halted = false) : m.awake.cpu.resumeAt = none := by
  simpa only [Cpu.halted, Option.isSome_eq_false_iff, Option.isNone_iff_eq_none] using up

/-- The step that puts the processor to sleep. -/
theorem step_halts (h : m.Halts) :
    m.step =
      ({ m with
          cpu.regs.pc := m.cpu.regs.pc + 1
          cpu.cycles := ⟨0, m.cpu.cycles.total + (m.cpu.cycles.pending + 1)⟩
          cpu.resumeAt := some (m.cpu.regs.pc + 1) },
        .ok (m.cpu.cycles.pending + 1)) := by
  rw [step_awake h.unserved h.up h.decodes (by decide)]
  simp only [executed, cyclesOf, fetched, fetchImmediate, Instruction.immediate, Immediate.length,
    execute, spend, commit, CycleCount.add, CycleCount.commit, Instruction.cycles,
    Instruction.branch?, Instruction.baseCycles, awake_bus, awake_regs, awake_cycles]

/-- The step of a processor that sleeps on. -/
theorem step_asleep (asleep : m.cpu.halted = true) (quiet : m.bus.pending = 0) :
    m.step =
      ({ m with cpu.cycles := ⟨0, m.cpu.cycles.total + (m.cpu.cycles.pending + 1)⟩ },
        .ok (m.cpu.cycles.pending + 1)) := by
  have same := awake_of_quiet quiet
  have still : m.awake.cpu.halted = true := by rw [same, asleep]
  rw [step_sleeps (serves_of_quiet quiet) still, same]
  rfl

/-- The machine that serves the first of its pending interrupts. The way back goes on the stack: where
the processor would have gone on, or where it is. -/
def interrupted (m : Machine) : Machine where
  cpu :=
    { regs :=
        { m.cpu.regs with
          sp := m.cpu.regs.sp - 2
          pc := (Interrupt.first m.bus.pending).vector
          ime := false }
      cycles := ⟨0, m.cpu.cycles.total + (m.cpu.cycles.pending + 5)⟩
      resumeAt := none }
  bus :=
    (m.bus.acknowledge (Interrupt.first m.bus.pending)).writeAll
      (m.stackStores (m.cpu.resumeAt.getD m.cpu.regs.pc))

theorem step_interrupted (serves : m.serves = true) :
    m.step = (m.interrupted, .ok (m.cpu.cycles.pending + 5)) :=
  step_serves serves

/-- After a step the processor is awake, unless it sleeps on or has just been put to sleep. -/
theorem step_resumeAt (m : Machine) :
    m.step.1.cpu.resumeAt = none ∨ (m.cpu.halted = true ∧ m.bus.pending = 0) ∨ m.Halts := by
  by_cases serves : m.serves = true
  · left
    rw [step_serves serves]
    rfl
  · have unserved : m.serves = false := by simpa using serves
    by_cases asleep : m.awake.cpu.halted = true
    · obtain ⟨quiet, before⟩ := quiet_of_awake_halted asleep
      exact Or.inr (Or.inl ⟨before, quiet⟩)
    · have up : m.awake.cpu.halted = false := by simpa using asleep
      rw [step_next unserved up]
      rcases m.awake.fetchInstruction_cases with ⟨-, fetched⟩ | ⟨i, pc, fetched⟩
      · left
        simp only [executeNext, fetched]
        exact awake_up up
      · by_cases halts : i = .halt
        · subst halts
          have decodes := decode_of_fetchInstruction_halt _ fetched
          rw [awake_bus, awake_regs] at decodes
          exact Or.inr (Or.inr ⟨unserved, up, decodes⟩)
        · left
          simp only [executeNext, fetched]
          refine (execute_resumeAt _ halts _).trans ?_
          rw [fetchImmediate_snd]
          exact awake_up up

end Steps

/-- The machines that steps lead to from a processor that is awake. Between two steps anything may
happen on the bus. -/
inductive Stepped : Machine → Prop where
  | start {m : Machine} (up : m.cpu.resumeAt = none) (settled : m.cpu.cycles.pending = 0) : Stepped m
  | step {m : Machine} (before : Stepped m) : Stepped m.step.1
  | between {m : Machine} (before : Stepped m) (bus : Bus) : Stepped { m with bus := bus }

/-- The processor has slept since the instruction at an address put it to sleep. -/
inductive SleepsSince (addr : Word) : Machine → Prop where
  | halt {m : Machine} (here : m.cpu.regs.pc = addr) (halts : m.Halts) : SleepsSince addr m.step.1
  | idle {m : Machine} (before : SleepsSince addr m) (quiet : m.bus.pending = 0) :
      SleepsSince addr m.step.1
  | between {m : Machine} (before : SleepsSince addr m) (bus : Bus) :
      SleepsSince addr { m with bus := bus }

/-- A processor that sleeps remembers the address it is at, which is behind the instruction that put
it to sleep. -/
theorem SleepsSince.resumeAt {m : Machine} {addr : Word} (asleep : m.SleepsSince addr) :
    m.cpu.resumeAt = some (addr + 1) ∧ m.cpu.regs.pc = addr + 1 := by
  induction asleep with
  | halt here halts =>
      rw [step_halts halts, here]
      exact ⟨rfl, rfl⟩
  | idle before quiet ih =>
      have halted : Cpu.halted _ = true := congrArg Option.isSome ih.1
      rw [step_asleep halted quiet]
      exact ih
  | between before bus ih => exact ih

namespace Stepped

variable {m : Machine}

theorem settled (h : m.Stepped) : m.cpu.cycles.pending = 0 := by
  induction h with
  | start up settled => exact settled
  | @step m before ih =>
      rcases m.step_cases with ⟨cycles, m', stepped, advances⟩ | ⟨opcode, m', stepped, refuses⟩
      · rw [stepped, advances.count]
      · rw [stepped, refuses.result]
        rfl
  | between before bus ih => exact ih

/-- A processor that sleeps has been put to sleep by an instruction. -/
theorem sleepsSince (h : m.Stepped) (asleep : m.cpu.halted = true) :
    ∃ addr, m.SleepsSince addr := by
  induction h with
  | start up settled =>
      rw [Cpu.halted, up] at asleep
      cases asleep
  | @step m before ih =>
      rcases m.step_resumeAt with up | ⟨halted, quiet⟩ | halts
      · rw [Cpu.halted, up] at asleep
        cases asleep
      · obtain ⟨addr, since⟩ := ih halted
        exact ⟨addr, .idle since quiet⟩
      · exact ⟨m.cpu.regs.pc, .halt rfl halts⟩
  | between before bus ih =>
      obtain ⟨addr, since⟩ := ih asleep
      exact ⟨addr, .between since bus⟩

/-- Where a processor goes on is where it is, asleep or not. -/
theorem goesOn (h : m.Stepped) : m.cpu.resumeAt.getD m.cpu.regs.pc = m.cpu.regs.pc := by
  cases resume : m.cpu.resumeAt with
  | none => rfl
  | some addr =>
      have asleep : m.cpu.halted = true := congrArg Option.isSome resume
      obtain ⟨addr', since⟩ := h.sleepsSince asleep
      obtain ⟨remembered, here⟩ := since.resumeAt
      rw [resume] at remembered
      rw [here]
      exact Option.some.inj remembered

end Stepped

end Machine

end DotMatrix
