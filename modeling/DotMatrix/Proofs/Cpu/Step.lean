import DotMatrix.Proofs.Cpu.Stores

/-!
What a step of the processor comes to. There are four kinds: it serves an interrupt, it sleeps, it
executes an instruction, or it meets a byte that encodes none. The first three take between one and
six cycles and change the bus by the stores of the step; the last changes nothing but the program
counter and the sleep.
-/

namespace DotMatrix

namespace Instruction

theorem cycles_bounds (i : Instruction) (flags : Flags) :
    1 ≤ i.cycles flags ∧ i.cycles flags ≤ 6 := by
  have base : 1 ≤ i.baseCycles ∧ i.baseCycles ≤ 6 := by
    cases i <;> simp only [baseCycles] <;> grind
  have taken : 1 ≤ i.takenCycles ∧ i.takenCycles ≤ 6 := by
    cases i <;> simp only [takenCycles] <;> grind
  simp only [cycles]
  split
  · split
    · exact taken
    · exact base
  · exact base

end Instruction

namespace Machine

/-- The bus with the request taken back that the next step serves, if it serves one. -/
def answered (m : Machine) : Bus :=
  if m.serves then m.bus.acknowledge (Interrupt.first m.bus.pending) else m.bus

@[simp] theorem awake_bus (m : Machine) : m.awake.bus = m.bus := by
  simp only [awake]
  split <;> rfl

@[simp] theorem awake_regs (m : Machine) : m.awake.cpu.regs = m.cpu.regs := by
  simp only [awake]
  split <;> rfl

@[simp] theorem awake_cycles (m : Machine) : m.awake.cpu.cycles = m.cpu.cycles := by
  simp only [awake]
  split <;> rfl

section Kinds

variable {m : Machine}

theorem step_serves (h : m.serves = true) :
    m.step = ((m.serve m.bus.pending).commit.1, .ok (m.serve m.bus.pending).commit.2) := by
  simp only [serves] at h
  simp only [step, h, if_true]

theorem step_sleeps (h : m.serves = false) (asleep : m.awake.cpu.halted = true) :
    m.step = ((m.awake.spend 1).commit.1, .ok (m.awake.spend 1).commit.2) := by
  simp only [serves] at h
  simp only [awake] at asleep
  simp only [step, h, Bool.false_eq_true, if_false, asleep, if_true, awake]

/-- The step of a processor that neither serves nor sleeps. -/
theorem step_next (h : m.serves = false) (up : m.awake.cpu.halted = false) :
    m.step =
      match m.awake.executeNext with
      | (m, some failure) => (m, .error failure)
      | (m, none) => (m.commit.1, .ok m.commit.2) := by
  have unserved : ¬ (m.bus.pending != 0 && m.cpu.regs.ime) = true := by
    simp only [serves] at h
    simp [h]
  have running : ¬ m.awake.cpu.halted = true := by simp [up]
  unfold step
  exact (if_neg unserved).trans (if_neg running)

end Kinds

section Fetching

variable (m : Machine)

theorem fetchInstruction_cases :
    (Instruction.decode (m.bus.read m.cpu.regs.pc) = none ∧
      m.fetchInstruction =
        (.error (m.bus.read m.cpu.regs.pc), { m with cpu.regs.pc := m.cpu.regs.pc + 1 })) ∨
    ∃ i pc, m.fetchInstruction = (.ok i, { m with cpu.regs.pc := pc }) := by
  simp only [fetchInstruction, fetch]
  split
  · next h => exact Or.inl ⟨h, rfl⟩
  · exact Or.inr ⟨_, _, rfl⟩
  · exact Or.inr ⟨_, _, rfl⟩

end Fetching

/-- What a step of a number of cycles does to the bus and to the count of the cycles. -/
structure Advances (m : Machine) (cycles : Nat) (m' : Machine) : Prop where
  bus : m'.bus = m.answered.writeAll m.stores
  count : m'.cpu.cycles = ⟨0, m.cpu.cycles.total + cycles⟩
  least : m.cpu.cycles.pending + 1 ≤ cycles
  most : cycles ≤ m.cpu.cycles.pending + 6

/-- What a step does that meets a byte that encodes no instruction. -/
structure Refuses (m : Machine) (opcode : Byte) (m' : Machine) : Prop where
  met : opcode = m.bus.read m.cpu.regs.pc
  undefined : Instruction.decode opcode = none
  serves : m.serves = false
  up : m.awake.cpu.halted = false
  result :
    m' = { m.awake with
      cpu.regs.pc := m.cpu.regs.pc + 1, cpu.cycles := m.cpu.cycles.drop }

theorem serve_advances {m : Machine} (h : m.serves = true) :
    m.Advances (m.serve m.bus.pending).commit.2 (m.serve m.bus.pending).commit.1 := by
  have count : (m.serve m.bus.pending).cpu.cycles = m.cpu.cycles.add 5 := rfl
  refine ⟨?_, ?_, ?_, ?_⟩
  · simp only [answered, stores, h, if_true]
    rfl
  · simp only [commit, count, CycleCount.commit, CycleCount.add]
  · simp only [commit, count, CycleCount.add]
    omega
  · simp only [commit, count, CycleCount.add]
    omega

theorem sleep_advances {m : Machine} (h : m.serves = false) (asleep : m.awake.cpu.halted = true) :
    m.Advances (m.awake.spend 1).commit.2 (m.awake.spend 1).commit.1 := by
  refine ⟨?_, ?_, ?_, ?_⟩
  · simp only [answered, stores, h, asleep, if_true, Bool.false_eq_true, if_false]
    exact m.awake_bus
  · simp only [commit, spend, awake_cycles, CycleCount.commit, CycleCount.add]
  · simp [commit, spend, CycleCount.add]
  · simp [commit, spend, CycleCount.add]

theorem execute_advances {m : Machine} {i : Instruction} {pc : Word} (h : m.serves = false)
    (up : m.awake.cpu.halted = false)
    (hfetch : m.awake.fetchInstruction = (.ok i, { m.awake with cpu.regs.pc := pc })) :
    ∃ m', m.awake.executeNext = (m', none) ∧ m.Advances m'.commit.2 m'.commit.1 := by
  simp only [executeNext, hfetch]
  refine ⟨_, rfl, ?_⟩
  have bounds := i.cycles_bounds
    (({ m.awake with cpu.regs.pc := pc } : Machine).fetchImmediate i.immediate).2.cpu.regs.flags
  refine ⟨?_, ?_, ?_, ?_⟩
  · simp only [commit, spend, execute_bus, answered, stores, h, up, hfetch, Bool.false_eq_true,
      if_false, fetchImmediate_snd, awake_bus]
  · simp only [commit, spend, execute_cycles, fetchImmediate_snd, awake_cycles,
      CycleCount.commit, CycleCount.add]
  · simp only [commit, spend, execute_cycles, fetchImmediate_snd, awake_cycles,
      CycleCount.add] at bounds ⊢
    omega
  · simp only [commit, spend, execute_cycles, fetchImmediate_snd, awake_cycles,
      CycleCount.add] at bounds ⊢
    omega

theorem step_cases (m : Machine) :
    (∃ cycles m', m.step = (m', .ok cycles) ∧ m.Advances cycles m') ∨
    ∃ opcode m', m.step = (m', .error (.undefinedOpcode opcode m.cpu.regs.pc)) ∧
      m.Refuses opcode m' := by
  by_cases h : m.serves = true
  · exact Or.inl ⟨_, _, step_serves h, serve_advances h⟩
  · have h : m.serves = false := by simpa using h
    by_cases asleep : m.awake.cpu.halted = true
    · exact Or.inl ⟨_, _, step_sleeps h asleep, sleep_advances h asleep⟩
    · have up : m.awake.cpu.halted = false := by simpa using asleep
      rcases m.awake.fetchInstruction_cases with ⟨undefined, hfetch⟩ | ⟨i, pc, hfetch⟩
      · right
        rw [awake_bus, awake_regs] at undefined
        refine ⟨_, _, ?_, ⟨rfl, undefined, h, up, rfl⟩⟩
        rw [step_next h up]
        simp only [executeNext, hfetch, awake_bus, awake_regs, awake_cycles]
      · left
        obtain ⟨m', hnext, hadv⟩ := execute_advances h up hfetch
        rw [step_next h up, hnext]
        exact ⟨_, _, rfl, hadv⟩

section Executing

variable (m : Machine)

/-- The operand of the instruction at the program counter and the machine that has fetched it. -/
def fetched (i : Instruction) : Word × Machine :=
  ({ m with cpu.regs.pc := m.cpu.regs.pc + 1 } : Machine).fetchImmediate i.immediate

/-- The machine that has executed the instruction at its program counter. -/
def executed (i : Instruction) : Machine :=
  (m.fetched i).2.execute i (m.fetched i).1

/-- The cycles of the instruction at the program counter. -/
def cyclesOf (i : Instruction) : Nat :=
  i.cycles (m.fetched i).2.cpu.regs.flags

variable {m}

theorem fetchInstruction_ok {i : Instruction}
    (decodes : Instruction.decode (m.bus.read m.cpu.regs.pc) = some i) (short : i ≠ .extended) :
    m.fetchInstruction = (.ok i, { m with cpu.regs.pc := m.cpu.regs.pc + 1 }) := by
  simp only [fetchInstruction, fetch, decodes]

theorem serves_of_quiet (quiet : m.bus.pending = 0) : m.serves = false := by
  simp only [serves, quiet, bne_self_eq_false, Bool.false_and]

theorem awake_of_quiet (quiet : m.bus.pending = 0) : m.awake = m := by
  simp only [awake, quiet, bne_self_eq_false, Bool.false_eq_true, if_false]

theorem awake_of_pending (pending : m.bus.pending ≠ 0) :
    m.awake = { m with cpu.resumeAt := none } := by
  have some : (m.bus.pending != 0) = true := by simpa using pending
  simp only [awake, some, if_true, Cpu.wake]

/-- The step of a processor that is awake, or is woken, and serves no interrupt. -/
theorem step_awake {i : Instruction} (unserved : m.serves = false)
    (up : m.awake.cpu.halted = false)
    (decodes : Instruction.decode (m.bus.read m.cpu.regs.pc) = some i) (short : i ≠ .extended) :
    m.step =
      (((m.awake.executed i).spend (m.awake.cyclesOf i)).commit.1,
        .ok ((m.awake.executed i).spend (m.awake.cyclesOf i)).commit.2) := by
  have decodes : Instruction.decode (m.awake.bus.read m.awake.cpu.regs.pc) = some i := by
    rw [awake_bus, awake_regs, decodes]
  rw [step_next unserved up]
  simp only [executeNext, fetchInstruction_ok decodes short]
  rfl

theorem awake_of_up (up : m.cpu.resumeAt = none) : m.awake = m := by
  unfold awake
  split
  · rw [Cpu.wake, ← up]
  · rfl

theorem step_up {i : Instruction} (unserved : m.serves = false) (up : m.cpu.resumeAt = none)
    (decodes : Instruction.decode (m.bus.read m.cpu.regs.pc) = some i) (short : i ≠ .extended) :
    m.step =
      (((m.executed i).spend (m.cyclesOf i)).commit.1,
        .ok ((m.executed i).spend (m.cyclesOf i)).commit.2) := by
  have awake := awake_of_up up
  have running : m.awake.cpu.halted = false := by
    rw [awake, Cpu.halted, up]
    rfl
  rw [step_awake unserved running decodes short, awake]

end Executing

end Machine

end DotMatrix
