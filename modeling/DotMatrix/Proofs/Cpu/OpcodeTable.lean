import DotMatrix.Proofs.Cpu.Step

/-!
The bytes and the cycles of a step. The opcode tables give every instruction the length of its operand
and its cost. An instruction that is executed takes the program counter behind its operand, unless it
goes on elsewhere, and takes the cycles that the tables give it; and every step commits the cycles that
it reports and leaves none behind.
-/

namespace DotMatrix

/-- The bytes of the operand that follows an opcode of the first page. -/
def operandLengths : List Nat :=
  [0, 2, 0, 0, 0, 0, 1, 0, 2, 0, 0, 0, 0, 0, 1, 0,
   1, 2, 0, 0, 0, 0, 1, 0, 1, 0, 0, 0, 0, 0, 1, 0,
   1, 2, 0, 0, 0, 0, 1, 0, 1, 0, 0, 0, 0, 0, 1, 0,
   1, 2, 0, 0, 0, 0, 1, 0, 1, 0, 0, 0, 0, 0, 1, 0,
   0, 0, 0, 0, 0, 0, 0, 0, 0, 0, 0, 0, 0, 0, 0, 0,
   0, 0, 0, 0, 0, 0, 0, 0, 0, 0, 0, 0, 0, 0, 0, 0,
   0, 0, 0, 0, 0, 0, 0, 0, 0, 0, 0, 0, 0, 0, 0, 0,
   0, 0, 0, 0, 0, 0, 0, 0, 0, 0, 0, 0, 0, 0, 0, 0,
   0, 0, 0, 0, 0, 0, 0, 0, 0, 0, 0, 0, 0, 0, 0, 0,
   0, 0, 0, 0, 0, 0, 0, 0, 0, 0, 0, 0, 0, 0, 0, 0,
   0, 0, 0, 0, 0, 0, 0, 0, 0, 0, 0, 0, 0, 0, 0, 0,
   0, 0, 0, 0, 0, 0, 0, 0, 0, 0, 0, 0, 0, 0, 0, 0,
   0, 0, 2, 2, 2, 0, 1, 0, 0, 0, 2, 0, 2, 2, 1, 0,
   0, 0, 2, 0, 2, 0, 1, 0, 0, 0, 2, 0, 2, 0, 1, 0,
   1, 0, 0, 0, 0, 0, 1, 0, 1, 0, 2, 0, 0, 0, 1, 0,
   1, 0, 0, 0, 0, 0, 1, 0, 1, 0, 2, 0, 0, 0, 1, 0]

/-- The cycles of an opcode of the first page where no condition holds. There is no cost where there is
no instruction. -/
def baseCosts : List Nat :=
  [1, 3, 2, 2, 1, 1, 2, 1, 5, 2, 2, 2, 1, 1, 2, 1,
   1, 3, 2, 2, 1, 1, 2, 1, 3, 2, 2, 2, 1, 1, 2, 1,
   2, 3, 2, 2, 1, 1, 2, 1, 2, 2, 2, 2, 1, 1, 2, 1,
   2, 3, 2, 2, 3, 3, 3, 1, 2, 2, 2, 2, 1, 1, 2, 1,
   1, 1, 1, 1, 1, 1, 2, 1, 1, 1, 1, 1, 1, 1, 2, 1,
   1, 1, 1, 1, 1, 1, 2, 1, 1, 1, 1, 1, 1, 1, 2, 1,
   1, 1, 1, 1, 1, 1, 2, 1, 1, 1, 1, 1, 1, 1, 2, 1,
   2, 2, 2, 2, 2, 2, 1, 2, 1, 1, 1, 1, 1, 1, 2, 1,
   1, 1, 1, 1, 1, 1, 2, 1, 1, 1, 1, 1, 1, 1, 2, 1,
   1, 1, 1, 1, 1, 1, 2, 1, 1, 1, 1, 1, 1, 1, 2, 1,
   1, 1, 1, 1, 1, 1, 2, 1, 1, 1, 1, 1, 1, 1, 2, 1,
   1, 1, 1, 1, 1, 1, 2, 1, 1, 1, 1, 1, 1, 1, 2, 1,
   2, 3, 3, 4, 3, 4, 2, 4, 2, 4, 3, 1, 3, 6, 2, 4,
   2, 3, 3, 0, 3, 4, 2, 4, 2, 4, 3, 0, 3, 0, 2, 4,
   3, 3, 2, 0, 0, 4, 2, 4, 4, 1, 4, 0, 0, 0, 2, 4,
   3, 3, 2, 1, 0, 4, 2, 4, 3, 2, 4, 1, 0, 0, 2, 4]

/-- The cycles of an opcode of the second page. -/
def extendedCost (opcode : Byte) : Nat :=
  if opcode.toNat % 8 = 6 then
    if opcode.toNat / 64 = 1 then 3 else 4
  else 2

namespace Instruction

/-- Does the instruction go on elsewhere than behind its operand? -/
def leaves (i : Instruction) (flags : Flags) : Bool :=
  match i with
  | jumpHl | rst _ | reti => true
  | jumpRelative cond | jump cond | call cond | ret cond => cond.holds flags
  | _ => false

/-- Is the instruction a conditional branch whose condition holds? -/
def branches (i : Instruction) (flags : Flags) : Bool :=
  match i with
  | jumpRelative cond | jump cond | call cond | ret cond => cond != .always && cond.holds flags
  | _ => false

/-- The cycles of a conditional branch whose condition holds. -/
def takenCost : Instruction → Nat
  | jumpRelative _ => 3
  | jump _ => 4
  | call _ => 6
  | ret _ => 5
  | _ => 0

/-- An opcode of the first page has the operand and the cost that its tables give. -/
theorem decode_row (opcode : Byte) :
    ∀ i ∈ decode opcode,
      i.immediate.length = operandLengths.getD opcode.toNat 0 ∧
      i.baseCycles = baseCosts.getD opcode.toNat 0 := by
  induction opcode using Byte.of_forall_lt
  decide +kernel +revert

theorem decodeExtended_row (opcode : Byte) :
    (decodeExtended opcode).immediate = .none ∧
      (decodeExtended opcode).baseCycles = extendedCost opcode := by
  induction opcode using Byte.of_forall_lt
  decide +kernel +revert

/-- The taken cost is that of a conditional branch whose condition holds. -/
theorem cycles_eq (i : Instruction) (flags : Flags) :
    i.cycles flags = if i.branches flags then i.takenCost else i.baseCycles := by
  cases i with
  | jumpRelative cond | jump cond | call cond | ret cond => cases cond <;> rfl
  | _ => rfl

/-- A branch that is taken costs more than one that is not. -/
theorem baseCycles_lt_takenCost {i : Instruction} {flags : Flags}
    (branches : i.branches flags = true) : i.baseCycles < i.takenCost := by
  cases i with
  | jumpRelative cond | jump cond | call cond | ret cond =>
      cases cond with
      | always => cases branches
      | _ => simp [baseCycles, takenCost]
  | _ => cases branches

end Instruction

/-- Moving by an extended byte is moving by the number that it stands for in two's complement. -/
theorem Byte.add_signExtend (w : Word) (b : Byte) :
    ((w + b.signExtend).toNat : Int) = (w.toNat + b.toInt8.toInt) % 65536 := by
  have := b.toNat_lt
  have := w.toNat_lt
  have signed : b.toInt8.toInt = if b.toNat < 0x80 then (b.toNat : Int) else b.toNat - 0x100 := by
    change b.toBitVec.toInt = _
    rw [BitVec.toInt_eq_toNat_cond, UInt8.toNat_toBitVec]
    split <;> split <;> omega
  rw [signed, UInt16.toNat_add, signExtend, UInt16.toNat_ofNat']
  split <;> omega

namespace Machine

variable {m : Machine} {i : Instruction}

section ProgramCounter

variable (m)

@[simp] theorem writePlace_pc (place : Place) (value : Byte) :
    (m.writePlace place value).cpu.regs.pc = m.cpu.regs.pc := by
  cases place <;> rfl

@[simp] theorem setPlace_pc (place : Place) (result : Byte × Flags) :
    (m.setPlace place result).cpu.regs.pc = m.cpu.regs.pc :=
  m.writePlace_pc place result.1

/-- An instruction that does not go on elsewhere leaves the program counter alone. -/
theorem execute_pc (stays : i.leaves m.cpu.regs.flags = false) (operand : Word) :
    (m.execute i operand).cpu.regs.pc = m.cpu.regs.pc := by
  cases i with
  | load dst src => exact m.writePlace_pc dst _
  | loadImmediate dst => exact m.writePlace_pc dst _
  | loadPair pair | incPair pair | decPair pair => cases pair <;> rfl
  | storeAt pointer | loadAt pointer => cases pointer <;> rfl
  | inc place | dec place => exact m.setPlace_pc place _
  | jumpRelative cond | jump cond | call cond | ret cond =>
      simp only [Instruction.leaves] at stays
      simp only [execute, stays, Bool.false_eq_true, if_false]
  | jumpHl | rst _ | reti => cases stays
  | pop pair => cases pair <;> rfl
  | shift op place => exact m.setPlace_pc place _
  | resetBit n place | setBit n place => exact m.writePlace_pc place _
  | _ => rfl

end ProgramCounter

/-- At the program counter there is an instruction, of so many bytes and of this cost where no condition
holds. The operand follows an opcode of the first page; one of the second page has none. -/
inductive Encodes (m : Machine) : Instruction → Nat → Nat → Prop where
  | short {i : Instruction} (decodes : Instruction.decode (m.bus.read m.cpu.regs.pc) = some i)
      (here : i ≠ .extended) :
      m.Encodes i (1 + operandLengths.getD (m.bus.read m.cpu.regs.pc).toNat 0)
        (baseCosts.getD (m.bus.read m.cpu.regs.pc).toNat 0)
  | extended (decodes : Instruction.decode (m.bus.read m.cpu.regs.pc) = some .extended) :
      m.Encodes (.decodeExtended (m.bus.read (m.cpu.regs.pc + 1))) 2
        (extendedCost (m.bus.read (m.cpu.regs.pc + 1)))

/-- Only an undefined opcode is no instruction. -/
theorem exists_encodes (defined : Instruction.decode (m.bus.read m.cpu.regs.pc) ≠ none) :
    ∃ i size base, m.Encodes i size base := by
  obtain ⟨i, decodes⟩ := Option.ne_none_iff_exists'.mp defined
  by_cases here : i = .extended
  · subst here
    exact ⟨_, _, _, .extended decodes⟩
  · exact ⟨_, _, _, .short decodes here⟩

/-- The operand of the given form at an address. -/
def operandAt (bus : Bus) (addr : Word) (form : Immediate) : Word :=
  match form.length with
  | 0 => 0
  | 1 => .ofBytes 0 (bus.read addr)
  | _ => bus.readWord addr

theorem fetchImmediate_fst (form : Immediate) :
    (m.fetchImmediate form).1 = operandAt m.bus m.cpu.regs.pc form := by
  cases form <;> rfl

namespace Encodes

variable {size base : Nat}

/-- What is encoded is encoded for a processor that a request wakes. -/
theorem awake (encodes : m.Encodes i size base) : m.awake.Encodes i size base := by
  unfold Machine.awake
  split
  · cases encodes with
    | short decodes here => exact .short decodes here
    | extended decodes => exact .extended decodes
  · exact encodes

/-- The processor fetches the instruction and stands before its operand, if there is one. -/
theorem fetchInstruction (encodes : m.Encodes i size base) :
    ∃ pc, m.fetchInstruction = (.ok i, { m with cpu.regs.pc := pc }) ∧
      pc + UInt16.ofNat i.immediate.length = m.cpu.regs.pc + UInt16.ofNat size ∧
      operandAt m.bus pc i.immediate = operandAt m.bus (m.cpu.regs.pc + 1) i.immediate := by
  cases encodes with
  | short decodes here =>
      refine ⟨_, fetchInstruction_ok decodes here, ?_, rfl⟩
      rw [← (Instruction.decode_row _ i decodes).1, UInt16.ofNat_add, UInt16.add_assoc]
      rfl
  | extended decodes =>
      refine ⟨m.cpu.regs.pc + 1 + 1, ?_, ?_, ?_⟩
      · simp only [Machine.fetchInstruction, fetch, decodes]
      · rw [(Instruction.decodeExtended_row _).1, UInt16.add_assoc, UInt16.add_assoc]
        rfl
      · rw [(Instruction.decodeExtended_row _).1]
        rfl

theorem baseCycles (encodes : m.Encodes i size base) : i.baseCycles = base := by
  cases encodes with
  | short decodes here => exact (Instruction.decode_row _ i decodes).2
  | extended decodes => exact (Instruction.decodeExtended_row _).2

/-- The processor executes the instruction that is encoded. It stands behind the operand then, and spends
the cycles of the instruction on the flags it found. -/
theorem step (encodes : m.Encodes i size base) (unserved : m.serves = false)
    (up : m.awake.cpu.halted = false) :
    let behind : Machine := { m.awake with cpu.regs.pc := m.cpu.regs.pc + UInt16.ofNat size }
    let operand := operandAt m.bus (m.cpu.regs.pc + 1) i.immediate
    m.step.1.cpu.regs = (behind.execute i operand).cpu.regs ∧
      m.step.2 = .ok (m.cpu.cycles.pending + i.cycles m.cpu.regs.flags) := by
  obtain ⟨pc, fetched, after, sameOperand⟩ := encodes.awake.fetchInstruction
  rw [awake_regs] at after sameOperand
  rw [awake_bus] at sameOperand
  rw [step_next unserved up]
  simp only [executeNext, fetched, fetchImmediate_fst, fetchImmediate_snd, awake_bus, after, sameOperand,
    commit, spend, execute_cycles, awake_cycles, awake_regs, CycleCount.add, and_self]

/-- Behind the operand, if the instruction does not go on elsewhere. -/
theorem step_pc (encodes : m.Encodes i size base) (unserved : m.serves = false)
    (up : m.awake.cpu.halted = false) (stays : i.leaves m.cpu.regs.flags = false) :
    m.step.1.cpu.regs.pc.toNat = (m.cpu.regs.pc.toNat + size) % 65536 := by
  rw [(encodes.step unserved up).1, execute_pc]
  · simp only [UInt16.toNat_add, UInt16.toNat_ofNat', Nat.add_mod_mod]
  · simpa only [awake_regs] using stays

end Encodes

/-- A relative jump that is taken goes the signed distance in its operand from there. -/
theorem step_jumpRelative {cond : Condition} {size base : Nat}
    (encodes : m.Encodes (.jumpRelative cond) size base) (unserved : m.serves = false)
    (up : m.awake.cpu.halted = false) (taken : cond.holds m.cpu.regs.flags = true) :
    (m.step.1.cpu.regs.pc.toNat : Int) =
      (m.cpu.regs.pc.toNat + size + (m.bus.read (m.cpu.regs.pc + 1)).toInt8.toInt) % 65536 := by
  rw [(encodes.step unserved up).1]
  simp only [execute, awake_regs, taken, if_true, jumpTo, operandAt, Instruction.immediate,
    Immediate.length, Word.low_ofBytes, Byte.add_signExtend]
  simp only [UInt16.toNat_add, UInt16.toNat_ofNat', Nat.add_mod_mod]
  omega

theorem step_undefined (undefined : Instruction.decode (m.bus.read m.cpu.regs.pc) = none)
    (unserved : m.serves = false) (up : m.awake.cpu.halted = false) :
    m.step.2 = .error (.undefinedOpcode (m.bus.read m.cpu.regs.pc) m.cpu.regs.pc) := by
  rw [step_next unserved up]
  simp only [executeNext, fetchInstruction, fetch, awake_bus, awake_regs, undefined]

/-- Every step accounts for its cycles and its bytes. A step that succeeds takes one to six cycles, which
are the growth of the total; one that fails leaves the total alone; none leaves cycles pending. A
processor that neither serves an interrupt nor sleeps meets an undefined opcode, or it executes the
instruction at its program counter. It goes on behind the operand then, if the instruction does not go on
elsewhere; a relative jump that is taken goes a signed distance from there. It takes the cost in the
tables, and the higher one of a taken branch exactly for a conditional branch whose condition holds on the
flags that it found. -/
theorem step_accounted (m : Machine) (settled : m.cpu.cycles.pending = 0) :
    (∀ cycles, m.step.2 = .ok cycles →
      1 ≤ cycles ∧ cycles ≤ 6 ∧ m.step.1.cpu.cycles = ⟨0, m.cpu.cycles.total + cycles⟩) ∧
    (∀ failure, m.step.2 = .error failure → m.step.1.cpu.cycles = ⟨0, m.cpu.cycles.total⟩) ∧
    (m.serves = false → m.awake.cpu.halted = false →
      ((∃ i size base, m.Encodes i size base) ∨
        m.step.2 = .error (.undefinedOpcode (m.bus.read m.cpu.regs.pc) m.cpu.regs.pc)) ∧
      ∀ i size base, m.Encodes i size base →
        m.step.2 = .ok (if i.branches m.cpu.regs.flags then i.takenCost else base) ∧
        (i.branches m.cpu.regs.flags = true → base < i.takenCost) ∧
        (i.leaves m.cpu.regs.flags = false →
          m.step.1.cpu.regs.pc.toNat = (m.cpu.regs.pc.toNat + size) % 65536) ∧
        ∀ cond, i = .jumpRelative cond → cond.holds m.cpu.regs.flags = true →
          (m.step.1.cpu.regs.pc.toNat : Int) =
            (m.cpu.regs.pc.toNat + size + (m.bus.read (m.cpu.regs.pc + 1)).toInt8.toInt) % 65536) := by
  refine ⟨?_, ?_, ?_⟩
  · intro cycles ok
    rcases m.step_cases with ⟨c, m', step, advances⟩ | ⟨opcode, m', step, -⟩
    · rw [step] at ok ⊢
      cases ok
      have least := advances.least
      have most := advances.most
      exact ⟨by omega, by omega, advances.count⟩
    · rw [step] at ok
      cases ok
  · intro failure error
    rcases m.step_cases with ⟨c, m', step, -⟩ | ⟨opcode, m', step, refuses⟩
    · rw [step] at error
      cases error
    · rw [step, refuses.result]
      rfl
  · intro unserved up
    refine ⟨?_, ?_⟩
    · by_cases undefined : Instruction.decode (m.bus.read m.cpu.regs.pc) = none
      · exact Or.inr (step_undefined undefined unserved up)
      · exact Or.inl (exists_encodes undefined)
    intro i size base encodes
    have cycles := (encodes.step unserved up).2
    rw [settled, Nat.zero_add, i.cycles_eq, encodes.baseCycles] at cycles
    refine ⟨cycles, ?_, encodes.step_pc unserved up, ?_⟩
    · intro branches
      rw [← encodes.baseCycles]
      exact Instruction.baseCycles_lt_takenCost branches
    · rintro cond rfl taken
      exact step_jumpRelative encodes unserved up taken

/-- A jump back by five that is taken, with its operand in the last byte of the address space. -/
theorem step_accounted_wraps :
    let m : Machine :=
      { cpu := ⟨{ Registers.postBoot false with pc := 0xFFFE }, ⟨0, 7⟩, none⟩
        bus := ((Bus.initial 0).write 0xFFFE 0x38).write 0xFFFF 0xFB }
    m.cpu.cycles.pending = 0 ∧ m.step.2 = .ok 3 ∧ m.step.1.cpu.cycles = ⟨0, 10⟩ ∧
      m.step.1.cpu.regs.pc = 0xFFFB := by
  intro m
  obtain ⟨accounts, -, executes⟩ := m.step_accounted rfl
  have opcode : m.bus.read m.cpu.regs.pc = 0x38 := by decide +kernel
  have decodes : Instruction.decode (m.bus.read m.cpu.regs.pc) = some (.jumpRelative .carry) := by
    rw [opcode]
    rfl
  have encodes := Encodes.short decodes (by decide)
  rw [opcode] at encodes
  obtain ⟨-, all⟩ := executes (by decide) (by decide)
  obtain ⟨taken, -, -, jump⟩ := all _ _ _ encodes
  have jump := jump .carry rfl (by decide)
  refine ⟨rfl, taken, (accounts 3 taken).2.2, ?_⟩
  apply UInt16.toNat_inj.mp
  exact Int.ofNat_inj.mp (jump.trans (by decide))

end Machine

end DotMatrix
