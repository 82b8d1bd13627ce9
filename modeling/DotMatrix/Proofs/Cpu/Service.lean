import DotMatrix.Proofs.Bus.Isolation
import DotMatrix.Proofs.Cpu.Sleep

/-!
Interrupt service. The processor serves the pending interrupt with the lowest bit: it takes that one
request back, leaves the way back on the stack and goes to the vector of the interrupt. If the service
routine returns at once, the program goes on as if nothing had happened.
-/

namespace DotMatrix

namespace Byte

/-- Is bit `n` the lowest one that is set? -/
def Lowest (b : Byte) (n : Nat) : Prop :=
  b.bit n = true ∧ ∀ k < n, b.bit k = false

theorem bit_and (a b : Byte) (i : Nat) : (a &&& b).bit i = (a.bit i && b.bit i) := by
  simp only [bit, UInt8.toNat_and, Nat.testBit_and]

theorem bit_eq_getLsbD (b : Byte) (i : Nat) : b.bit i = b.toBitVec.getLsbD i := rfl

theorem bit_and_not (a mask : Byte) (i : Nat) :
    (a &&& ~~~mask).bit i = (a.bit i && !mask.bit i) := by
  simp only [bit_eq_getLsbD, UInt8.toBitVec_and, UInt8.toBitVec_not, BitVec.getLsbD_and,
    BitVec.getLsbD_not]
  by_cases inside : i < 8
  · simp only [inside, decide_true, Bool.true_and]
  · simp only [BitVec.getLsbD_of_ge a.toBitVec i (by omega), Bool.false_and]

/-- A byte that is not zero has a bit that is set. -/
theorem exists_bit {b : Byte} (some : b ≠ 0) : ∃ i, b.bit i = true := by
  refine Classical.byContradiction fun none => some (UInt8.toNat_inj.1 (Nat.eq_of_testBit_eq ?_))
  intro i
  have unset : b.toNat.testBit i = false := by
    simpa only [bit, Bool.not_eq_true] using not_exists.1 none i
  rw [unset]
  exact (Nat.zero_testBit i).symm

end Byte

namespace Interrupt

/-- The number of the interrupt's bit in the request and enable registers. -/
def index : Interrupt → Nat
  | vblank => 0
  | lcd => 1
  | timer => 2
  | serial => 3
  | joypad => 4

theorem mask_bit (interrupt : Interrupt) (i : Nat) :
    interrupt.mask.bit i = decide (interrupt.index = i) := by
  have power : interrupt.mask.toNat = 2 ^ interrupt.index := by cases interrupt <;> rfl
  rw [Byte.bit, power, Nat.testBit_two_pow]

theorem allMask_bit (i : Nat) : allMask.bit i = decide (i < 5) :=
  Nat.testBit_two_pow_sub_one 5 i

theorem vector_eq (interrupt : Interrupt) :
    interrupt.vector.toNat = 0x40 + 8 * interrupt.index := by
  cases interrupt <;> rfl

theorem vector_lt (interrupt : Interrupt) : interrupt.vector.toNat < 0x8000 := by
  cases interrupt <;> decide

/-- Of the pending interrupts the one with the lowest bit goes first. -/
theorem first_lowest {pending : Byte} (five : ∀ i, 5 ≤ i → pending.bit i = false)
    (some : pending ≠ 0) : pending.Lowest (first pending).index := by
  have grow {n : Nat} (lower : ∀ k < n, pending.bit k = false) (unset : ¬ pending.bit n = true) :
      ∀ k < n + 1, pending.bit k = false := by
    intro k below
    rcases Nat.lt_succ_iff_lt_or_eq.1 below with less | rfl
    · exact lower k less
    · simpa using unset
  have below0 : ∀ k < 0, pending.bit k = false := fun k less => absurd less k.not_lt_zero
  unfold first
  split
  · next set => exact ⟨set, below0⟩
  next unset =>
  have below1 := grow below0 unset
  split
  · next set => exact ⟨set, below1⟩
  next unset =>
  have below2 := grow below1 unset
  split
  · next set => exact ⟨set, below2⟩
  next unset =>
  have below3 := grow below2 unset
  split
  · next set => exact ⟨set, below3⟩
  next unset =>
  have below4 := grow below3 unset
  -- some bit is set, and only the fifth is left
  obtain ⟨i, set⟩ := Byte.exists_bit some
  have last : i = 4 := by
    refine Classical.byContradiction fun other => ?_
    rcases Nat.lt_or_ge i 4 with less | more
    · rw [below4 i less] at set
      cases set
    · rw [five i (by omega)] at set
      cases set
  rw [last] at set
  exact ⟨set, below4⟩

end Interrupt

namespace Bus

theorem pending_bit_ge (bus : Bus) {i : Nat} (above : 5 ≤ i) : bus.pending.bit i = false := by
  rw [pending, Byte.bit_and, Interrupt.allMask_bit, decide_eq_false (by omega), Bool.and_false]

/-- Serving an interrupt takes its own request back and no other. -/
theorem acknowledge_bit (bus : Bus) (interrupt : Interrupt) (i : Nat) :
    (bus.acknowledge interrupt).requested.bit i =
      (bus.requested.bit i && !decide (interrupt.index = i)) := by
  rw [acknowledge, Byte.bit_and_not, Interrupt.mask_bit]

end Bus

namespace BusPart

/-- Is there RAM of the console proper at an address? -/
def InRam (addr : Word) : Prop :=
  workRam.Owns addr ∨ highRam.Owns addr

/-- Is what is stored at an address seen at another one? -/
def SeenAt (addr other : Word) : Prop :=
  other = addr ∨ Mirrored addr other

instance (addr : Word) : Decidable (InRam addr) :=
  inferInstanceAs (Decidable (_ ∨ _))

instance (addr other : Word) : Decidable (SeenAt addr other) :=
  inferInstanceAs (Decidable (_ ∨ _))

theorem InRam.stores {addr : Word} (h : InRam addr) : Stores addr :=
  h.elim (fun owns => Or.inr (Or.inl owns)) (fun owns => Or.inr (Or.inr (Or.inr owns)))

theorem SeenAt.refl (addr : Word) : SeenAt addr addr := Or.inl rfl

theorem SeenAt.inRam {addr other : Word} (seen : SeenAt addr other) (h : InRam addr) :
    InRam other := by
  rcases seen with rfl | ⟨-, owns, -⟩
  · exact h
  · exact Or.inl owns

/-- What is stored at an address is not seen at the next one. -/
theorem not_seenAt_succ (addr : Word) : ¬ SeenAt addr (addr + 1) := by
  have := addr.toNat_lt
  have next : (addr + 1).toNat = (addr.toNat + 1) % 2 ^ 16 := UInt16.toNat_add addr 1
  rintro (same | ⟨-, -, same⟩)
  · rw [← UInt16.toNat_inj] at same
    omega
  · omega

end BusPart

namespace Bus

/-- A store to RAM changes one of the two memories and nothing else. -/
theorem write_ram (bus : Bus) {addr : Word} (h : BusPart.InRam addr) (value : Byte) :
    ∃ workRam highRam, bus.write addr value = { bus with workRam := workRam, highRam := highRam } := by
  rcases h with owns | owns
  · exact ⟨_, bus.highRam, bus.write_eq_writePart owns value⟩
  · exact ⟨bus.workRam, _, bus.write_eq_writePart owns value⟩

theorem read_write_ram (bus : Bus) {addr other : Word} (h : BusPart.InRam addr) (value : Byte) :
    (bus.write addr value).read other =
      if BusPart.SeenAt addr other then value else bus.read other :=
  bus.read_write_memory h.stores value other

/-- The requests are read at one address only. -/
theorem read_acknowledge (bus : Bus) (interrupt : Interrupt) {addr : Word} (h : addr ≠ 0xFF0F) :
    (bus.acknowledge interrupt).read addr = bus.read addr := by
  obtain ⟨part, owns⟩ := BusPart.exists_owns addr
  rw [read_eq_readPart _ owns, read_eq_readPart _ owns]
  cases part with
  | requests => exact absurd owns.eq_requests h
  | _ => rfl

end Bus

namespace Machine

variable {m : Machine}

/-- The two addresses below the stack pointer. -/
def belowStack (m : Machine) : List Word :=
  [m.cpu.regs.sp - 1, m.cpu.regs.sp - 2]

/-- Bytes that are stored below the stack pointer are seen there and nowhere else. -/
theorem read_pushed (bus : Bus) (ram : ∀ addr ∈ m.belowStack, BusPart.InRam addr) (value other : Word) :
    (bus.writeAll (m.stackStores value)).read other =
      if BusPart.SeenAt (m.cpu.regs.sp - 2) other then value.low
      else if BusPart.SeenAt (m.cpu.regs.sp - 1) other then value.high
      else bus.read other := by
  have first := ram (m.cpu.regs.sp - 1) (by simp [belowStack])
  have second := ram (m.cpu.regs.sp - 2) (by simp [belowStack])
  change ((bus.write (m.cpu.regs.sp - 1) value.high).write (m.cpu.regs.sp - 2) value.low).read other =
    _
  rw [Bus.read_write_ram _ second, Bus.read_write_ram _ first]

theorem readWord_pushed (bus : Bus) (ram : ∀ addr ∈ m.belowStack, BusPart.InRam addr) (value : Word) :
    (bus.writeAll (m.stackStores value)).readWord (m.cpu.regs.sp - 2) = value := by
  have next : m.cpu.regs.sp - 2 + 1 = m.cpu.regs.sp - 1 := by
    apply UInt16.toBitVec_inj.1
    simp
    bv_omega
  have low : (bus.writeAll (m.stackStores value)).read (m.cpu.regs.sp - 2) = value.low := by
    rw [read_pushed bus ram, if_pos (BusPart.SeenAt.refl _)]
  have high : (bus.writeAll (m.stackStores value)).read (m.cpu.regs.sp - 2 + 1) = value.high := by
    rw [read_pushed bus ram, if_neg (BusPart.not_seenAt_succ _), next, if_pos (BusPart.SeenAt.refl _)]
  rw [Bus.readWord, low, high, Word.ofBytes_high_low]

theorem pushed_ram (bus : Bus) (ram : ∀ addr ∈ m.belowStack, BusPart.InRam addr) (value : Word) :
    ∃ workRam highRam, bus.writeAll (m.stackStores value) =
      { bus with workRam := workRam, highRam := highRam } := by
  obtain ⟨w, h, first⟩ := bus.write_ram (ram (m.cpu.regs.sp - 1) (by simp [belowStack])) value.high
  obtain ⟨w', h', second⟩ :=
    Bus.write_ram { bus with workRam := w, highRam := h }
      (ram (m.cpu.regs.sp - 2) (by simp [belowStack])) value.low
  refine ⟨w', h', ?_⟩
  change (bus.write (m.cpu.regs.sp - 1) value.high).write (m.cpu.regs.sp - 2) value.low = _
  rw [first, second]

/-- The step that returns from an interrupt. -/
theorem step_reti (unserved : m.serves = false) (up : m.cpu.resumeAt = none)
    (reti : m.bus.read m.cpu.regs.pc = 0xD9) :
    m.step =
      ({ m with
          cpu.regs.sp := m.cpu.regs.sp + 2
          cpu.regs.pc := m.bus.readWord m.cpu.regs.sp
          cpu.regs.ime := true
          cpu.cycles := ⟨0, m.cpu.cycles.total + (m.cpu.cycles.pending + 4)⟩ },
        .ok (m.cpu.cycles.pending + 4)) := by
  have decodes : Instruction.decode (m.bus.read m.cpu.regs.pc) = some .reti := by
    rw [reti]
    decide
  rw [step_up unserved up decodes (by decide)]
  rfl

/-- Service is transparent. The processor serves the pending interrupt with the lowest bit, in five
cycles, and takes back the request of that one alone. If its routine only returns, then after four
more cycles all registers are as they were, a processor that slept goes on behind the instruction that
put it to sleep, and on the bus nothing has changed but that one request and the two bytes of the stack
that held the way back. -/
theorem service_transparent (h : m.Stepped) (enabled : m.cpu.regs.ime = true)
    (pending : m.bus.pending ≠ 0) (ram : ∀ addr ∈ m.belowStack, BusPart.InRam addr) :
    ∃ n, m.bus.pending.Lowest n ∧
      let served := m.step.1
      m.step.2 = .ok 5 ∧
      served.bus.requested.bit n = false ∧
      (∀ k ≠ n, served.bus.requested.bit k = m.bus.requested.bit k) ∧
      served.cpu.regs.ime = false ∧ served.cpu.halted = false ∧
      served.cpu.regs.pc.toNat = 0x40 + 8 * n ∧
      (m.bus.read served.cpu.regs.pc = 0xD9 →
        let back := served.step.1
        served.step.2 = .ok 4 ∧
        back.cpu.regs = m.cpu.regs ∧ back.cpu.halted = false ∧
        (m.cpu.halted = true → ∃ addr, m.SleepsSince addr ∧ back.cpu.regs.pc = addr + 1) ∧
        back.bus = { m.bus with
          requested := served.bus.requested
          workRam := back.bus.workRam
          highRam := back.bus.highRam } ∧
        ∀ addr, addr ≠ 0xFF0F → (∀ byte ∈ m.belowStack, ¬ BusPart.SeenAt byte addr) →
          back.bus.read addr = m.bus.read addr) := by
  have serves : m.serves = true := by simp [Machine.serves, enabled, pending]
  have stepped := step_interrupted serves
  rw [h.settled] at stepped
  let first := Interrupt.first m.bus.pending
  have bus : m.interrupted.bus =
      (m.bus.acknowledge first).writeAll (m.stackStores m.cpu.regs.pc) := by
    simp only [interrupted, h.goesOn, first]
  obtain ⟨workRam, highRam, pushed⟩ := pushed_ram (m.bus.acknowledge first) ram m.cpu.regs.pc
  have requested : m.interrupted.bus.requested = (m.bus.acknowledge first).requested := by
    rw [bus, pushed]
  refine ⟨first.index, Interrupt.first_lowest (fun i => m.bus.pending_bit_ge) pending, ?_⟩
  rw [stepped]
  refine ⟨rfl, ?_, ?_, rfl, rfl, first.vector_eq, ?_⟩
  · simp only [requested, Bus.acknowledge_bit, decide_true, Bool.not_true, Bool.and_false]
  · intro k other
    have kept : decide (first.index = k) = false := decide_eq_false fun same => other same.symm
    simp only [requested, Bus.acknowledge_bit, kept, Bool.not_false, Bool.and_true]
  intro reti
  have unseen (addr : Word) (away : ∀ byte ∈ m.belowStack, ¬ BusPart.SeenAt byte addr)
      (other : addr ≠ 0xFF0F) : m.interrupted.bus.read addr = m.bus.read addr := by
    rw [bus, read_pushed _ ram, if_neg (away _ (by simp [belowStack])),
      if_neg (away _ (by simp [belowStack])), Bus.read_acknowledge _ _ other]
  have routine : m.interrupted.bus.read first.vector = 0xD9 := by
    have low := first.vector_lt
    rw [unseen first.vector ?_ ?_]
    · exact reti
    · intro byte below seen
      have inRam := seen.inRam (ram byte below)
      simp only [BusPart.InRam, BusPart.Owns] at inRam
      omega
    · intro same
      rw [same] at low
      exact absurd low (by decide)
  have unserved : m.interrupted.serves = false := by
    simp only [Machine.serves, interrupted, Bool.and_false]
  have returned := step_reti unserved rfl routine
  have way : m.interrupted.bus.readWord m.interrupted.cpu.regs.sp = m.cpu.regs.pc := by
    rw [bus]
    exact readWord_pushed _ ram _
  have up : m.cpu.regs.sp - 2 + 2 = m.cpu.regs.sp := UInt16.sub_add_cancel _ _
  have regs : m.interrupted.step.1.cpu.regs = m.cpu.regs := by
    rw [returned, way]
    simp only [interrupted, up, ← enabled]
  rw [returned] at regs ⊢
  refine ⟨rfl, regs, rfl, ?_, ?_, ?_⟩
  · intro asleep
    obtain ⟨addr, since⟩ := h.sleepsSince asleep
    exact ⟨addr, since, (congrArg Registers.pc regs).trans since.resumeAt.2⟩
  · change m.interrupted.bus = _
    rw [bus, pushed]
    rfl
  · intro addr other away
    exact unseen addr away other

/-- A machine that is about to fall asleep. The routine of its timer interrupt only returns. -/
def tired : Machine where
  cpu :=
    { regs := { Registers.postBoot false with pc := 0xC000, sp := 0xDFFE, ime := true }
      cycles := .zero
      resumeAt := none }
  bus :=
    { Bus.initial 0 with
      slot :=
        (Cartridge.ofImage (Array.replicate 0x50 0 ++ #[0xD9] ++ Array.replicate 0x100 0)).toOption.map
          (Slot.insert · 0)
      workRam := (WorkRam.write (.zeros _) 0xC000 0x76)
      enabled := 0x05 }

/-- The same machine asleep, with two requests of which one is enabled. -/
def roused : Machine :=
  { tired.step.1 with bus := tired.step.1.bus.request 0x06 }

theorem service_transparent_roused :
    roused.Stepped ∧ roused.cpu.halted = true ∧ roused.step.2 = .ok 5 ∧
      roused.step.1.cpu.regs.pc = 0x0050 ∧ roused.step.1.bus.requested = 0x02 ∧
      roused.step.1.step.2 = .ok 4 ∧ roused.step.1.step.1.cpu.regs = roused.cpu.regs ∧
      roused.step.1.step.1.cpu.regs.pc = 0xC001 := by
  have stepped : roused.Stepped := .between (.step (.start rfl rfl)) _
  have facts : roused.cpu.regs.ime = true ∧ roused.bus.pending ≠ 0 ∧ roused.cpu.halted = true ∧
      roused.belowStack = [0xDFFD, 0xDFFC] ∧ roused.step.1.cpu.regs.pc = 0x0050 ∧
      roused.bus.read 0x0050 = 0xD9 ∧ roused.step.1.bus.requested = 0x02 ∧
      roused.cpu.regs.pc = 0xC001 := by decide +kernel
  obtain ⟨enabled, pending, asleep, below, vector, reti, requested, here⟩ := facts
  have ram : ∀ addr ∈ roused.belowStack, BusPart.InRam addr := by
    intro addr member
    simp only [below, List.mem_cons, List.not_mem_nil, or_false] at member
    rcases member with rfl | rfl
    · exact Or.inl (by decide)
    · exact Or.inl (by decide)
  obtain ⟨n, -, took, -, -, -, -, -, back⟩ := service_transparent stepped enabled pending ram
  obtain ⟨returned, regs, -⟩ := back (by rw [vector, reti])
  refine ⟨stepped, asleep, took, vector, requested, returned, regs, ?_⟩
  rw [regs, here]

end Machine

end DotMatrix
