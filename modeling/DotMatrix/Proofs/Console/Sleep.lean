import DotMatrix.Proofs.Bus.Isolation
import DotMatrix.Proofs.Console.Interrupts
import DotMatrix.Proofs.Console.SleepFlag
import DotMatrix.Proofs.Lcd.Events

/-!
A console that sleeps. Its processor has executed the instruction that puts it to sleep, and sleeps
through every dispatch that finds no request, while the LCD controller and the timer run. The first
dispatch that finds one ends the sleep, and the program goes on behind the instruction, through the
service of an interrupt or at once.
-/

namespace DotMatrix

namespace Bus

/-- As time passes, the LCD controller and the timer run, and nothing else changes but the requests. -/
theorem elapse_fields (bus : Bus) (cycles : Nat) :
    bus.elapse cycles = { bus with
      lcd := (bus.lcd.step cycles).1
      timer := (bus.timer.step cycles).1
      requested := (bus.elapse cycles).requested } := by
  rw [elapse_eq]
  cases (bus.timer.step cycles).2 with
  | false => rfl
  | true => rfl

/-- Is every request of a bus also one of another? -/
def RequestsKept (bus bus' : Bus) : Prop :=
  ∀ i, bus.requested.bit i = true → bus'.requested.bit i = true

namespace RequestsKept

variable {bus bus' bus'' : Bus}

theorem of_eq (same : bus'.requested = bus.requested) : bus.RequestsKept bus' := by
  intro i set
  rw [same, set]

theorem trans (h : bus.RequestsKept bus') (h' : bus'.RequestsKept bus'') : bus.RequestsKept bus'' :=
  fun i set => h' i (h i set)

theorem request_of (same : bus'.requested = bus.requested) (mask : Byte) :
    bus.RequestsKept (bus'.request mask) := by
  intro i set
  rw [Bus.request, Byte.bit_or, same, set, Bool.true_or]

theorem requestIf (bus : Bus) (reason : Bool) (interrupt : Interrupt) :
    bus.RequestsKept (bus.requestIf reason interrupt) := by
  cases reason with
  | false => exact of_eq rfl
  | true => exact request_of rfl interrupt.mask

/-- Only a store to the request register takes a request back. -/
theorem write (bus : Bus) {addr : Word} (other : addr ≠ 0xFF0F) (value : Byte) :
    bus.RequestsKept (bus.write addr value) := by
  have asked {bus' : Bus} (same : bus'.requested = bus.requested) (reason : Bool)
      (interrupt : Interrupt) : bus.RequestsKept (bus'.requestIf reason interrupt) :=
    (of_eq same).trans (requestIf bus' reason interrupt)
  -- the sprites are any, so that nothing looks into how they came to be
  have filled (oam : Oam) : bus.RequestsKept { bus with lcd.oam := oam } := of_eq rfl
  obtain ⟨part, owns⟩ := BusPart.exists_owns addr
  rw [bus.write_eq_writePart owns]
  cases part with
  | requests => exact absurd owns.eq_requests other
  | serial =>
      rw [writePart, writeSerial_eq]
      refine asked ?_ _ _
      rfl
  | timer =>
      rw [writePart, writeTimer_eq]
      refine asked ?_ _ _
      rfl
  | transferPage =>
      obtain ⟨oam, filled⟩ := bus.transferOam_eq value
      rw [writePart, filled]
      exact of_eq rfl
  | oam => exact filled _
  | _ => exact of_eq rfl

theorem writeAll (bus : Bus) {stores : List Store} (others : ∀ store ∈ stores, store.addr ≠ 0xFF0F) :
    bus.RequestsKept (bus.writeAll stores) :=
  writeAll_induction (motive := bus.RequestsKept) (of_eq rfl) fun bus' store member kept =>
    kept.trans (write bus' (others store member) store.value)

theorem elapse (bus : Bus) (cycles : Nat) : bus.RequestsKept (bus.elapse cycles) := by
  rw [elapse_eq]
  refine RequestsKept.trans ?_ (requestIf _ _ _)
  exact request_of rfl _

end RequestsKept

end Bus

/-- Is the operation a dispatch, or one by which the host neither writes on the bus nor changes the
registers, resets, restores or replaces anything? -/
def Operation.letsBe : Operation → Bool
  | dispatch | keyDown _ | keyUp _ | plug _ | collect | setNow _ | request _ | stepLcd _ | stepTimer _
  | setOam _ _ | fillRam _ => true
  | _ => false

namespace Console

/-- The next dispatch executes the instruction that puts the processor to sleep. -/
structure Halts (c : Console) : Prop where
  free : c.stuckAt = none
  filled : c.bus.slot ≠ none
  machine : c.toMachine.Halts

/-- Can the processor sleep on through an operation? It cannot through a dispatch that finds a
request. -/
def sleepsOn (c : Console) : Operation → Bool
  | .dispatch => c.bus.pending == 0
  | op => op.letsBe

/-- The processor can sleep on through operations one after the other. -/
def SleepsThrough (c : Console) : List Operation → Prop
  | [] => True
  | op :: rest => c.sleepsOn op = true ∧ (c.perform op).1.SleepsThrough rest

instance decidableSleepsThrough (c : Console) :
    (ops : List Operation) → Decidable (c.SleepsThrough ops)
  | [] => isTrue trivial
  | op :: rest =>
    have := decidableSleepsThrough (c.perform op).1 rest
    inferInstanceAs (Decidable (c.sleepsOn op = true ∧ (c.perform op).1.SleepsThrough rest))

/-- The dispatch in which the processor executes the instruction at its program counter, whatever is
requested. -/
def dispatchNext (c : Console) : Console × Except Failure Nat :=
  match c.toMachine.executeNext with
  | (m, none) =>
    ({ m.commit.1 with bus := m.bus.elapse m.commit.2, stuckAt := none }, .ok m.commit.2)
  | (m, some failure) =>
    let stuckAt :=
      match failure with
      | .undefinedOpcode opcode pc => some (opcode, pc)
      | _ => none
    ({ m with stuckAt := stuckAt }, .error failure)

section Dispatch

variable {c : Console}

theorem keyDown_slot (key : Key) : (c.keyDown key).bus.slot = c.bus.slot :=
  Bus.requestIf_slot _ _ _

theorem keyDown_enabled (key : Key) : (c.keyDown key).bus.enabled = c.bus.enabled :=
  Bus.requestIf_enabled _ _ _

/-- A processor that is awake, or woken, and not interrupted executes the next instruction. -/
theorem dispatch_eq_next (free : c.stuckAt = none) (filled : c.bus.slot ≠ none)
    (unserved : c.toMachine.serves = false) (up : c.toMachine.awake.cpu.halted = false) :
    c.dispatch = { c with toMachine := c.toMachine.awake }.dispatchNext := by
  have full := isNone_of_filled filled
  simp only [dispatch, dispatchNext, free, full, Bool.false_eq_true, if_false,
    Machine.step_next unserved up]
  rcases c.toMachine.awake.executeNext with ⟨m, failure | none⟩
  · rfl
  · rfl

end Dispatch

/-- The processor sleeps with the given registers and will go on where it is. -/
structure Asleep (c : Console) (regs : Registers) : Prop where
  free : c.stuckAt = none
  filled : c.bus.slot ≠ none
  settled : c.cpu.cycles.pending = 0
  resumeAt : c.cpu.resumeAt = some regs.pc
  registers : c.cpu.regs = regs

theorem Halts.asleep {c : Console} (h : c.Halts) :
    c.dispatch.1.Asleep { c.cpu.regs with pc := c.cpu.regs.pc + 1 } := by
  rw [dispatch_of_step h.free h.filled (Machine.step_halts h.machine)]
  refine ⟨rfl, ?_, rfl, rfl, rfl⟩
  rw [Bus.elapse_slot]
  exact h.filled

namespace Asleep

variable {c : Console} {regs : Registers}

theorem halted (h : c.Asleep regs) : c.cpu.halted = true := by
  rw [Cpu.halted, h.resumeAt]
  rfl

/-- A dispatch that finds no request is a cycle of sleep. -/
theorem dispatch_idle (h : c.Asleep regs) (quiet : c.bus.pending = 0) :
    c.dispatch =
      ({ c with
          cpu.cycles := ⟨0, c.cpu.cycles.total + 1⟩
          bus := c.bus.elapse 1 },
        .ok 1) := by
  have stepped := Machine.step_asleep h.halted quiet
  rw [h.settled] at stepped
  rw [dispatch_of_step h.free h.filled stepped, ← h.free]

theorem performed (h : c.Asleep regs) {op : Operation} (on : c.sleepsOn op = true) :
    (c.perform op).1.Asleep regs := by
  cases op with
  | dispatch =>
      rw [performDispatch_fst, h.dispatch_idle (by simpa [sleepsOn] using on)]
      refine ⟨h.free, ?_, rfl, h.resumeAt, h.registers⟩
      rw [Bus.elapse_slot]
      exact h.filled
  | keyDown key =>
      refine ⟨h.free, ?_, h.settled, h.resumeAt, h.registers⟩
      exact fun empty => h.filled ((keyDown_slot key).symm.trans empty)
  | fillRam banks =>
      refine ⟨h.free, ?_, h.settled, h.resumeAt, h.registers⟩
      exact fun empty => h.filled (Option.map_eq_none_iff.mp empty)
  | keyUp | plug | collect | setNow | request | stepLcd | stepTimer | setOam =>
      exact ⟨h.free, h.filled, h.settled, h.resumeAt, h.registers⟩
  | _ => cases on

/-- The processor sleeps on until a dispatch finds a request. -/
theorem performedAll (h : c.Asleep regs) {ops : List Operation} (through : c.SleepsThrough ops) :
    (c.performAll ops).Asleep regs := by
  induction ops generalizing c with
  | nil => exact h
  | cons op rest ih =>
      obtain ⟨first, later⟩ := through
      exact ih (h.performed first) later

/-- No operation that lets the processor be enables an interrupt. -/
theorem enabled_performed (h : c.Asleep regs) {op : Operation} (on : c.sleepsOn op = true) :
    (c.perform op).1.bus.enabled = c.bus.enabled := by
  cases op with
  | dispatch =>
      rw [performDispatch_fst, h.dispatch_idle (by simpa [sleepsOn] using on)]
      exact Bus.elapse_enabled _ _
  | keyDown key => exact keyDown_enabled key
  | keyUp | plug | collect | setNow | request | stepLcd | stepTimer | setOam | fillRam => rfl
  | _ => cases on

end Asleep

theorem pending_of_disabled {bus : Bus} (disabled : bus.enabled &&& Interrupt.allMask = 0) :
    bus.pending = 0 := by
  rw [Bus.pending, UInt8.and_assoc, UInt8.and_comm bus.requested, ← UInt8.and_assoc, disabled,
    UInt8.zero_and]

/-- While no interrupt is enabled the processor sleeps through everything. -/
theorem Asleep.sleepsThrough {c : Console} {regs : Registers} (h : c.Asleep regs)
    (disabled : c.bus.enabled &&& Interrupt.allMask = 0) {ops : List Operation}
    (letBe : ∀ op ∈ ops, op.letsBe = true) : c.SleepsThrough ops := by
  induction ops generalizing c with
  | nil => trivial
  | cons op rest ih =>
      have on : c.sleepsOn op = true := by
        have lets := letBe op List.mem_cons_self
        cases op with
        | dispatch => simpa [sleepsOn] using pending_of_disabled disabled
        | _ => exact lets
      refine ⟨on, ih (h.performed on) ?_ fun op member => letBe op (List.mem_cons_of_mem _ member)⟩
      rw [h.enabled_performed on, disabled]

/-- A console that sleeps serves the first request that is enabled if interrupts are served at all. The
way back is where it would have gone on. -/
theorem Asleep.dispatch_serves {c : Console} {regs : Registers} (h : c.Asleep regs)
    (pending : c.bus.pending ≠ 0) (ime : regs.ime = true) :
    c.dispatch =
      ({ cpu :=
          { regs :=
              { regs with
                sp := regs.sp - 2
                pc := (Interrupt.first c.bus.pending).vector
                ime := false }
            cycles := ⟨0, c.cpu.cycles.total + 5⟩
            resumeAt := none }
         bus :=
          (((c.bus.acknowledge (Interrupt.first c.bus.pending)).write (regs.sp - 1)
            regs.pc.high).write (regs.sp - 2) regs.pc.low).elapse 5
         stuckAt := none },
        .ok 5) := by
  have serves : c.toMachine.serves = true := by simp [Machine.serves, h.registers, ime, pending]
  have stepped := Machine.step_interrupted serves
  rw [h.settled] at stepped
  rw [dispatch_of_step h.free h.filled stepped]
  simp only [Machine.interrupted, h.registers, h.resumeAt, h.settled, Option.getD_some]
  simp only [Machine.stackStores, h.registers, Bus.writeAll, List.foldl_cons, List.foldl_nil]

/-- If no interrupts are served, a request wakes the processor for the instruction it would have gone on
with. It sleeps again only if that instruction puts it to sleep. -/
theorem Asleep.dispatch_wakes {c : Console} {regs : Registers} (h : c.Asleep regs)
    (pending : c.bus.pending ≠ 0) (ime : regs.ime = false) :
    c.dispatch = { c with cpu.resumeAt := none }.dispatchNext ∧
      (c.dispatch.1.cpu.halted = true → Instruction.decode (c.bus.read regs.pc) = some .halt) ∧
      ((∀ store ∈ c.stores, store.addr ≠ 0xFF0F) → c.bus.RequestsKept c.dispatch.1.bus) := by
  have unserved : c.toMachine.serves = false := by simp [Machine.serves, h.registers, ime]
  have awake := Machine.awake_of_pending pending
  have up : c.toMachine.awake.cpu.halted = false := by
    rw [awake]
    rfl
  refine ⟨?_, fun again => ?_, fun others => ?_⟩
  · rw [dispatch_eq_next h.free h.filled unserved up, awake]
  · rw [dispatch_cpu h.free h.filled] at again
    rcases c.toMachine.step_resumeAt with none | ⟨-, quiet⟩ | halts
    · rw [Cpu.halted, none] at again
      cases again
    · exact absurd quiet pending
    · rw [← h.registers]
      exact halts.decodes
  · have same : c.answered = c.bus := by
      simp only [Machine.answered, unserved, Bool.false_eq_true, if_false]
    rcases c.dispatch_outcome with passes | ⟨kept, -, -⟩
    · rw [passes.bus, stored, same]
      exact (Bus.RequestsKept.writeAll c.bus others).trans (.elapse _ _)
    · exact .of_eq (congrArg Bus.requested kept)

/-- Sleep lasts until a request and loses nothing. A processor that has executed the instruction that
puts it to sleep remembers the address behind it, and is there with all other registers as they were.
A dispatch that finds no request is a cycle in which the LCD controller and the timer run and may
request an interrupt. The first one that finds a request serves it, with the way back to that address,
or executes the instruction there, with every request as it was. If no interrupt is enabled, the
processor sleeps for ever. -/
theorem sleep_lossless {c : Console} (h : c.Halts) {ops : List Operation}
    (through : c.dispatch.1.SleepsThrough ops) :
    let s := c.dispatch.1.performAll ops
    let next := c.cpu.regs.pc + 1
    (∀ all, (FlaggedConsole.of c).performAll all = .of (c.performAll all)) ∧
    ((FlaggedConsole.of c).performAll (.dispatch :: ops) = { s with asleep := true } ∧
      s.cpu.resumeAt = some next ∧ s.cpu.regs = { c.cpu.regs with pc := next }) ∧
    (s.bus.pending = 0 →
      s.dispatch =
        ({ s with
            cpu.cycles := ⟨0, s.cpu.cycles.total + 1⟩
            bus.lcd := (s.bus.lcd.step 1).1
            bus.timer := (s.bus.timer.step 1).1
            bus.requested := s.dispatch.1.bus.requested },
          .ok 1) ∧
      s.bus.RequestsKept s.dispatch.1.bus) ∧
    (s.bus.pending ≠ 0 → c.cpu.regs.ime = true →
      s.dispatch =
        ({ cpu :=
            { regs :=
                { c.cpu.regs with
                  sp := c.cpu.regs.sp - 2
                  pc := (Interrupt.first s.bus.pending).vector
                  ime := false }
              cycles := ⟨0, s.cpu.cycles.total + 5⟩
              resumeAt := none }
           bus :=
            (((s.bus.acknowledge (Interrupt.first s.bus.pending)).write (c.cpu.regs.sp - 1)
              next.high).write (c.cpu.regs.sp - 2) next.low).elapse 5
           stuckAt := none },
          .ok 5)) ∧
    (s.bus.pending ≠ 0 → c.cpu.regs.ime = false →
      s.dispatch = { s with cpu.resumeAt := none }.dispatchNext ∧
      (s.dispatch.1.cpu.halted = true → Instruction.decode (s.bus.read next) = some .halt) ∧
      ((∀ store ∈ s.stores, store.addr ≠ 0xFF0F) → s.bus.RequestsKept s.dispatch.1.bus)) ∧
    (s.bus.enabled &&& Interrupt.allMask = 0 →
      ∀ later, (∀ op ∈ later, op.letsBe = true) →
        s.SleepsThrough later ∧ (s.performAll later).cpu.resumeAt = some next) := by
  intro s next
  have asleep : s.Asleep { c.cpu.regs with pc := next } := h.asleep.performedAll through
  refine ⟨FlaggedConsole.performAll_of c, ⟨?_, asleep.resumeAt, asleep.registers⟩, fun quiet => ?_,
    fun pending ime => asleep.dispatch_serves pending ime,
    fun pending ime => asleep.dispatch_wakes pending ime, fun disabled later letBe => ?_⟩
  · have whole : c.performAll (.dispatch :: ops) = s :=
      congrArg (fun next : Console => next.performAll ops) performDispatch_fst
    rw [FlaggedConsole.performAll_of, whole, FlaggedConsole.of, asleep.resumeAt]
    rfl
  · have idle := asleep.dispatch_idle quiet
    refine ⟨?_, ?_⟩
    · rw [idle, ← Bus.elapse_fields]
    · rw [idle]
      exact .elapse s.bus 1
  · have still := asleep.sleepsThrough disabled letBe
    exact ⟨still, (asleep.performedAll still).resumeAt⟩

/-- A console whose program has let the timer count and is about to sleep until it overflows. -/
def drowsy : Console :=
  (running #[0x3E, 0x04, 0xE0, 0xFF, 0x3E, 0x05, 0xE0, 0x07, 0x3E, 0xFE, 0xE0, 0x05, 0x76, 0x3C]).performAll
    (List.replicate 6 .dispatch)

/-- The key is requested and not enabled, so it wakes nobody. -/
theorem sleep_lossless_drowsy :
    let ops : List Operation := [.dispatch, .keyDown .a, .dispatch, .dispatch, .keyUp .a, .dispatch]
    let s := drowsy.dispatch.1.performAll ops
    drowsy.Halts ∧ drowsy.dispatch.1.SleepsThrough ops ∧ s.bus.pending = 0x04 ∧
      s.cpu.resumeAt = some 0x010D ∧ s.dispatch = { s with cpu.resumeAt := none }.dispatchNext ∧
      s.dispatch.1.cpu.halted = false ∧ s.bus.RequestsKept s.dispatch.1.bus := by
  intro ops
  have facts : drowsy.stuckAt = none ∧ drowsy.bus.slot.isSome = true ∧
      drowsy.toMachine.serves = false ∧ drowsy.toMachine.awake.cpu.halted = false ∧
      Instruction.decode (drowsy.bus.read drowsy.cpu.regs.pc) = some .halt ∧
      drowsy.cpu.regs.pc = 0x010C ∧ drowsy.cpu.regs.ime = false := by decide +kernel
  obtain ⟨free, filled, unserved, up, decodes, here, ime⟩ := facts
  have halts : drowsy.Halts := ⟨free, Option.isSome_iff_ne_none.mp filled, unserved, up, decodes⟩
  have through : drowsy.dispatch.1.SleepsThrough ops := by decide +kernel
  obtain ⟨-, ⟨-, resumeAt, -⟩, -, -, wakes, -⟩ := sleep_lossless halts through
  have awake : (drowsy.dispatch.1.performAll ops).bus.pending = 0x04 ∧
      (drowsy.dispatch.1.performAll ops).stores = [] ∧
      (drowsy.dispatch.1.performAll ops).dispatch.1.cpu.halted = false := by decide +kernel
  obtain ⟨pending, stores, awake⟩ := awake
  rw [pending] at wakes
  obtain ⟨woken, -, kept⟩ := wakes (by decide) ime
  rw [here] at resumeAt
  rw [stores] at kept
  exact ⟨halts, through, pending, resumeAt, woken, awake,
    kept fun store member => absurd member List.not_mem_nil⟩

end Console

end DotMatrix
