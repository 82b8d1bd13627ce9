import DotMatrix.Console
import DotMatrix.Proofs.Bus.Write
import DotMatrix.Proofs.Cpu.Step

/-!
What a dispatch comes to, and runs of dispatches. A dispatch fails at once if the console is stuck
or the slot is empty; otherwise it is a step of the processor, and if that succeeds the bus runs for
as many cycles.
-/

namespace DotMatrix

namespace Bus

@[simp] theorem elapse_lcd (bus : Bus) (cycles : Nat) :
    (bus.elapse cycles).lcd = (bus.lcd.step cycles).1 := by
  simp only [elapse, requestIf_lcd]
  rfl

@[simp] theorem elapse_timer (bus : Bus) (cycles : Nat) :
    (bus.elapse cycles).timer = (bus.timer.step cycles).1 := by
  simp only [elapse, requestIf_timer]
  rfl

@[simp] theorem elapse_slot (bus : Bus) (cycles : Nat) : (bus.elapse cycles).slot = bus.slot := by
  simp only [elapse, requestIf_slot]
  rfl

@[simp] theorem elapse_enabled (bus : Bus) (cycles : Nat) :
    (bus.elapse cycles).enabled = bus.enabled := by
  simp only [elapse, requestIf_enabled]
  rfl

end Bus

namespace Machine

@[simp] theorem answered_lcd (m : Machine) : m.answered.lcd = m.bus.lcd := by
  unfold answered
  split <;> rfl

@[simp] theorem answered_timer (m : Machine) : m.answered.timer = m.bus.timer := by
  unfold answered
  split <;> rfl

@[simp] theorem answered_slot (m : Machine) : m.answered.slot = m.bus.slot := by
  unfold answered
  split <;> rfl

end Machine

namespace Console

/-- The stores of the next dispatch. -/
def stores (c : Console) : List Store :=
  if c.stuckAt.isSome || c.bus.slot.isNone then [] else c.toMachine.stores

/-- The bus that a dispatch runs, after the stores of the processor. -/
def stored (c : Console) : Bus :=
  c.answered.writeAll c.stores

theorem stores_nodup (c : Console) : (c.stores.map Store.addr).Nodup := by
  unfold stores
  split
  · exact List.nodup_nil
  · exact c.toMachine.stores_nodup

/-- The stores of a dispatch leave the LCD controller at its place or switch it. -/
theorem stored_lcd_cases (c : Console) :
    c.bus.lcd.Abreast c.stored.lcd ∨ c.bus.lcd.Switched c.stored.lcd := by
  rw [← c.answered_lcd]
  exact Bus.writeAll_lcd_cases c.stores_nodup

/-- What a dispatch of a number of cycles does to the bus and to the count of the cycles. -/
structure Passes (c : Console) (cycles : Nat) (c' : Console) : Prop where
  bus : c'.bus = c.stored.elapse cycles
  count : c'.cpu.cycles = ⟨0, c.cpu.cycles.total + cycles⟩
  least : c.cpu.cycles.pending + 1 ≤ cycles
  most : cycles ≤ c.cpu.cycles.pending + 6
  free : c'.stuckAt = none

section Step

variable {c : Console}

theorem isNone_of_filled (filled : c.bus.slot ≠ none) : c.bus.slot.isNone = false := by
  simpa only [Option.isNone_eq_false_iff, Option.isSome_iff_ne_none] using filled

theorem dispatch_of_step {m : Machine} {cycles : Nat} (free : c.stuckAt = none)
    (filled : c.bus.slot ≠ none) (stepped : c.toMachine.step = (m, .ok cycles)) :
    c.dispatch = ({ m with bus := m.bus.elapse cycles, stuckAt := none }, .ok cycles) := by
  have full := isNone_of_filled filled
  simp only [dispatch, free, full, Bool.false_eq_true, if_false, stepped]

theorem dispatch_cpu (free : c.stuckAt = none) (filled : c.bus.slot ≠ none) :
    c.dispatch.1.cpu = c.toMachine.step.1.cpu := by
  have full := isNone_of_filled filled
  simp only [dispatch, free, full, Bool.false_eq_true, if_false]
  rcases c.toMachine.step with ⟨m, failure | cycles⟩
  · rfl
  · rfl

end Step

theorem dispatch_cases (c : Console) :
    (∃ opcode pc, c.stuckAt = some (opcode, pc) ∧ c.dispatch = (c, .error (.stuck opcode pc))) ∨
    (c.stuckAt = none ∧ c.bus.slot = none ∧ c.dispatch = (c, .error .emptySlot)) ∨
    (∃ cycles c', c.dispatch = (c', .ok cycles) ∧ c.Passes cycles c') ∨
    (∃ opcode m, c.dispatch =
        ({ m with stuckAt := some (opcode, c.cpu.regs.pc) },
          .error (.undefinedOpcode opcode c.cpu.regs.pc)) ∧
      c.stuckAt = none ∧ c.toMachine.Refuses opcode m) := by
  cases hstuck : c.stuckAt with
  | some place =>
      left
      refine ⟨place.1, place.2, rfl, ?_⟩
      simp only [dispatch, hstuck]
  | none =>
      right
      cases hslot : c.bus.slot with
      | none =>
          left
          refine ⟨rfl, rfl, ?_⟩
          simp only [dispatch, hstuck, hslot, Option.isNone_none, if_true]
      | some slot =>
          right
          have here : c.stores = c.toMachine.stores := by
            simp only [stores, hstuck, hslot, Option.isSome_none, Option.isNone_some,
              Bool.or_self, Bool.false_eq_true, if_false]
          rcases c.toMachine.step_cases with ⟨cycles, m, hstep, h⟩ | ⟨opcode, m, hstep, h⟩
          · left
            simp only [dispatch, hstuck, hslot, Option.isNone_some, Bool.false_eq_true, if_false,
              hstep]
            refine ⟨_, _, rfl, ?_, h.count, h.least, h.most, rfl⟩
            rw [stored, here, ← h.bus]
          · right
            refine ⟨opcode, m, ?_, rfl, h⟩
            simp only [dispatch, hstuck, hslot, Option.isNone_some, Bool.false_eq_true, if_false,
              hstep]

theorem dispatch_ok {c : Console} {cycles : Nat} (h : c.dispatch.2 = .ok cycles) :
    c.Passes cycles c.dispatch.1 := by
  rcases c.dispatch_cases with ⟨_, _, -, hd⟩ | ⟨-, -, hd⟩ | ⟨_, c', hd, passes⟩ | ⟨_, _, hd, -⟩
  · rw [hd] at h
    cases h
  · rw [hd] at h
    cases h
  · rw [hd] at h ⊢
    cases h
    exact passes
  · rw [hd] at h
    cases h

/-- The console that has met an undefined opcode. -/
def stuckBy (c : Console) (opcode : Byte) : Console :=
  { c with
    cpu.regs.pc := c.cpu.regs.pc + 1
    cpu.resumeAt := if c.bus.pending = 0 then c.cpu.resumeAt else none
    cpu.cycles := c.cpu.cycles.drop
    stuckAt := some (opcode, c.cpu.regs.pc) }

theorem refused_eq {c : Console} {opcode : Byte} {m : Machine}
    (refuses : c.toMachine.Refuses opcode m) :
    { m with stuckAt := some (opcode, c.cpu.regs.pc) } = c.stuckBy opcode := by
  rw [refuses.result]
  unfold stuckBy Machine.awake
  by_cases pending : c.bus.pending = 0
  · simp only [pending, bne_self_eq_false, Bool.false_eq_true, if_false, if_true]
  · have awake : (c.bus.pending != 0) = true := by simpa using pending
    simp only [pending, awake, if_true, if_false]
    rfl

/-- A failed dispatch changes nothing, or it has met an undefined opcode. -/
theorem dispatch_error {c : Console} {failure : Failure} (failed : c.dispatch.2 = .error failure) :
    ((failure = .emptySlot ∨ ∃ opcode pc, failure = .stuck opcode pc) ∧ c.dispatch.1 = c) ∨
    ∃ opcode, failure = .undefinedOpcode opcode c.cpu.regs.pc ∧
      c.dispatch.1 = c.stuckBy opcode := by
  rcases c.dispatch_cases with ⟨opcode, pc, -, hd⟩ | ⟨-, -, hd⟩ | ⟨_, _, hd, -⟩ |
    ⟨opcode, m, hd, -, refuses⟩
  · rw [hd] at failed ⊢
    cases failed
    exact Or.inl ⟨Or.inr ⟨opcode, pc, rfl⟩, rfl⟩
  · rw [hd] at failed ⊢
    cases failed
    exact Or.inl ⟨Or.inl rfl, rfl⟩
  · rw [hd] at failed
    cases failed
  · rw [hd] at failed ⊢
    cases failed
    exact Or.inr ⟨opcode, rfl, refused_eq refuses⟩

/-- The console after a number of dispatches. -/
def after (c : Console) : Nat → Console
  | 0 => c
  | n + 1 => (c.after n).dispatch.1

/-- The cycles of the next dispatch; one that fails takes none. -/
def dispatchCycles (c : Console) : Nat :=
  match c.dispatch.2 with
  | .ok cycles => cycles
  | .error _ => 0

/-- The cycles of a number of dispatches. -/
def spent (c : Console) : Nat → Nat
  | 0 => 0
  | n + 1 => c.spent n + (c.after n).dispatchCycles

section Runs

variable (c : Console)

theorem after_add (m n : Nat) : c.after (m + n) = (c.after m).after n := by
  induction n with
  | zero => rfl
  | succ n ih => exact congrArg (fun c => c.dispatch.1) ih

theorem after_one : c.after 1 = c.dispatch.1 := rfl

theorem after_dispatch (n : Nat) : c.dispatch.1.after n = c.after (n + 1) := by
  rw [Nat.add_comm, after_add, after_one]

theorem spent_succ (start count : Nat) :
    (c.after start).spent (count + 1) =
      (c.after start).spent count + (c.after (start + count)).dispatchCycles := by
  rw [spent, after_add]

theorem dispatchCycles_eq {cycles : Nat} (h : c.dispatch.2 = .ok cycles) :
    c.dispatchCycles = cycles := by
  simp only [dispatchCycles, h]

end Runs

/-- A dispatch runs the bus after the stores for the cycles it takes, or it fails, changes no device
and takes none. -/
theorem dispatch_outcome (c : Console) :
    c.Passes c.dispatchCycles c.dispatch.1 ∨
      (c.dispatch.1.bus = c.bus ∧ c.dispatch.1.cpu.cycles.total = c.cpu.cycles.total ∧
        c.dispatchCycles = 0) := by
  cases hd : c.dispatch.2 with
  | ok cycles =>
      left
      rw [c.dispatchCycles_eq hd]
      exact dispatch_ok hd
  | error failure =>
      right
      have none : c.dispatchCycles = 0 := by simp only [dispatchCycles, hd]
      rcases dispatch_error hd with ⟨-, same⟩ | ⟨opcode, -, stuck⟩
      · rw [same]
        exact ⟨rfl, rfl, none⟩
      · rw [stuck]
        exact ⟨rfl, rfl, none⟩

theorem dispatch_total (c : Console) :
    c.dispatch.1.cpu.cycles.total = c.cpu.cycles.total + c.dispatchCycles := by
  rcases c.dispatch_outcome with passes | ⟨-, total, none⟩
  · rw [passes.count]
  · rw [total, none, Nat.add_zero]

/-- The cycles of all dispatches are counted, and each once. -/
theorem after_total (c : Console) (n : Nat) :
    (c.after n).cpu.cycles.total = c.cpu.cycles.total + c.spent n := by
  induction n with
  | zero => rfl
  | succ n ih =>
      simp only [after, spent]
      rw [dispatch_total, ih, Nat.add_assoc]

end Console

end DotMatrix
