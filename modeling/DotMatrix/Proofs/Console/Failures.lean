import DotMatrix.Proofs.Console.Reachable

/-!
What failures leave behind. A cartridge or a snapshot that is refused changes nothing, and neither
does a dispatch without a cartridge or of a console that is stuck. A dispatch that meets an undefined
opcode moves the program counter past it, wakes the processor if a request is pending, and leaves the
console stuck there, until a cartridge is put in, it is reset, or a snapshot is restored.
-/

namespace DotMatrix.Console

/-- Does the operation free a console that is stuck? -/
def frees (c : Console) : Operation → Bool
  | .reset | .insert _ => true
  | .load image => (c.perform (.load image)).2.isNone
  | .restore s => (c.perform (.restore s)).2.isNone
  | _ => false

/-- None of the operations, one after the other, frees the console. -/
def FreedByNone (c : Console) : List Operation → Prop
  | [] => True
  | op :: rest => c.frees op = false ∧ (c.perform op).1.FreedByNone rest

instance decidableFreedByNone (c : Console) : (ops : List Operation) → Decidable (c.FreedByNone ops)
  | [] => isTrue trivial
  | op :: rest =>
    have := decidableFreedByNone (c.perform op).1 rest
    inferInstanceAs (Decidable (c.frees op = false ∧ (c.perform op).1.FreedByNone rest))

section Attempts

variable {c : Console}

theorem attempt_failed {result : Except Failure Console} {failure : Failure}
    (failed : (c.attempt result).2 = some failure) : (c.attempt result).1 = c := by
  cases result with
  | ok next => cases failed
  | error _ => rfl

theorem load_failed {image : Array Byte} {failure : Failure}
    (failed : (c.perform (.load image)).2 = some failure) : (c.perform (.load image)).1 = c := by
  simp only [perform, HostCall.load_outcome] at failed ⊢
  exact attempt_failed failed

theorem restore_failed {s : Snapshot} {failure : Failure}
    (failed : (c.perform (.restore s)).2 = some failure) : (c.perform (.restore s)).1 = c := by
  simp only [perform, HostCall.restore_outcome] at failed ⊢
  exact attempt_failed failed

end Attempts

section Dispatches

variable {c : Console} {opcode : Byte} {pc : Word}

theorem dispatch_emptySlot (failed : c.dispatch.2 = .error .emptySlot) : c.dispatch.1 = c := by
  rcases dispatch_error failed with ⟨-, same⟩ | ⟨_, undefined, -⟩
  · exact same
  · cases undefined

theorem dispatch_stuck (failed : c.dispatch.2 = .error (.stuck opcode pc)) : c.dispatch.1 = c := by
  rcases dispatch_error failed with ⟨-, same⟩ | ⟨_, undefined, -⟩
  · exact same
  · cases undefined

theorem dispatch_undefined (failed : c.dispatch.2 = .error (.undefinedOpcode opcode pc)) :
    pc = c.cpu.regs.pc ∧ c.dispatch.1 = c.stuckBy opcode := by
  rcases dispatch_error failed with ⟨empty | ⟨_, _, stuck⟩, -⟩ | ⟨_, undefined, met⟩
  · cases empty
  · cases stuck
  · cases undefined
    exact ⟨rfl, met⟩

theorem performDispatch_failed {failure : Failure} :
    (c.perform .dispatch).2 = some failure ↔ c.dispatch.2 = .error failure := by
  simp only [perform]
  rcases c.dispatch with ⟨c', failure' | cycles⟩
  · simp
  · simp

theorem dispatch_of_stuck (stuck : c.stuckAt = some (opcode, pc)) :
    c.dispatch = (c, .error (.stuck opcode pc)) := by
  simp only [dispatch, stuck]

end Dispatches

section Stuck

variable {c : Console} {place : Byte × Word}

theorem runFrame_of_stuck (stuck : c.stuckAt = some place) (limit dark : Nat) :
    (c.runFrame limit dark).1 = c := by
  cases limit with
  | zero => rfl
  | succ limit => rw [runFrame_succ, dispatch_of_stuck stuck]

/-- An operation that does not free a stuck console leaves it stuck where it is. -/
theorem perform_stuck (stuck : c.stuckAt = some place) {op : Operation}
    (keeps : c.frees op = false) : (c.perform op).1.stuckAt = some place := by
  cases op with
  | reset | insert => cases keeps
  | load image =>
      cases failed : (c.perform (.load image)).2 with
      | none => simp [frees, failed] at keeps
      | some failure =>
          rw [load_failed failed]
          exact stuck
  | restore s =>
      cases failed : (c.perform (.restore s)).2 with
      | none => simp [frees, failed] at keeps
      | some failure =>
          rw [restore_failed failed]
          exact stuck
  | dispatch =>
      rw [performDispatch_fst, dispatch_of_stuck stuck]
      exact stuck
  | frame limit =>
      rw [performFrame_fst, runFrame_of_stuck stuck]
      exact stuck
  | step =>
      rw [performStep_fst]
      exact stuck
  | _ => exact stuck

theorem performAll_stuck (stuck : c.stuckAt = some place) {ops : List Operation}
    (keep : c.FreedByNone ops) : (c.performAll ops).stuckAt = some place := by
  induction ops generalizing c with
  | nil => exact stuck
  | cons op rest ih =>
      obtain ⟨first, later⟩ := keep
      exact ih (perform_stuck stuck first) later

/-- What frees a console that is stuck is a reset or a snapshot that is restored. -/
theorem perform_of_frees {op : Operation} (frees : c.frees op = true) :
    (∃ before : Console, (c.perform op).1 = before.reset) ∨
      ∃ s, (c.perform op).1 = c.restored s := by
  cases op with
  | reset => exact Or.inl ⟨c, rfl⟩
  | insert cartridge => exact Or.inl ⟨_, rfl⟩
  | load image =>
      simp only [Console.frees, perform, HostCall.load_outcome] at frees ⊢
      rw [load] at frees ⊢
      cases himage : Cartridge.ofImage image with
      | error failure =>
          rw [himage] at frees
          cases frees
      | ok cartridge => exact Or.inl ⟨_, rfl⟩
  | restore s =>
      simp only [Console.frees, perform, HostCall.restore_outcome] at frees ⊢
      cases hrestore : c.restore s with
      | error failure =>
          rw [hrestore] at frees
          cases frees
      | ok next =>
          obtain ⟨-, -, rfl⟩ := restore_ok_iff.mp hrestore
          exact Or.inr ⟨s, rfl⟩
  | _ => cases frees

theorem perform_frees {op : Operation} (frees : c.frees op = true) :
    (c.perform op).1.stuckAt = none := by
  rcases perform_of_frees frees with ⟨before, result⟩ | ⟨s, result⟩
  · rw [result]
    rfl
  · rw [result]
    rfl

end Stuck

/-- A failed load, a failed restore, and a dispatch without a cartridge or of a stuck console change
nothing. A dispatch that meets an undefined opcode changes the program counter and the sleep, and
every dispatch after it reports the same opcode and address until the console is freed. -/
theorem failures_intact (c : Console) :
    (∀ image failure, (c.perform (.load image)).2 = some failure →
      (c.perform (.load image)).1 = c) ∧
    (∀ s failure, (c.perform (.restore s)).2 = some failure → (c.perform (.restore s)).1 = c) ∧
    (c.dispatch.2 = .error .emptySlot → c.dispatch.1 = c) ∧
    (∀ opcode pc, c.dispatch.2 = .error (.stuck opcode pc) → c.dispatch.1 = c) ∧
    (∀ opcode pc, c.dispatch.2 = .error (.undefinedOpcode opcode pc) →
      pc = c.cpu.regs.pc ∧
      c.dispatch.1 = c.stuckBy opcode ∧
      (c.Reachable → c.cpu.cycles.drop = c.cpu.cycles) ∧
      ∀ ops, c.dispatch.1.FreedByNone ops →
        (c.dispatch.1.performAll ops).dispatch =
          (c.dispatch.1.performAll ops, .error (.stuck opcode pc))) ∧
    (∀ op, c.frees op = true → (c.perform op).1.stuckAt = none) := by
  refine ⟨fun _ _ => load_failed, fun _ _ => restore_failed, dispatch_emptySlot,
    fun _ _ => dispatch_stuck, ?_, fun _ => perform_frees⟩
  intro opcode pc failed
  obtain ⟨here, result⟩ := dispatch_undefined failed
  refine ⟨here, result, ?_, ?_⟩
  · intro reachable
    rw [CycleCount.drop, ← reachable.sound.settled]
  · intro ops keep
    apply dispatch_of_stuck
    apply performAll_stuck _ keep
    rw [result, here]
    rfl

def undefinedFirst : Console :=
  running #[0xD3]

theorem failures_intact_undefinedFirst :
    let stuck := undefinedFirst.dispatch.1
    let ops : List Operation := [.dispatch, .load #[0x00], .keyDown .a, .resetBus, .frame 3]
    undefinedFirst.dispatch.2 = .error (.undefinedOpcode 0xD3 0x0100) ∧
      stuck = undefinedFirst.stuckBy 0xD3 ∧ stuck.FreedByNone ops ∧
      (stuck.performAll ops).dispatch = (stuck.performAll ops, .error (.stuck 0xD3 0x0100)) := by
  intro stuck ops
  have failed : undefinedFirst.dispatch.2 = .error (.undefinedOpcode 0xD3 0x0100) := by
    rw [← performDispatch_failed]
    decide +kernel
  have keep : stuck.FreedByNone ops := by decide +kernel
  obtain ⟨-, -, -, -, undefined, -⟩ := failures_intact undefinedFirst
  obtain ⟨-, result, -, after⟩ := undefined _ _ failed
  exact ⟨failed, result, keep, after ops keep⟩

end DotMatrix.Console
