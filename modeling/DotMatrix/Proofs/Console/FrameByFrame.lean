import Mathlib.Tactic.SplitIfs
import DotMatrix.Proofs.Console.Flicker
import DotMatrix.Proofs.Console.SerialLog

/-!
Frame after frame, while the wall clock goes on. Once running for a frame has ended, it ends the same with
more steps, so the console after a number of frames does not depend on how many steps were allowed. The
serial log grows from each frame to the next. And a frame completes if no dispatch fails and the display is
not switched for ever.
-/

namespace DotMatrix

theorem Bus.elapse_setNow (bus : Bus) (now : UInt64) (cycles : Nat) :
    { bus with now := now }.elapse cycles = { bus.elapse cycles with now := now } := by
  rw [elapse_eq, elapse_eq]
  unfold requestIf
  split <;> rfl

namespace Console

/-- Does a frame end this way if nothing goes wrong? -/
def FrameEnd.completes : FrameEnd → Bool
  | flushed | dark => true
  | failed _ | unfinished => false

/-- Running for a frame leads from a console to another, and nothing goes wrong. -/
def FrameTo (clock : Nat → UInt64) (c c' : Console) : Prop :=
  ∃ limit ending, c.runFrameAt clock limit 0 = (c', ending) ∧ ending.completes = true

/-- A number of frames one after the other lead to a console. -/
def FramesTo (clock : Nat → UInt64) (c : Console) : Nat → Console → Prop
  | 0, c' => c' = c
  | n + 1, c' => ∃ before, c.FramesTo clock n before ∧ before.FrameTo clock c'

variable {clock : Nat → UInt64} {c c' c'' : Console}

/-- More steps do not change how running for a frame ends, if it ends. -/
theorem runFrameBy_more {step : Console → Console × Except Failure Nat} {limit more dark : Nat}
    {ending : FrameEnd} (ends : c.runFrameBy step limit dark = (c', ending))
    (finished : ending ≠ .unfinished) (enough : limit ≤ more) :
    c.runFrameBy step more dark = (c', ending) := by
  induction limit generalizing c dark more with
  | zero =>
      rw [runFrameBy] at ends
      exact absurd (congrArg Prod.snd ends).symm finished
  | succ limit ih =>
      obtain ⟨rest, rfl⟩ := Nat.exists_eq_add_of_le' (Nat.le_trans (Nat.le_add_left 1 limit) enough)
      have enough : limit ≤ rest := Nat.le_of_succ_le_succ enough
      unfold runFrameBy at ends ⊢
      generalize step c = outcome at ends ⊢
      rcases outcome with ⟨next, failure | cycles⟩
      · exact ends
      · dsimp only at ends ⊢
        split
        · next flushed => rwa [if_pos flushed] at ends
        · next notFlushed =>
            rw [if_neg notFlushed] at ends
            split
            · next lit =>
                rw [if_pos lit] at ends
                exact ih ends enough
            · next off =>
                rw [if_neg off] at ends
                split
                · next long => rwa [if_pos long] at ends
                · next short =>
                    rw [if_neg short] at ends
                    exact ih ends enough

theorem FrameEnd.completes_ne {ending : FrameEnd} (h : ending.completes = true) :
    ending ≠ .unfinished := by
  rintro rfl
  cases h

/-- With enough steps, a frame that completes does so. -/
theorem FrameTo.enough (h : c.FrameTo clock c') :
    ∃ limit ending, ending.completes = true ∧ ∀ more, limit ≤ more →
      c.runFrameAt clock more 0 = (c', ending) := by
  obtain ⟨limit, ending, ends, completes⟩ := h
  exact ⟨limit, ending, completes,
    fun more enough => runFrameBy_more ends (FrameEnd.completes_ne completes) enough⟩

theorem FrameTo.unique (h : c.FrameTo clock c') (h' : c.FrameTo clock c'') : c' = c'' := by
  obtain ⟨limit, ending, -, ends⟩ := h.enough
  obtain ⟨limit', ending', -, ends'⟩ := h'.enough
  have first := ends (max limit limit') (Nat.le_max_left _ _)
  have second := ends' (max limit limit') (Nat.le_max_right _ _)
  exact congrArg Prod.fst (first.symm.trans second)

/-- What dispatches and the time keep, running for a frame keeps while the clock goes on. -/
theorem runFrameAt_induction {motive : Console → Prop} (keep : ∀ c, motive c → motive c.dispatch.1)
    (moved : ∀ c now, motive c → motive (c.setNow now)) (limit dark : Nat) (start : motive c) :
    motive (c.runFrameAt clock limit dark).1 :=
  runFrameBy_induction (fun c h => keep _ (moved c _ h)) limit dark start

theorem runFrameAt_log (clock : Nat → UInt64) (c : Console) (limit dark : Nat) :
    c.bus.serial.log.toList <+: (c.runFrameAt clock limit dark).1.bus.serial.log.toList :=
  runFrameAt_induction
    (motive := fun c' => c.bus.serial.log.toList <+: c'.bus.serial.log.toList)
    (fun c' before => before.trans c'.dispatch_log) (fun _ _ before => before) limit dark
    (List.prefix_refl _)

theorem FrameTo.log (h : c.FrameTo clock c') :
    c.bus.serial.log.toList <+: c'.bus.serial.log.toList := by
  obtain ⟨limit, ending, ends, -⟩ := h
  have grows := c.runFrameAt_log clock limit 0
  rwa [ends] at grows

theorem FramesTo.unique {n : Nat} (h : c.FramesTo clock n c') (h' : c.FramesTo clock n c'') :
    c' = c'' := by
  induction n generalizing c' c'' with
  | zero => exact Eq.trans h (Eq.symm h')
  | succ n ih =>
      obtain ⟨before, earlier, last⟩ := h
      obtain ⟨before', earlier', last'⟩ := h'
      obtain rfl := ih earlier earlier'
      exact last.unique last'

/-- What was sent in some frames is the beginning of what was sent in those and more. -/
theorem FramesTo.log {m n : Nat} (h : c.FramesTo clock m c') (h' : c.FramesTo clock n c'')
    (order : m ≤ n) : c'.bus.serial.log.toList <+: c''.bus.serial.log.toList := by
  induction n generalizing c'' with
  | zero =>
      obtain rfl := Nat.le_zero.mp order
      obtain rfl := h.unique h'
      exact List.prefix_refl _
  | succ n ih =>
      rcases Nat.lt_or_eq_of_le order with fewer | rfl
      · obtain ⟨before, earlier, last⟩ := h'
        exact (ih earlier (Nat.le_of_lt_succ fewer)).trans last.log
      · obtain rfl := h.unique h'
        exact List.prefix_refl _

/-- Running for a frame fails only if a dispatch does. -/
theorem runFrame_failed {failure : Failure} {limit dark : Nat}
    (failed : (c.runFrame limit dark).2 = .failed failure) :
    ∃ n, (c.after n).dispatch.2 = .error failure := by
  induction limit generalizing c dark with
  | zero => cases failed
  | succ limit ih =>
      have later {dark : Nat} (failed : (c.dispatch.1.runFrame limit dark).2 = .failed failure) :
          ∃ n, (c.after n).dispatch.2 = .error failure := by
        obtain ⟨n, error⟩ := ih failed
        rw [after_dispatch] at error
        exact ⟨n + 1, error⟩
      rw [runFrame_succ] at failed
      rcases hd : c.dispatch with ⟨next, other | cycles⟩
      · rw [hd] at failed
        obtain rfl : other = failure := FrameEnd.failed.inj failed
        exact ⟨0, congrArg Prod.snd hd⟩
      · simp only [hd] at failed later
        split at failed
        · cases failed
        · split at failed
          · exact later failed
          · split at failed
            · cases failed
            · exact later failed

/-- If no dispatch fails and the display is not switched any more from some dispatch on, the frame
completes. -/
theorem exists_completes_of_stays (h : c.Sound)
    (runs : ∀ n, ∃ cycles, (c.after n).dispatch.2 = .ok cycles) {start : Nat} {on : Bool}
    (stays : ∀ count, c.Stays on start count) :
    ∃ limit, (c.runFrame limit 0).2.completes = true := by
  obtain ⟨limit, ends⟩ : ∃ limit, (c.runFrame limit 0).2 ≠ .unfinished := by
    apply Classical.byContradiction
    intro never
    apply not_flickersForever_of_stays stays
    apply flickersForever_of_unfinished h
    intro limit
    exact Decidable.byContradiction fun ends => never ⟨limit, ends⟩
  refine ⟨limit, ?_⟩
  cases ending : (c.runFrame limit 0).2 with
  | flushed | dark => rfl
  | unfinished => exact absurd ending ends
  | failed failure =>
      obtain ⟨n, error⟩ := runFrame_failed ending
      obtain ⟨cycles, ok⟩ := runs n
      rw [ok] at error
      cases error

/-- The console is in a jump to itself, with the display on. -/
structure Spins (slot : Slot) (c : Console) : Prop where
  undisturbed : c.Undisturbed slot
  here : c.cpu.regs.pc = 0x100
  jump : slot.read 0x100 = 0x18
  distance : slot.read 0x101 = 0xFE
  lit : c.lit = true

namespace Spins

variable {slot : Slot}

theorem ready (h : Spins slot c) : c.ReadyFor (.jumpRelative .always) := by
  apply h.undisturbed.readyFor
  · rw [h.here]
    decide
  · rw [h.here, h.jump]
    rfl
  · decide

theorem dispatch (h : Spins slot c) :
    c.dispatch.2 = .ok 3 ∧ Spins slot c.dispatch.1 ∧
      c.dispatch.1.bus.serial.log = c.bus.serial.log := by
  have ready := h.ready
  have distance : c.bus.read (c.cpu.regs.pc + 1) = 0xFE := by
    rw [h.here]
    exact (h.undisturbed.read (by decide)).trans h.distance
  have there : (c.executed (.jumpRelative .always)).cpu.regs.pc = 0x100 := by
    change c.cpu.regs.pc + 1 + 1 +
      (Word.ofBytes 0 (c.bus.read (c.cpu.regs.pc + 1))).low.signExtend = 0x100
    rw [distance, h.here]
    rfl
  have bus : (c.executed (.jumpRelative .always)).bus = c.bus := rfl
  have hd := dispatch_executes ready
  refine ⟨by rw [hd]; rfl, ⟨?_, ?_, h.jump, h.distance, ?_⟩, ?_⟩
  · apply h.undisturbed.dispatch ready <;> rfl
  · rw [hd]
    exact there
  · rw [hd]
    simpa only [Console.lit, Bus.elapse_lcd, Lcd.step_enabled, bus] using h.lit
  · rw [hd]
    simp only [Bus.elapse_serial, bus]

theorem after (h : Spins slot c) (n : Nat) : Spins slot (c.after n) := by
  induction n with
  | zero => exact h
  | succ n ih => exact ih.dispatch.2.1

theorem setNow (h : Spins slot c) (now : UInt64) : Spins slot (c.setNow now) :=
  ⟨⟨⟨h.undisturbed.sound.bus.congr rfl rfl, h.undisturbed.sound.settled⟩, h.undisturbed.free,
    h.undisturbed.slot, h.undisturbed.disabled, h.undisturbed.up⟩, h.here, h.jump, h.distance, h.lit⟩

/-- The jump does not look at the wall time. -/
theorem dispatch_setNow (h : Spins slot c) (now : UInt64) :
    (c.setNow now).dispatch = (c.dispatch.1.setNow now, c.dispatch.2) := by
  have bus : ((c.setNow now).executed (.jumpRelative .always)).bus =
      { (c.executed (.jumpRelative .always)).bus with now := now } := rfl
  rw [dispatch_executes h.ready, dispatch_executes (h.setNow now).ready, bus, Bus.elapse_setNow]
  rfl

/-- So a frame ends the same under any clock. -/
theorem runFrameAt_eq (h : Spins slot c) (clock : Nat → UInt64) (limit dark : Nat) (now : UInt64) :
    ∃ later, (c.setNow now).runFrameAt clock limit dark =
      ((c.runFrame limit dark).1.setNow later, (c.runFrame limit dark).2) := by
  induction limit generalizing c dark now with
  | zero => exact ⟨now, rfl⟩
  | succ limit ih =>
      obtain ⟨ok, spins, -⟩ := h.dispatch
      have moved : (c.setNow now).dispatchAt clock =
          (c.dispatch.1.setNow (clock c.cpu.cycles.total), .ok 3) := by
        rw [← ok]
        exact h.dispatch_setNow _
      have first : c.dispatch = (c.dispatch.1, .ok 3) := Prod.ext rfl ok
      have lcd (later : UInt64) : (c.dispatch.1.setNow later).bus.lcd = c.dispatch.1.bus.lcd := rfl
      rw [runFrameAt, runFrameBy, moved, runFrame_succ, first]
      simp only [lcd]
      split_ifs
      · exact ⟨_, rfl⟩
      · exact ih spins 0 _
      · exact ⟨_, rfl⟩
      · exact ih spins _ _

/-- The console completes a frame and spins on, and it has sent nothing meanwhile. -/
theorem frame (h : Spins slot c) (clock : Nat → UInt64) :
    ∃ c', c.FrameTo clock c' ∧ Spins slot c' ∧ c'.bus.serial.log = c.bus.serial.log := by
  have stays (count : Nat) : c.Stays true 0 count := fun n _ _ => (h.after n).lit
  obtain ⟨limit, completes⟩ := exists_completes_of_stays h.undisturbed.sound
    (fun n => ⟨3, (h.after n).dispatch.1⟩) stays
  obtain ⟨spins, log⟩ : Spins slot (c.runFrame limit 0).1 ∧
      (c.runFrame limit 0).1.bus.serial.log = c.bus.serial.log :=
    runFrame_induction
      (motive := fun c' => Spins slot c' ∧ c'.bus.serial.log = c.bus.serial.log)
      (fun c' ⟨spins, log⟩ => ⟨spins.dispatch.2.1, spins.dispatch.2.2.trans log⟩) limit 0 ⟨h, rfl⟩
  obtain ⟨later, ends⟩ := h.runFrameAt_eq clock limit 0 c.bus.now
  exact ⟨_, ⟨limit, _, ends, completes⟩, spins.setNow later, log⟩

end Spins

end Console

end DotMatrix
