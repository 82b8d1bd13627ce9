import DotMatrix.Proofs.Checked.Console

/-!
Operations of the host with their checks, and runs of them. From any console that operations lead to, a
run in which the total of the cycles fits 64 bits passes every check and does what it does without
them; and wherever it leads, the line is one that the mode can have.
-/

namespace DotMatrix

/-- What a host can ask for: a cartridge is one that was read from an image, and a device that runs
alone runs for a time whose clock ticks fit 32 bits. -/
def Operation.Admitted : Operation → Prop
  | insert cartridge => Cartridge.ofImage cartridge.image = .ok cartridge
  | stepLcd cycles | stepTimer cycles => cycles < 2 ^ 30
  | _ => True

/-- The steps of the processor that an operation makes, at most. -/
def Operation.steps : Operation → Nat
  | dispatch | step => 1
  | frame limit => limit
  | _ => 0

namespace Console

variable {c : Console}

/-- The operations that neither use the bus nor let time pass nor copy are left as they are. -/
def performChecked (c : Console) : Operation → Checked (Console × Option Failure)
  | .reset => return (← c.resetChecked, none)
  | .insert cartridge => return (← c.insertChecked cartridge, none)
  | .load image => return c.attempt (← c.loadChecked image)
  | .restore s => return c.attempt (← c.restoreChecked s)
  | .dispatch => do
    match ← c.dispatchChecked with
    | (c, .ok _) => return (c, none)
    | (c, .error failure) => return (c, some failure)
  | .frame limit => do
    match ← c.runFrameChecked limit 0 with
    | (c, .failed failure) => return (c, some failure)
    | (c, _) => return (c, none)
  | .step => do
    match ← c.toMachine.stepChecked with
    | (m, .ok _) => return ({ c with toMachine := m }, none)
    | (m, .error failure) => return ({ c with toMachine := m }, some failure)
  | .write addr value => return ({ c with bus := ← c.bus.writeChecked addr value }, none)
  | .stepLcd cycles => do
    let (lcd, _) ← c.bus.lcd.stepChecked cycles
    return ({ c with bus.lcd := lcd }, none)
  | .stepTimer cycles => do
    let (timer, _) ← c.bus.timer.stepChecked cycles
    return ({ c with bus.timer := timer }, none)
  | .fillRam banks =>
    return ({ c with bus.slot := ← c.bus.slot.mapM (·.fillChecked banks) }, none)
  | op => return c.perform op

theorem performChecked_eq (h : c.Sound) {op : Operation} (admitted : op.Admitted)
    (fits : (c.perform op).1.cpu.cycles.total < 2 ^ 64) :
    c.performChecked op = some (c.perform op) := by
  cases op with
  | reset =>
      rw [performChecked, resetChecked_eq]
      rfl
  | insert cartridge =>
      rw [performChecked, c.insertChecked_eq admitted]
      rfl
  | load image =>
      rw [performChecked, loadChecked_eq, perform, HostCall.load_outcome]
      rfl
  | restore s =>
      rw [performChecked, restoreChecked_eq, perform, HostCall.restore_outcome]
      rfl
  | dispatch =>
      rw [performDispatch_fst] at fits
      rw [performChecked, dispatchChecked_eq h fits, perform, Option.bind_eq_bind, Option.bind_some]
      rcases c.dispatch with ⟨c', failure | cycles⟩ <;> rfl
  | frame limit =>
      rw [performFrame_fst] at fits
      rw [performChecked, runFrameChecked_eq h (by decide) fits, perform, Option.bind_eq_bind,
        Option.bind_some]
      rcases c.runFrame limit 0 with ⟨c', ending⟩
      cases ending <;> rfl
  | step =>
      rw [performStep_fst] at fits
      rw [performChecked, Machine.stepChecked_eq h.settled fits, perform, Option.bind_eq_bind,
        Option.bind_some]
      rcases c.toMachine.step with ⟨m, failure | cycles⟩ <;> rfl
  | write addr value =>
      rw [performChecked, Bus.writeChecked_eq]
      rfl
  | stepLcd cycles =>
      have short : cycles < 2 ^ 31 := Nat.lt_trans admitted (by decide)
      rw [performChecked, Lcd.stepChecked_eq h.bus.lcd.toPlaced short]
      rfl
  | stepTimer cycles =>
      rw [performChecked, Timer.stepChecked_eq _ admitted]
      rfl
  | fillRam banks =>
      rw [performChecked, Checked.mapM_eq fun slot => Slot.fillChecked_eq slot banks]
      rfl
  | keyDown | keyUp | plug | collect | setNow | setRegisters | request | resetBus | setOam => rfl

def performAllChecked (c : Console) (ops : List Operation) : Checked Console :=
  ops.foldlM (fun c op => do return (← c.performChecked op).1) c

theorem performAllChecked_eq (h : c.Sound) {ops : List Operation}
    (admitted : ∀ op ∈ ops, op.Admitted)
    (fits : ∀ before, before <+: ops → (c.performAll before).cpu.cycles.total < 2 ^ 64) :
    c.performAllChecked ops = some (c.performAll ops) := by
  induction ops generalizing c with
  | nil => rfl
  | cons op rest ih =>
      have first : (c.perform op).1.cpu.cycles.total < 2 ^ 64 :=
        fits [op] ⟨rest, rfl⟩
      have later : ∀ before, before <+: rest →
          ((c.perform op).1.performAll before).cpu.cycles.total < 2 ^ 64 := by
        intro before shorter
        exact fits (op :: before) (List.cons_prefix_cons.mpr ⟨rfl, shorter⟩)
      rw [performAllChecked, List.foldlM_cons,
        performChecked_eq h (admitted op List.mem_cons_self) first]
      exact ih (perform_sound h op) (fun op member => admitted op (List.mem_cons_of_mem _ member))
        later

section Totals

theorem dispatch_total_le (h : c.Sound) :
    c.dispatch.1.cpu.cycles.total ≤ c.cpu.cycles.total + 6 := by
  rw [dispatch_total]
  apply Nat.add_le_add_left
  unfold dispatchCycles
  cases ok : c.dispatch.2 with
  | ok cycles => exact dispatch_few h cycles ok
  | error failure => exact Nat.zero_le 6

theorem runFrame_total_le (h : c.Sound) (limit dark : Nat) :
    (c.runFrame limit dark).1.cpu.cycles.total ≤ c.cpu.cycles.total + 6 * limit := by
  induction limit generalizing c dark with
  | zero => exact Nat.le_refl _
  | succ limit ih =>
      have first := dispatch_total_le h
      have sound := dispatch_sound h
      rw [runFrame_succ]
      rcases hd : c.dispatch with ⟨c', failure | cycles⟩
      · rw [hd] at first
        dsimp only at first ⊢
        omega
      · rw [hd] at first sound
        have lit := ih sound 0
        have unlit := ih sound (dark + cycles)
        dsimp only at first ⊢
        grind

theorem step_total_le (h : c.Sound) :
    c.toMachine.step.1.cpu.cycles.total ≤ c.cpu.cycles.total + 6 := by
  rcases c.toMachine.step_cases with ⟨cycles, m, hstep, advances⟩ | ⟨_, m, hstep, refuses⟩
  · have few := step_few h (by rw [hstep])
    rw [hstep]
    dsimp only
    rw [advances.count]
    exact Nat.add_le_add_left few _
  · rw [hstep, refuses.result]
    exact Nat.le_add_right _ 6

/-- No operation takes more cycles than its steps can take. -/
theorem perform_total_le (h : c.Sound) (op : Operation) :
    (c.perform op).1.cpu.cycles.total ≤ c.cpu.cycles.total + 6 * op.steps := by
  cases op with
  | reset | insert => exact Nat.zero_le _
  | load image =>
      rw [perform, HostCall.load_outcome, load]
      cases Cartridge.ofImage image with
      | error failure => exact Nat.le_add_right _ _
      | ok cartridge => exact Nat.zero_le _
  | restore s =>
      rw [perform, HostCall.restore_outcome]
      cases hrestore : c.restore s with
      | error failure => exact Nat.le_add_right _ _
      | ok next =>
          obtain ⟨-, -, rfl⟩ := restore_ok_iff.mp hrestore
          exact Nat.le_add_right _ _
  | dispatch =>
      rw [performDispatch_fst]
      exact dispatch_total_le h
  | frame limit =>
      rw [performFrame_fst]
      exact runFrame_total_le h limit 0
  | step =>
      rw [performStep_fst]
      exact step_total_le h
  | keyDown | keyUp | plug | collect | setNow | setRegisters | write | request | resetBus | stepLcd
    | stepTimer | setOam | fillRam => exact Nat.le_add_right _ _

theorem performAll_total_le (h : c.Sound) (ops : List Operation) :
    (c.performAll ops).cpu.cycles.total ≤ c.cpu.cycles.total + 6 * (ops.map (·.steps)).sum := by
  induction ops generalizing c with
  | nil => exact Nat.le_refl _
  | cons op rest ih =>
      have first := perform_total_le h op
      have later := ih (perform_sound h op)
      rw [List.map_cons, List.sum_cons]
      change ((c.perform op).1.performAll rest).cpu.cycles.total ≤ _
      omega

/-- A run of so few steps that their cycles fit keeps the total below its width throughout. -/
theorem total_lt_of_steps (h : c.Sound) {ops before : List Operation} (shorter : before <+: ops)
    (few : c.cpu.cycles.total + 6 * (ops.map (·.steps)).sum < 2 ^ 64) :
    (c.performAll before).cpu.cycles.total < 2 ^ 64 := by
  obtain ⟨rest, rfl⟩ := shorter
  rw [List.map_append, List.sum_append] at few
  have most := performAll_total_le h before
  omega

end Totals

/-- Nothing that a program or a host does makes a sum leave its width or an index its bounds: with the
checks, a run comes to what it comes to without them, and so does a read at any address afterwards. The
line stays one of the frame, and on the screen outside of the vertical blank. -/
theorem runs_pass_checks (reachable : c.Reachable) (ops : List Operation)
    (admitted : ∀ op ∈ ops, op.Admitted)
    (fits : ∀ before, before <+: ops → (c.performAll before).cpu.cycles.total < 2 ^ 64) :
    c.performAllChecked ops = some (c.performAll ops) ∧
      (∀ addr, (c.performAll ops).bus.readChecked addr = some ((c.performAll ops).bus.read addr)) ∧
      (c.performAll ops).bus.lcd.line.toNat ≤ 153 ∧
      ((c.performAll ops).bus.lcd.mode ≠ .vblank →
        (c.performAll ops).bus.lcd.line.toNat ≤ 143) := by
  have placed := (reachable.performAll ops).sound.bus.lcd
  refine ⟨performAllChecked_eq reachable.sound admitted fits, ?_, placed.last, ?_⟩
  · intro addr
    exact Bus.readChecked_eq _ addr
  · intro outside
    exact Nat.le_of_lt_succ (placed.visible outside)

/-- A snapshot in the last line of the vertical blank, with the display on. -/
def lastLineSnapshot : Snapshot :=
  { cpu := .ofRegisters (.postBoot false)
    lcd :=
      { Lcd.initial.image with
        control := 0xF3
        status := Mode.vblank.code
        windowX := 0xFF
        line := 153 }
    ramBanks := #[] }

/-- A program that sleeps, put in and run for frames, with a foreign snapshot restored, a key pressed,
the wall time moved and the sprite memory filled on the way. -/
def session : List Operation :=
  [.load (programImage #[0xFB, 0x76, 0x18, 0xFC]), .frame 20000, .restore lastLineSnapshot,
    .frame 20000, .keyDown .start, .setNow 0xFFFFFFFFFFFFFFFF, .write 0xFF46 0xFE, .stepLcd 17556,
    .reset, .dispatch]

theorem runs_pass_checks_session :
    (initial 0).performAllChecked session = some ((initial 0).performAll session) ∧
      (∀ addr, ((initial 0).performAll session).bus.readChecked addr =
        some (((initial 0).performAll session).bus.read addr)) ∧
      ((initial 0).performAll session).bus.lcd.line.toNat ≤ 153 ∧
      (((initial 0).performAll session).bus.lcd.mode ≠ .vblank →
        ((initial 0).performAll session).bus.lcd.line.toNat ≤ 143) := by
  have few : (initial 0).cpu.cycles.total + 6 * (session.map (·.steps)).sum < 2 ^ 64 := by
    decide
  apply runs_pass_checks (.initial 0) session
  · simp only [session, List.mem_cons, List.not_mem_nil, or_false, forall_eq_or_imp, forall_eq,
      Operation.Admitted]
    decide
  · intro before shorter
    exact total_lt_of_steps (Reachable.initial 0).sound shorter few

end Console

end DotMatrix
