import DotMatrix.Proofs.Console.Reachable

/-!
Processor, LCD controller and timer in lockstep. As long as a program neither clears the divider nor
switches the display off, the divider and the place in the frame are functions of the cycles that
the processor has counted.
-/

namespace DotMatrix.Console

/-- The divider and the LCD controller are where the count of the cycles says, counted from when the
display was switched on. -/
structure InStep (c : Console) : Prop where
  divider : c.bus.timer.divider.toNat = 4 * c.cpu.cycles.total % 65536
  lit : c.bus.lcd.enabled = true
  placed : c.bus.lcd.Placed
  onTime : c.bus.lcd.OnTime
  phase : c.bus.lcd.phase = c.cpu.cycles.total % Screen.frameCycles
  frames : c.bus.lcd.frames = Screen.framesBy c.cpu.cycles.total

/-- The stores of the next dispatch neither clear the divider nor switch the display off. -/
def KeepsTime (c : Console) : Prop :=
  ∀ store ∈ c.stores, store.addr ≠ 0xFF04 ∧ (store.addr = 0xFF40 → store.value.bit 7 = true)

theorem dispatch_inStep {c : Console} (h : c.InStep) (keeps : c.KeepsTime) :
    c.dispatch.1.InStep := by
  have total := c.dispatch_total
  rcases c.dispatch_outcome with passes | ⟨bus, -, none⟩
  · have abreast : c.bus.lcd.Abreast c.stored.lcd := by
      rw [← c.answered_lcd]
      apply Bus.writeAll_lcd_abreast
      intro store member control
      rw [(keeps store member).2 control, c.answered_lcd, h.lit]
    have divider : c.stored.timer.divider = c.bus.timer.divider := by
      rw [stored, Bus.writeAll_divider fun store member => (keeps store member).1, c.answered_timer]
    obtain ⟨onTime, phase, frames⟩ := Lcd.step_phase (abreast.placed h.placed)
      (abreast.onTime h.onTime) (abreast.enabled.trans h.lit) c.dispatchCycles
    have before := h.phase
    have counted := h.frames
    have ticked := h.divider
    rw [abreast.phase] at phase
    rw [abreast.phase, abreast.frames] at frames
    constructor
    case divider =>
      rw [passes.bus, Bus.elapse_timer, Timer.step_divider, divider, total]
      simp only [UInt16.toNat_add, UInt16.toNat_ofNat']
      omega
    all_goals rw [passes.bus, Bus.elapse_lcd]
    case lit => rw [Lcd.step_enabled, abreast.enabled, h.lit]
    case placed => exact Lcd.step_placed (abreast.placed h.placed).toOnLine _
    case onTime => exact onTime
    case phase =>
      rw [phase, before, total, Nat.mod_add_mod]
    case frames =>
      rw [Screen.frameCycles_eq] at before
      rw [total]
      simp only [Screen.framesBy_eq] at frames counted ⊢
      omega
  · rw [none, Nat.add_zero] at total
    constructor
    all_goals rw [bus]
    case divider => rw [total, h.divider]
    case lit => exact h.lit
    case placed => exact h.placed
    case onTime => exact h.onTime
    case phase => rw [total, h.phase]
    case frames => rw [total, h.frames]

theorem after_inStep {c : Console} (h : c.InStep) {n : Nat}
    (keeps : ∀ i < n, (c.after i).KeepsTime) : (c.after n).InStep := by
  induction n with
  | zero => exact h
  | succ n ih =>
      have earlier := ih fun i before => keeps i (Nat.lt_succ_of_lt before)
      exact dispatch_inStep earlier (keeps n (Nat.lt_succ_self n))

section Boot

variable (c : Console)

/-- The stores of the boot program after it has switched the display on. -/
def bootStores : List Store :=
  [⟨0xFF47, 0xFC⟩, ⟨0xFF48, 0xFF⟩, ⟨0xFF49, 0xFF⟩, ⟨0xFFFF, 0x00⟩]

/-- The boot program leaves the display just switched on. -/
theorem reset_switched : Lcd.initial.Switched c.reset.bus.lcd := by
  have on : Lcd.initial.Switched (c.bus.reset.write 0xFF40 0x91).lcd := by
    have fresh : c.bus.reset.lcd = .initial := rfl
    simp only [Bus.write_control, fresh]
    rcases Lcd.initial.setControl_cases 0x91 with ⟨off, -⟩ | ⟨-, switched⟩
    · exact absurd off (by decide)
    · exact switched
  have later : (c.bus.reset.write 0xFF40 0x91).lcd.Abreast
      ((c.bus.reset.write 0xFF40 0x91).writeAll bootStores).lcd :=
    Bus.writeAll_lcd_abreast (by simp [bootStores])
  exact on.abreast later

theorem reset_divider : c.reset.bus.timer.divider = 0 := by
  have later : ((c.bus.reset.write 0xFF40 0x91).writeAll bootStores).timer.divider =
      (c.bus.reset.write 0xFF40 0x91).timer.divider :=
    Bus.writeAll_divider (by simp [bootStores])
  exact later

theorem reset_total : c.reset.cpu.cycles.total = 0 := rfl

theorem reset_inStep : c.reset.InStep := by
  have switched := c.reset_switched
  have lit : c.reset.bus.lcd.enabled = true := switched.enabled
  have mode : c.reset.bus.lcd.mode = .oamScan := by rw [switched.mode, lit, if_pos rfl]
  constructor
  case divider =>
    rw [reset_divider, reset_total]
    rfl
  case lit => exact lit
  case placed => exact switched.placed
  case onTime =>
    intro blank
    rw [mode] at blank
    cases blank
  case phase =>
    rw [Lcd.phase, Lcd.modePhase, switched.line, switched.clock, mode, reset_total]
    rfl
  case frames =>
    rw [switched.frames, reset_total]
    rfl

end Boot

/-- A console that has just been reset, or into which a cartridge has just been put. -/
inductive Booted : Console → Prop where
  | reset (c : Console) : Booted c.reset
  | insert (c : Console) (cartridge : Cartridge) : Booted (c.insert cartridge)

namespace Booted

variable {c : Console}

theorem inStep (h : c.Booted) : c.InStep := by
  cases h with
  | reset c => exact c.reset_inStep
  | insert c cartridge => exact reset_inStep _

theorem total (h : c.Booted) : c.cpu.cycles.total = 0 := by
  cases h <;> rfl

end Booted

theorem running_booted (program : Array Byte) : (running program).Booted := by
  have hload := HostCall.load_outcome (initial 0) (programImage program)
  simp only [running, perform, hload, load]
  cases Cartridge.ofImage (programImage program) with
  | error failure => exact .reset _
  | ok cartridge => exact .insert (initial 0) cartridge

/-- From a reset on, after every number of dispatches, all cycles that were taken are counted, and
the divider and the place in the frame follow from the count. -/
theorem lockstep {boot : Console} (fresh : boot.Booted) {n : Nat}
    (keeps : ∀ i < n, (boot.after i).KeepsTime) :
    let c := boot.after n
    let total := c.cpu.cycles.total
    let time := total % 17556
    total = boot.spent n ∧
    c.bus.timer.divider.toNat = 4 * total % 65536 ∧
    c.bus.lcd.line.toNat = time / 114 ∧
    c.bus.lcd.mode =
      (if 144 ≤ c.bus.lcd.line.toNat then .vblank
       else if time % 114 < 20 then .oamScan
       else if time % 114 < 63 then .drawing
       else .hblank) ∧
    c.bus.lcd.mode.start + c.bus.lcd.modeClock = time % 114 ∧
    c.bus.lcd.frames = (total + 1140) / 17556 := by
  intro c total time
  have inStep : c.InStep := after_inStep fresh.inStep keeps
  have counted : total = boot.spent n := by
    have added := boot.after_total n
    rw [fresh.total, Nat.zero_add] at added
    exact added
  have phase : c.bus.lcd.phase = time := inStep.phase
  obtain ⟨line, mode, clock⟩ := Lcd.place_of_phase inStep.placed inStep.onTime
  rw [phase] at line mode clock
  exact ⟨counted, inStep.divider, line, mode, clock, inStep.frames⟩

/-- A program that scrolls the picture once and then sleeps. -/
def scrollAndSleep : Console :=
  running #[0xE0, 0x42, 0x76]

theorem lockstep_scrollAndSleep :
    scrollAndSleep.Booted ∧ (∀ i < 4, (scrollAndSleep.after i).KeepsTime) ∧
      scrollAndSleep.stores = [⟨0xFF42, 0x01⟩] ∧
      (scrollAndSleep.after 4).cpu.cycles.total = 6 ∧
      (scrollAndSleep.after 4).bus.timer.divider.toNat = 24 := by
  have fresh : scrollAndSleep.Booted := running_booted _
  have keeps : ∀ i < 4, (scrollAndSleep.after i).KeepsTime := by
    unfold KeepsTime
    decide +kernel
  have spent : scrollAndSleep.spent 4 = 6 := by decide +kernel
  have stores : scrollAndSleep.stores = [⟨0xFF42, 0x01⟩] := by decide +kernel
  obtain ⟨counted, divider, -⟩ := lockstep fresh keeps
  have counted := counted.trans spent
  rw [counted] at divider
  exact ⟨fresh, keeps, stores, counted, divider⟩

end DotMatrix.Console
