import DotMatrix.Proofs.Checked.Cpu
import DotMatrix.Proofs.Console.Reachable

/-!
The console with its checks, one operation of the host after the other. Whatever the cartridge holds,
whatever its program does and whatever the host puts in, no sum leaves its width and no index its
bounds, as long as the total of the cycles fits 64 bits.
-/

namespace DotMatrix

namespace Memory

/-- A memory replaced by as many bytes. -/
def replaceChecked (n : Nat) (bytes : Array Byte) : Checked (Memory n) :=
  if bytes.size = n then some (.ofArray n bytes) else none

theorem replaceChecked_eq {n : Nat} {bytes : Array Byte} (h : bytes.size = n) :
    replaceChecked n bytes = some (.ofArray n bytes) :=
  if_pos h

end Memory

namespace Lcd

/-- An image that is turned down is not copied. -/
def restoreChecked (lcd : Lcd) (image : LcdImage) : Checked (Except Failure Lcd) := do
  match lcd.restore image with
  | .error failure => return .error failure
  | .ok next =>
    let oam ← Memory.replaceChecked 0xA0 image.oam
    let vram ← Memory.replaceChecked 0x2000 image.vram
    return .ok { next with oam := oam, vram := vram }

theorem restoreChecked_eq (lcd : Lcd) (image : LcdImage) :
    lcd.restoreChecked image = some (lcd.restore image) := by
  cases hrestore : lcd.restore image with
  | error failure =>
      rw [restoreChecked, hrestore]
      rfl
  | ok next =>
      obtain ⟨valid, same⟩ := restore_ok_iff.mp hrestore
      have oam : Memory.replaceChecked 0xA0 image.oam = some next.oam := by
        rw [same]
        exact Memory.replaceChecked_eq valid.oam
      have vram : Memory.replaceChecked 0x2000 image.vram = some next.vram := by
        rw [same]
        exact Memory.replaceChecked_eq valid.vram
      rw [restoreChecked, hrestore]
      simp only [oam, vram, Option.bind_eq_bind, Option.bind_some]
      rfl

end Lcd

namespace Console

def bootRegistersChecked (bus : Bus) : Checked Bus :=
  [(0xFF40, 0x91), (0xFF47, 0xFC), (0xFF48, 0xFF), (0xFF49, 0xFF), (0xFFFF, 0x00)].foldlM
    (fun bus (addr, value) => bus.writeChecked addr value) bus

theorem bootRegistersChecked_eq (bus : Bus) :
    bootRegistersChecked bus = some (bootRegisters bus) :=
  Checked.foldlM_eq (fun bus store _ => bus.writeChecked_eq store.1 store.2) bus

def resetChecked (c : Console) : Checked Console := do
  return { cpu := c.cpu.reset c.wantsColour
           bus := ← bootRegistersChecked c.bus.reset
           stuckAt := none }

theorem resetChecked_eq (c : Console) : c.resetChecked = some c.reset := by
  rw [resetChecked, bootRegistersChecked_eq]
  rfl

def insertChecked (c : Console) (cartridge : Cartridge) : Checked Console := do
  let slot ← Slot.insertChecked cartridge c.bus.now
  resetChecked { c with bus.slot := some slot }

theorem insertChecked_eq (c : Console) {image : Array Byte} {cartridge : Cartridge}
    (h : Cartridge.ofImage image = .ok cartridge) :
    c.insertChecked cartridge = some (c.insert cartridge) := by
  rw [insertChecked, Slot.insertChecked_eq h, Option.bind_eq_bind, Option.bind_some]
  exact resetChecked_eq _

def loadChecked (c : Console) (image : Array Byte) : Checked (Except Failure Console) := do
  match ← Cartridge.ofImageChecked image with
  | .error failure => return .error failure
  | .ok cartridge => return .ok (← c.insertChecked cartridge)

theorem loadChecked_eq (c : Console) (image : Array Byte) :
    c.loadChecked image = some (c.load image) := by
  cases hread : Cartridge.ofImage image with
  | error failure =>
      rw [loadChecked, Cartridge.ofImageChecked_eq, load, hread]
      rfl
  | ok cartridge =>
      rw [loadChecked, Cartridge.ofImageChecked_eq, load, hread]
      simp only [c.insertChecked_eq hread, Option.bind_eq_bind, Option.bind_some]
      rfl

def restoreChecked (c : Console) (s : Snapshot) : Checked (Except Failure Console) := do
  match Snapshot.bankFlaw? c.bus.slot s.ramBanks with
  | some flaw => return .error (.badSnapshot flaw)
  | none =>
    match ← c.bus.lcd.restoreChecked s.lcd with
    | .error failure => return .error failure
    | .ok lcd =>
      let slot ← c.bus.slot.mapM (·.fillChecked s.ramBanks)
      return .ok {
        cpu := { c.cpu with regs := s.cpu.registers, resumeAt := none }
        bus := { c.bus with lcd := lcd, slot := slot }
        stuckAt := none }

theorem restoreChecked_eq (c : Console) (s : Snapshot) :
    c.restoreChecked s = some (c.restore s) := by
  unfold restoreChecked restore
  cases Snapshot.bankFlaw? c.bus.slot s.ramBanks with
  | some flaw => rfl
  | none =>
      simp only [Lcd.restoreChecked_eq, Option.bind_eq_bind, Option.bind_some,
        Checked.mapM_eq fun slot => Slot.fillChecked_eq slot s.ramBanks]
      cases c.bus.lcd.restore s.lcd with
      | error failure => rfl
      | ok lcd => rfl

def dispatchChecked (c : Console) : Checked (Console × Except Failure Nat) := do
  match c.stuckAt with
  | some (opcode, pc) => return (c, .error (.stuck opcode pc))
  | none =>
    if c.bus.slot.isNone then return (c, .error .emptySlot)
    else
      match ← c.toMachine.stepChecked with
      | (m, .ok cycles) =>
        return ({ m with bus := ← m.bus.elapseChecked cycles, stuckAt := none }, .ok cycles)
      | (m, .error failure) =>
        let stuckAt :=
          match failure with
          | .undefinedOpcode opcode pc => some (opcode, pc)
          | _ => none
        return ({ m with stuckAt := stuckAt }, .error failure)

theorem step_few {c : Console} (h : c.Sound) {cycles : Nat}
    (ok : c.toMachine.step.2 = .ok cycles) : cycles ≤ 6 := by
  rcases c.toMachine.step_cases with ⟨_, _, hstep, advances⟩ | ⟨_, _, hstep, -⟩
  · rw [hstep] at ok
    cases ok
    have most := advances.most
    rw [h.settled] at most
    exact most
  · rw [hstep] at ok
    cases ok

theorem dispatch_few {c : Console} (h : c.Sound) (cycles : Nat) (ok : c.dispatch.2 = .ok cycles) :
    cycles ≤ 6 := by
  have most := (dispatch_ok ok).most
  rw [h.settled] at most
  exact most

/-- A step takes so few cycles that the time of the devices passes the checks. -/
theorem elapse_stepped {c : Console} (h : c.Sound) {m : Machine} {cycles : Nat}
    (hstep : c.toMachine.step = (m, .ok cycles)) :
    m.bus.elapseChecked cycles = some (m.bus.elapse cycles) := by
  have sound := (step_sound h.bus).1
  have few : cycles ≤ 6 := step_few h (by rw [hstep])
  rw [hstep] at sound
  exact Bus.elapseChecked_eq sound.lcd.toPlaced (Nat.lt_of_le_of_lt few (by decide))

theorem dispatchChecked_eq {c : Console} (h : c.Sound)
    (fits : c.dispatch.1.cpu.cycles.total < 2 ^ 64) : c.dispatchChecked = some c.dispatch := by
  cases hstuck : c.stuckAt with
  | some place =>
      simp only [dispatchChecked, dispatch, hstuck]
      rfl
  | none =>
      by_cases empty : c.bus.slot.isNone
      · simp only [dispatchChecked, dispatch, hstuck, if_pos empty]
        rfl
      · simp only [dispatch, hstuck, if_neg empty] at fits
        simp only [dispatchChecked, dispatch, hstuck, if_neg empty]
        have total : c.toMachine.step.1.cpu.cycles.total < 2 ^ 64 := by
          rcases hstep : c.toMachine.step with ⟨m, failure | cycles⟩
          · rw [hstep] at fits
            exact fits
          · rw [hstep] at fits
            exact fits
        rw [Machine.stepChecked_eq h.settled total]
        rcases hstep : c.toMachine.step with ⟨m, failure | cycles⟩
        · rfl
        · simp only [elapse_stepped h hstep, Option.bind_eq_bind, Option.bind_some]
          rfl

/-- Running for a frame takes no cycles back. -/
theorem le_runFrame_total (c : Console) (limit dark : Nat) :
    c.cpu.cycles.total ≤ (c.runFrame limit dark).1.cpu.cycles.total := by
  refine runFrame_induction (motive := fun c' => c.cpu.cycles.total ≤ c'.cpu.cycles.total) ?_
    limit dark (Nat.le_refl _)
  intro c' earlier
  rw [dispatch_total]
  omega

theorem dispatch_le_runFrame_total (c : Console) (limit dark : Nat) :
    c.dispatch.1.cpu.cycles.total ≤ (c.runFrame (limit + 1) dark).1.cpu.cycles.total := by
  rw [runFrame_succ]
  rcases c.dispatch with ⟨c', failure | cycles⟩
  · exact Nat.le_refl _
  · dsimp only
    split
    · exact Nat.le_refl _
    · split
      · exact c'.le_runFrame_total limit 0
      · split
        · exact Nat.le_refl _
        · exact c'.le_runFrame_total limit (dark + cycles)

/-- Time for the display off without a break, counted as running for a frame counts it. -/
def runFrameChecked (limit dark : Nat) (c : Console) : Checked (Console × FrameEnd) :=
  match limit with
  | 0 => return (c, .unfinished)
  | limit + 1 => do
    match ← c.dispatchChecked with
    | (c, .error failure) => return (c, .failed failure)
    | (c, .ok cycles) =>
      if c.bus.lcd.flushed then return (c, .flushed)
      else if c.bus.lcd.enabled then runFrameChecked limit 0 c
      else
        let dark ← Checked.add 32 dark cycles
        if Screen.frameCycles ≤ dark then return (c, .dark)
        else runFrameChecked limit dark c

theorem runFrameChecked_eq {c : Console} (h : c.Sound) {limit dark : Nat}
    (short : dark < Screen.frameCycles)
    (fits : (c.runFrame limit dark).1.cpu.cycles.total < 2 ^ 64) :
    c.runFrameChecked limit dark = some (c.runFrame limit dark) := by
  induction limit generalizing c dark with
  | zero => rfl
  | succ limit ih =>
      have sound := dispatch_sound h
      have dispatched : c.dispatchChecked = some c.dispatch :=
        dispatchChecked_eq h (Nat.lt_of_le_of_lt (c.dispatch_le_runFrame_total limit dark) fits)
      have few := dispatch_few h
      unfold runFrameChecked
      rw [runFrame_succ] at fits ⊢
      rw [dispatched, Option.bind_eq_bind, Option.bind_some]
      rcases hd : c.dispatch with ⟨c', failure | cycles⟩
      · rfl
      · rw [hd] at sound fits
        have frame : Screen.frameCycles = 17556 := rfl
        have most := few cycles (by rw [hd])
        have time : dark + cycles < 2 ^ 32 := by omega
        simp only [Checked.add_eq time, Option.bind_eq_bind, Option.bind_some]
        dsimp only at fits
        split
        · rfl
        next noFlush =>
          rw [if_neg noFlush] at fits
          split
          next lit =>
            rw [if_pos lit] at fits
            exact ih sound (by decide) fits
          next unlit =>
            rw [if_neg unlit] at fits
            split
            · rfl
            next shorter =>
              rw [if_neg shorter] at fits
              exact ih sound (Nat.lt_of_not_le shorter) fits

end Console

end DotMatrix
