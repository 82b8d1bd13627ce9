import DotMatrix.Proofs.Cartridge.Slot
import DotMatrix.Proofs.Console.Dispatch
import DotMatrix.Proofs.Snapshot.Restore

/-!
The consoles that operations lead to, and what holds of all of them: the LCD controller is at a point
of the frame and stores four interrupt enables only, the external RAM is the one that the cartridge
has, with half-byte cells on an MBC2, and no cycles are pending between operations.
-/

namespace DotMatrix

namespace Lcd

/-- The controller is at a point of the frame, and of the status register it stores the interrupt
enables only. -/
structure Sound (lcd : Lcd) : Prop extends Placed lcd where
  masked : lcd.enables &&& enablesMask = lcd.enables

variable {lcd : Lcd}

theorem enablesMask_idem (b : Byte) : (b &&& enablesMask) &&& enablesMask = b &&& enablesMask := by
  rw [UInt8.and_assoc, UInt8.and_self]

theorem initial_sound : initial.Sound :=
  { toPlaced := restart_placed initial .vblank
    masked := rfl }

theorem step_sound (h : lcd.Sound) (cycles : Nat) : (lcd.step cycles).1.Sound :=
  { toPlaced := step_placed h.toOnLine cycles
    masked := by
      rw [step_enables]
      exact h.masked }

theorem restored_sound (lcd : Lcd) {image : LcdImage} (valid : image.Valid) :
    (lcd.restored image).Sound :=
  { last := valid.last
    visible := valid.visible
    clock := Mode.duration_pos _
    masked := enablesMask_idem image.status }

end Lcd

namespace Bus

structure Sound (bus : Bus) : Prop where
  lcd : bus.lcd.Sound
  slot : ∀ slot, bus.slot = some slot → slot.Sound

variable {bus : Bus}

/-- Only the LCD controller and the slot matter. -/
theorem Sound.congr {bus' : Bus} (h : bus.Sound) (lcd : bus'.lcd = bus.lcd)
    (slot : bus'.slot = bus.slot) : bus'.Sound :=
  ⟨lcd ▸ h.lcd, slot ▸ h.slot⟩

theorem Sound.map_slot (h : bus.Sound) {change : Slot → Slot}
    (keep : ∀ slot, slot.Sound → (change slot).Sound) (slot : Slot)
    (hslot : bus.slot.map change = some slot) : slot.Sound := by
  obtain ⟨before, hbefore, rfl⟩ := Option.map_eq_some_iff.mp hslot
  exact keep before (h.slot before hbefore)

theorem write_sound (h : bus.Sound) (addr : Word) (value : Byte) :
    (bus.write addr value).Sound := by
  refine ⟨⟨?_, ?_⟩, ?_⟩
  · rcases bus.write_lcd_cases addr value with abreast | ⟨-, switched⟩
    · exact abreast.placed h.lcd.toPlaced
    · exact switched.placed
  · rcases bus.write_enables addr value with same | new
    · rw [same]
      exact h.lcd.masked
    · rw [new]
      exact Lcd.enablesMask_idem value
  · rcases bus.write_slot addr value with same | written
    · rw [same]
      exact h.slot
    · rw [written]
      exact h.map_slot fun _ sound => Slot.write_sound sound bus.now addr value

theorem writeAll_sound (h : bus.Sound) (stores : List Store) : (bus.writeAll stores).Sound :=
  writeAll_induction (motive := Sound) h fun _ store _ sound =>
    write_sound sound store.addr store.value

theorem elapse_sound (h : bus.Sound) (cycles : Nat) : (bus.elapse cycles).Sound := by
  constructor
  · rw [elapse_lcd]
    exact Lcd.step_sound h.lcd cycles
  · rw [elapse_slot]
    exact h.slot

theorem initial_sound (now : UInt64) : (initial now).Sound := by
  refine ⟨Lcd.initial_sound, fun slot hslot => ?_⟩
  cases hslot

theorem reset_sound (h : bus.Sound) : bus.reset.Sound :=
  ⟨Lcd.initial_sound, h.map_slot fun _ sound => Slot.reset_sound sound bus.now⟩

end Bus

namespace Console

/-- What holds of every console that operations lead to. -/
structure Sound (c : Console) : Prop where
  bus : c.bus.Sound
  settled : c.cpu.cycles.pending = 0

variable {c : Console}

theorem bootRegisters_sound {bus : Bus} (h : bus.Sound) : (bootRegisters bus).Sound := by
  unfold bootRegisters
  simp only [List.foldl_cons, List.foldl_nil]
  exact Bus.write_sound (Bus.write_sound (Bus.write_sound (Bus.write_sound
    (Bus.write_sound h _ _) _ _) _ _) _ _) _ _

theorem reset_sound (h : c.bus.Sound) : c.reset.Sound :=
  ⟨bootRegisters_sound (Bus.reset_sound h), rfl⟩

theorem insert_sound (h : c.Sound) (cartridge : Cartridge) : (c.insert cartridge).Sound := by
  apply reset_sound
  refine ⟨h.bus.lcd, fun slot hslot => ?_⟩
  rw [← Option.some.inj hslot]
  exact Slot.insert_sound cartridge c.bus.now

theorem load_sound (h : c.Sound) (image : Array Byte) :
    ((HostCall.load image).outcome c).1.Sound := by
  rw [HostCall.load_outcome, load]
  cases Cartridge.ofImage image with
  | error failure => exact h
  | ok cartridge => exact insert_sound h cartridge

theorem restored_sound (h : c.Sound) {s : Snapshot} (valid : s.lcd.Valid) :
    (c.restored s).Sound :=
  ⟨⟨Lcd.restored_sound c.bus.lcd valid,
    h.bus.map_slot fun _ sound => Slot.fill_sound sound s.ramBanks⟩, h.settled⟩

theorem restore_sound (h : c.Sound) (s : Snapshot) :
    ((HostCall.restore s).outcome c).1.Sound := by
  rw [HostCall.restore_outcome]
  cases hrestore : c.restore s with
  | error failure => exact h
  | ok c' =>
      obtain ⟨-, valid, rfl⟩ := restore_ok_iff.mp hrestore
      exact restored_sound h valid

theorem answered_sound {m : Machine} (h : m.bus.Sound) : m.answered.Sound :=
  h.congr m.answered_lcd m.answered_slot

theorem step_sound {m : Machine} (h : m.bus.Sound) :
    m.step.1.bus.Sound ∧ m.step.1.cpu.cycles.pending = 0 := by
  rcases m.step_cases with ⟨cycles, m', hstep, advances⟩ | ⟨opcode, m', hstep, refuses⟩
  · rw [hstep]
    refine ⟨?_, by rw [advances.count]⟩
    rw [advances.bus]
    exact Bus.writeAll_sound (answered_sound h) m.stores
  · rw [hstep, refuses.result]
    refine ⟨?_, rfl⟩
    change m.awake.bus.Sound
    rw [m.awake_bus]
    exact h

theorem dispatch_sound (h : c.Sound) : c.dispatch.1.Sound := by
  cases hd : c.dispatch.2 with
  | ok cycles =>
      have passes := dispatch_ok hd
      refine ⟨?_, by rw [passes.count]⟩
      rw [passes.bus]
      exact Bus.elapse_sound (Bus.writeAll_sound (answered_sound h.bus) c.stores) cycles
  | error failure =>
      rcases dispatch_error hd with ⟨-, same⟩ | ⟨opcode, -, stuck⟩
      · rw [same]
        exact h
      · rw [stuck]
        exact ⟨h.bus, rfl⟩

theorem after_sound (h : c.Sound) (n : Nat) : (c.after n).Sound := by
  induction n with
  | zero => exact h
  | succ n ih => exact dispatch_sound ih

/-- What every step keeps, running for a frame keeps. -/
theorem runFrameBy_induction {motive : Console → Prop}
    {step : Console → Console × Except Failure Nat} (keep : ∀ c, motive c → motive (step c).1)
    (limit dark : Nat) (start : motive c) : motive (c.runFrameBy step limit dark).1 := by
  induction limit generalizing c dark with
  | zero => exact start
  | succ limit ih =>
      have next := keep c start
      unfold runFrameBy
      rcases hd : step c with ⟨c', failure | cycles⟩
      · rw [hd] at next
        exact next
      · rw [hd] at next
        dsimp only
        split
        · exact next
        · split
          · exact ih 0 next
          · split
            · exact next
            · exact ih (dark + cycles) next

theorem runFrame_induction {motive : Console → Prop}
    (keep : ∀ c, motive c → motive c.dispatch.1) (limit dark : Nat) (start : motive c) :
    motive (c.runFrame limit dark).1 :=
  runFrameBy_induction keep limit dark start

theorem performFrame_fst (limit : Nat) : (c.perform (.frame limit)).1 = (c.runFrame limit 0).1 := by
  simp only [perform]
  rcases c.runFrame limit 0 with ⟨c', ending⟩
  cases ending <;> rfl

theorem performDispatch_fst : (c.perform .dispatch).1 = c.dispatch.1 := by
  simp only [perform]
  rcases c.dispatch with ⟨c', failure | cycles⟩ <;> rfl

theorem performStep_fst :
    (c.perform .step).1 = { c with toMachine := c.toMachine.step.1 } := by
  simp only [perform]
  rcases c.toMachine.step with ⟨m, failure | cycles⟩ <;> rfl

theorem perform_sound (h : c.Sound) (op : Operation) : (c.perform op).1.Sound := by
  cases op with
  | reset => exact reset_sound h.bus
  | insert cartridge => exact insert_sound h cartridge
  | load image => exact load_sound h image
  | restore s => exact restore_sound h s
  | dispatch =>
      rw [performDispatch_fst]
      exact dispatch_sound h
  | frame limit =>
      rw [performFrame_fst]
      exact runFrame_induction (motive := Sound) (fun _ => dispatch_sound) limit 0 h
  | keyDown key => exact ⟨h.bus.congr (Bus.requestIf_lcd _ _ _) (Bus.requestIf_slot _ _ _), h.settled⟩
  | step =>
      rw [performStep_fst]
      exact ⟨(step_sound h.bus).1, (step_sound h.bus).2⟩
  | write addr value => exact ⟨Bus.write_sound h.bus addr value, h.settled⟩
  | resetBus => exact ⟨Bus.reset_sound h.bus, h.settled⟩
  | stepLcd cycles => exact ⟨⟨Lcd.step_sound h.bus.lcd cycles, h.bus.slot⟩, h.settled⟩
  | setOam index value =>
      have lcd := h.bus.lcd
      exact ⟨⟨⟨⟨⟨lcd.last, lcd.visible⟩, lcd.clock⟩, lcd.masked⟩, h.bus.slot⟩, h.settled⟩
  | fillRam banks =>
      exact ⟨⟨h.bus.lcd, h.bus.map_slot fun _ sound => Slot.fill_sound sound banks⟩, h.settled⟩
  | keyUp | plug | collect | setNow | setRegisters | request | stepTimer =>
      exact ⟨h.bus.congr rfl rfl, h.settled⟩

end Console

/-- Does the operation put a cartridge in? -/
def Operation.inserts : Operation → Bool
  | insert _ | load _ => true
  | _ => false

namespace Bus

theorem write_cartridge (bus : Bus) (addr : Word) (value : Byte) :
    (bus.write addr value).slot.map (·.cartridge) = bus.slot.map (·.cartridge) := by
  rcases bus.write_slot addr value with same | written
  · rw [same]
  · rw [written]
    cases bus.slot with
    | none => rfl
    | some slot => exact congrArg some (slot.write_cartridge bus.now addr value)

theorem writeAll_cartridge (bus : Bus) (stores : List Store) :
    (bus.writeAll stores).slot.map (·.cartridge) = bus.slot.map (·.cartridge) :=
  writeAll_induction (motive := fun bus' => bus'.slot.map (·.cartridge) = bus.slot.map (·.cartridge))
    rfl fun bus' store _ same => (bus'.write_cartridge store.addr store.value).trans same

end Bus

namespace Console

variable {c : Console}

theorem reset_cartridge (c : Console) : c.reset.cartridge = c.cartridge := by
  have reset : c.bus.reset.slot.map (·.cartridge) = c.bus.slot.map (·.cartridge) := by
    simp only [Bus.reset, Option.map_map]
    rfl
  refine Eq.trans ?_ reset
  unfold Console.reset bootRegisters cartridge
  simp only [List.foldl_cons, List.foldl_nil, Bus.write_cartridge]

theorem step_cartridge (m : Machine) :
    m.step.1.bus.slot.map (·.cartridge) = m.bus.slot.map (·.cartridge) := by
  rcases m.step_cases with ⟨cycles, m', hstep, advances⟩ | ⟨opcode, m', hstep, refuses⟩
  · rw [hstep, advances.bus, Bus.writeAll_cartridge, m.answered_slot]
  · rw [hstep, refuses.result]
    change m.awake.bus.slot.map (·.cartridge) = _
    rw [m.awake_bus]

theorem dispatch_cartridge (c : Console) : c.dispatch.1.cartridge = c.cartridge := by
  unfold cartridge
  rcases c.dispatch_outcome with passes | ⟨bus, -⟩
  · rw [passes.bus, Bus.elapse_slot, stored, Bus.writeAll_cartridge, c.answered_slot]
  · rw [bus]

/-- Only putting a cartridge in changes the cartridge. -/
theorem perform_cartridge (c : Console) {op : Operation} (keeps : op.inserts = false) :
    (c.perform op).1.cartridge = c.cartridge := by
  cases op with
  | insert | load => cases keeps
  | reset => exact c.reset_cartridge
  | restore s =>
      change ((HostCall.restore s).outcome c).1.cartridge = c.cartridge
      rw [HostCall.restore_outcome]
      cases hrestore : c.restore s with
      | error failure => rfl
      | ok c' =>
          obtain ⟨-, -, rfl⟩ := restore_ok_iff.mp hrestore
          exact Option.map_map _ _ c.bus.slot
  | dispatch =>
      rw [performDispatch_fst]
      exact c.dispatch_cartridge
  | frame limit =>
      rw [performFrame_fst]
      refine runFrame_induction (motive := fun c' => c'.cartridge = c.cartridge) ?_ limit 0 rfl
      intro c' same
      exact c'.dispatch_cartridge.trans same
  | keyDown key => exact congrArg (Option.map _) (Bus.requestIf_slot _ _ _)
  | step =>
      rw [performStep_fst]
      exact step_cartridge c.toMachine
  | write addr value => exact c.bus.write_cartridge addr value
  | resetBus => exact Option.map_map _ _ c.bus.slot
  | fillRam banks => exact Option.map_map _ _ c.bus.slot
  | keyUp | plug | collect | setNow | setRegisters | request | stepLcd | stepTimer | setOam => rfl

theorem performAll_cartridge (c : Console) {ops : List Operation}
    (keeps : ∀ op ∈ ops, op.inserts = false) : (c.performAll ops).cartridge = c.cartridge := by
  induction ops generalizing c with
  | nil => rfl
  | cons op rest ih =>
      have first := c.perform_cartridge (keeps op List.mem_cons_self)
      have later := ih (c.perform op).1 fun op member => keeps op (List.mem_cons_of_mem _ member)
      exact later.trans first

/-- A console that operations lead to from one that was just switched on. -/
inductive Reachable : Console → Prop where
  | initial (now : UInt64) : Reachable (.initial now)
  | perform {c : Console} (h : Reachable c) (op : Operation) : Reachable (c.perform op).1

namespace Reachable

theorem sound (h : c.Reachable) : c.Sound := by
  induction h with
  | initial now => exact reset_sound (Bus.initial_sound now)
  | perform _ op ih => exact perform_sound ih op

theorem performAll (h : c.Reachable) (ops : List Operation) : (c.performAll ops).Reachable := by
  induction ops generalizing c with
  | nil => exact h
  | cons op rest ih => exact ih (h.perform op)

end Reachable

/-- A blank image with a program at the address where the processor starts. -/
def programImage (program : Array Byte) : Array Byte :=
  Array.replicate 0x0100 0 ++ program ++
    Array.replicate (Header.minImageSize - 0x0100 - program.size) 0

/-- A console that has just been given a program to run. -/
def running (program : Array Byte) : Console :=
  ((initial 0).perform (.load (programImage program))).1

theorem running_reachable (program : Array Byte) : (running program).Reachable :=
  (Reachable.initial 0).perform (.load (programImage program))

end Console

end DotMatrix
