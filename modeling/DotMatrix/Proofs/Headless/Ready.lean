import DotMatrix.Headless.Run
import DotMatrix.Proofs.Console.SerialLog

/-!
The console that is ready to run: the cartridge of the image has just been put in, and its RAM may have
been filled from the battery file.
-/

namespace DotMatrix

namespace Console

theorem loadBattery_sound {c : Console} (h : c.Sound) (data : Array Byte) :
    (c.loadBattery data).Sound := by
  unfold loadBattery
  split
  · next slot hslot =>
      split
      · refine ⟨⟨h.bus.lcd, fun slot' hslot' => ?_⟩, h.settled⟩
        obtain rfl := Option.some.inj hslot'
        exact Slot.fill_sound (h.bus.slot slot hslot) _
      · exact h
  · exact h

theorem loadBattery_serial (c : Console) (data : Array Byte) :
    (c.loadBattery data).bus.serial = c.bus.serial := by
  unfold loadBattery
  split
  · split <;> rfl
  · rfl

/-- The cartridge is in the slot, with the RAM that it has. -/
structure Carries (c : Console) (cartridge : Cartridge) : Prop where
  sound : c.Sound
  carried : c.cartridge = some cartridge

variable {c c' : Console} {cartridge : Cartridge}

theorem insert_carries (now : UInt64) (cartridge : Cartridge) :
    ((initial now).insert cartridge).Carries cartridge where
  sound := insert_sound (Reachable.initial now).sound cartridge
  carried := reset_cartridge _

namespace Carries

theorem dispatch (h : c.Carries cartridge) : c.dispatch.1.Carries cartridge where
  sound := dispatch_sound h.sound
  carried := c.dispatch_cartridge.trans h.carried

theorem setNow (h : c.Carries cartridge) (now : UInt64) : (c.setNow now).Carries cartridge where
  sound := ⟨h.sound.bus.congr rfl rfl, h.sound.settled⟩
  carried := h.carried

theorem slot (h : c.Carries cartridge) :
    ∃ slot, c.bus.slot = some slot ∧ slot.cartridge = cartridge ∧
      slot.ram.Fits cartridge.header := by
  obtain ⟨slot, hslot, rfl⟩ := Option.map_eq_some_iff.mp h.carried
  exact ⟨slot, hslot, rfl, h.sound.bus.slot slot hslot⟩

theorem loadBattery (h : c.Carries cartridge) (data : Array Byte) :
    (c.loadBattery data).Carries cartridge := by
  obtain ⟨slot, hslot, rfl, -⟩ := h.slot
  refine ⟨loadBattery_sound h.sound data, ?_⟩
  rw [Console.loadBattery, hslot]
  dsimp only
  split
  · rfl
  · exact h.carried

end Carries

end Console

namespace Headless

variable {rom : String} {image battery : ReadResult} {bytes : Array Byte} {settings : Settings}
  {now : UInt64} {c : Console} {cartridge : Cartridge}

/-- With an image that is accepted, all that can go wrong is the battery file. -/
theorem prepare_eq (accepted : Cartridge.ofImage bytes = .ok cartridge) :
    prepare rom (.ok bytes) battery settings now =
      if settings.saveRam then loadBattery rom battery ((Console.initial now).insert cartridge)
      else .ok ((Console.initial now).insert cartridge) := by
  have load : (Console.initial now).load bytes = .ok ((Console.initial now).insert cartridge) := by
    rw [Console.load, accepted]
    rfl
  simp only [prepare, pure_bind, load]
  rfl

theorem loadBattery_ok {filled : Console} (ok : loadBattery rom battery c = .ok filled) :
    filled = c ∨ ∃ data, filled = c.loadBattery data := by
  unfold loadBattery at ok
  split at ok
  · exact Or.inl (Except.ok.inj ok).symm
  · split at ok
    · next data => exact Or.inr ⟨data, (Except.ok.inj ok).symm⟩
    · exact Or.inl (Except.ok.inj ok).symm
    · cases ok

/-- A console that is ready has the cartridge of an image that is accepted. -/
theorem prepare_ok (ready : prepare rom image battery settings now = .ok c) :
    ∃ bytes cartridge, image = .ok bytes ∧ Cartridge.ofImage bytes = .ok cartridge ∧
      (c = (Console.initial now).insert cartridge ∨
        ∃ data, c = ((Console.initial now).insert cartridge).loadBattery data) := by
  cases image with
  | error fault => cases ready
  | ok bytes =>
      cases accepted : Cartridge.ofImage bytes with
      | error failure =>
          have load : (Console.initial now).load bytes = .error failure := by
            rw [Console.load, accepted]
            rfl
          simp only [prepare, pure_bind, load] at ready
          cases ready
      | ok cartridge =>
          rw [prepare_eq accepted] at ready
          refine ⟨bytes, cartridge, rfl, accepted, ?_⟩
          split at ready
          · exact loadBattery_ok ready
          · exact Or.inl (Except.ok.inj ready).symm

theorem prepare_carries (accepted : Cartridge.ofImage bytes = .ok cartridge)
    (ready : prepare rom (.ok bytes) battery settings now = .ok c) : c.Carries cartridge := by
  obtain ⟨_, carried, same, accepted', made⟩ := prepare_ok ready
  obtain rfl := Except.ok.inj same
  obtain rfl := Except.ok.inj (accepted.symm.trans accepted')
  have fresh := Console.insert_carries now cartridge
  rcases made with rfl | ⟨data, rfl⟩
  · exact fresh
  · exact fresh.loadBattery data

/-- A console that is ready to run has sent nothing yet. -/
theorem prepare_log (ready : prepare rom image battery settings now = .ok c) :
    c.bus.serial.log = #[] := by
  obtain ⟨bytes, cartridge, -, -, rfl | ⟨data, rfl⟩⟩ := prepare_ok ready
  · exact Console.insert_log _ cartridge
  · rw [Console.loadBattery_serial]
    exact Console.insert_log _ cartridge

end Headless

end DotMatrix
