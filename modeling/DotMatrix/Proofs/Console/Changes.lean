import Mathlib.Logic.Relation
import DotMatrix.Proofs.Console.Reachable

/-!
What operations do to the bus. There are a few ways in which it changes at a time, and every operation
comes to some of them one after the other. What holds of the bus at first and is kept by each of them
therefore holds of the bus of every console that operations lead to.
-/

namespace DotMatrix

namespace Bus

/-- One change of the bus. -/
inductive Change : Bus → Bus → Prop where
  | write (bus : Bus) (addr : Word) (value : Byte) : Change bus (bus.write addr value)
  | acknowledge (bus : Bus) (interrupt : Interrupt) : Change bus (bus.acknowledge interrupt)
  | elapse (bus : Bus) (cycles : Nat) : Change bus (bus.elapse cycles)
  | reset (bus : Bus) : Change bus bus.reset
  | insert (bus : Bus) (cartridge : Cartridge) :
      Change bus { bus with slot := some (.insert cartridge bus.now) }
  | restore (bus : Bus) (image : LcdImage) (valid : image.Valid) :
      Change bus { bus with lcd := bus.lcd.restored image }
  | fill (bus : Bus) (banks : Array (Array Byte)) :
      Change bus
        { bus with slot := bus.slot.map fun slot => { slot with ram := slot.ram.fill banks } }
  | press (bus : Bus) (key : Key) :
      Change bus
        ({ bus with joypad := (bus.joypad.press key).1 }.requestIf (bus.joypad.press key).2 .joypad)
  | release (bus : Bus) (key : Key) :
      Change bus { bus with joypad := bus.joypad.release key }
  | plug (bus : Bus) (link : Link) : Change bus { bus with serial := bus.serial.plug link }
  | collect (bus : Bus) : Change bus { bus with serial := bus.serial.takeLog.1 }
  | setNow (bus : Bus) (now : UInt64) : Change bus { bus with now := now }
  | request (bus : Bus) (mask : Byte) : Change bus (bus.request mask)
  | stepLcd (bus : Bus) (cycles : Nat) : Change bus { bus with lcd := (bus.lcd.step cycles).1 }
  | stepTimer (bus : Bus) (cycles : Nat) :
      Change bus { bus with timer := (bus.timer.step cycles).1 }
  | setOam (bus : Bus) (index : Nat) (value : Byte) :
      Change bus { bus with lcd := bus.lcd.setOam index value }

/-- Changes of the bus one after the other, or none. -/
abbrev Changes : Bus → Bus → Prop :=
  Relation.ReflTransGen Change

namespace Changes

variable {bus bus' : Bus}

theorem writeAll (bus : Bus) (stores : List Store) : bus.Changes (bus.writeAll stores) :=
  writeAll_induction (motive := bus.Changes) .refl fun bus' store _ before =>
    before.tail (.write bus' store.addr store.value)

theorem answered (m : Machine) : m.bus.Changes m.answered := by
  unfold Machine.answered
  split
  · exact .single (.acknowledge _ _)
  · exact .refl

theorem bootRegisters (bus : Bus) : bus.Changes (Console.bootRegisters bus) :=
  Changes.writeAll bus
    [⟨0xFF40, 0x91⟩, ⟨0xFF47, 0xFC⟩, ⟨0xFF48, 0xFF⟩, ⟨0xFF49, 0xFF⟩, ⟨0xFFFF, 0x00⟩]

/-- What every change keeps holds after any changes. -/
theorem invariant {motive : Bus → Prop} (h : bus.Changes bus')
    (keep : ∀ bus bus', bus.Change bus' → motive bus → motive bus') (start : motive bus) :
    motive bus' := by
  induction h with
  | refl => exact start
  | tail _ change ih => exact keep _ _ change ih

end Changes

end Bus

namespace Console

theorem reset_changes (c : Console) : c.bus.Changes c.reset.bus :=
  (Bus.Changes.bootRegisters c.bus.reset).head (.reset c.bus)

theorem insert_changes (c : Console) (cartridge : Cartridge) :
    c.bus.Changes (c.insert cartridge).bus :=
  (reset_changes { c with bus.slot := some (.insert cartridge c.bus.now) }).head
    (.insert c.bus cartridge)

theorem restored_changes (c : Console) {s : Snapshot} (valid : s.lcd.Valid) :
    c.bus.Changes (c.restored s).bus := by
  have moved : c.bus.Change { c.bus with lcd := c.bus.lcd.restored s.lcd } :=
    .restore c.bus s.lcd valid
  have filled :
      { c.bus with lcd := c.bus.lcd.restored s.lcd }.Change (c.restored s).bus :=
    .fill { c.bus with lcd := c.bus.lcd.restored s.lcd } s.ramBanks
  exact .tail (.single moved) filled

theorem step_changes (m : Machine) : m.bus.Changes m.step.1.bus := by
  rcases m.step_cases with ⟨cycles, m', hstep, advances⟩ | ⟨opcode, m', hstep, refuses⟩
  · rw [hstep, advances.bus]
    exact (Bus.Changes.answered m).trans (Bus.Changes.writeAll _ _)
  · rw [hstep, refuses.result]
    change m.bus.Changes m.awake.bus
    rw [m.awake_bus]

theorem dispatch_changes (c : Console) : c.bus.Changes c.dispatch.1.bus := by
  rcases c.dispatch_outcome with passes | ⟨same, -⟩
  · rw [passes.bus]
    have stored : c.bus.Changes c.stored :=
      (Bus.Changes.answered c.toMachine).trans (Bus.Changes.writeAll _ _)
    exact stored.tail (.elapse _ _)
  · rw [same]

theorem perform_changes (c : Console) (op : Operation) : c.bus.Changes (c.perform op).1.bus := by
  cases op with
  | reset => exact c.reset_changes
  | insert cartridge => exact c.insert_changes cartridge
  | load image =>
      simp only [perform, HostCall.load_outcome]
      rw [load]
      cases Cartridge.ofImage image with
      | error failure => exact .refl
      | ok cartridge => exact c.insert_changes cartridge
  | restore s =>
      simp only [perform, HostCall.restore_outcome]
      cases hrestore : c.restore s with
      | error failure => exact .refl
      | ok c' =>
          obtain ⟨-, valid, rfl⟩ := restore_ok_iff.mp hrestore
          exact c.restored_changes valid
  | dispatch =>
      rw [performDispatch_fst]
      exact c.dispatch_changes
  | frame limit =>
      rw [performFrame_fst]
      refine runFrame_induction (motive := fun c' => c.bus.Changes c'.bus) ?_ limit 0 .refl
      intro c' before
      exact before.trans c'.dispatch_changes
  | keyDown key => exact .single (.press c.bus key)
  | keyUp key => exact .single (.release c.bus key)
  | plug link => exact .single (.plug c.bus link)
  | collect => exact .single (.collect c.bus)
  | setNow now => exact .single (.setNow c.bus now)
  | step =>
      rw [performStep_fst]
      exact step_changes c.toMachine
  | setRegisters regs => exact .refl
  | write addr value => exact .single (.write c.bus addr value)
  | request mask => exact .single (.request c.bus mask)
  | resetBus => exact .single (.reset c.bus)
  | stepLcd cycles => exact .single (.stepLcd c.bus cycles)
  | stepTimer cycles => exact .single (.stepTimer c.bus cycles)
  | setOam index value => exact .single (.setOam c.bus index value)
  | fillRam banks => exact .single (.fill c.bus banks)

/-- What holds of a new bus and is kept by every change holds of the bus of every console that
operations lead to. -/
theorem Reachable.bus_invariant {motive : Bus → Prop} {c : Console} (h : c.Reachable)
    (start : ∀ now, motive (.initial now))
    (keep : ∀ bus bus', bus.Change bus' → motive bus → motive bus') : motive c.bus := by
  induction h with
  | initial now => exact (reset_changes _).invariant keep (start now)
  | perform _ op ih => exact (perform_changes _ op).invariant keep ih

end Console

end DotMatrix
