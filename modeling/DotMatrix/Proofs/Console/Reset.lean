import DotMatrix.Proofs.Cartridge.Reset
import DotMatrix.Proofs.Console.Changes

/-!
A reset forgets. Whatever a console has been through, after a reset it is the console that its
cartridge has just been put into, but for the cable in the serial port and for the wall time, which
is also the time from which a clock chip counts.
-/

namespace DotMatrix

namespace Slot

/-- The slot with a clock chip that was brought up to date at a wall time. -/
def syncedAt (slot : Slot) (now : UInt64) : Slot :=
  { slot with clock := slot.clock.map fun chip => { chip with syncedAt := now } }

theorem insert_syncedAt (cartridge : Cartridge) (start now : UInt64) :
    (insert cartridge start).syncedAt now = insert cartridge now := by
  unfold syncedAt insert
  cases cartridge.header.board.clock <;> rfl

end Slot

namespace Bus

/-- What is in the slot is what was put in, as far as a reset can tell. -/
def Fitted (bus : Bus) : Prop :=
  ∀ slot, bus.slot = some slot → slot.Fitted

variable {bus bus' : Bus}

theorem Fitted.congr (h : bus.Fitted) (same : bus'.slot = bus.slot) : bus'.Fitted := by
  intro slot hslot
  exact h slot (same ▸ hslot)

theorem Fitted.map_slot (h : bus.Fitted) {change : Slot → Slot}
    (keep : ∀ slot, slot.Fitted → (change slot).Fitted)
    (changed : bus'.slot = bus.slot.map change) : bus'.Fitted := by
  intro slot hslot
  rw [changed] at hslot
  obtain ⟨before, hbefore, rfl⟩ := Option.map_eq_some_iff.mp hslot
  exact keep before (h before hbefore)

theorem Change.fitted (change : bus.Change bus') (h : bus.Fitted) : bus'.Fitted := by
  cases change with
  | write addr value =>
      rcases bus.write_slot addr value with same | written
      · exact h.congr same
      · exact h.map_slot (fun _ fitted => Slot.write_fitted fitted bus.now addr value) written
  | elapse cycles => exact h.congr (bus.elapse_slot cycles)
  | reset => exact h.map_slot (fun _ fitted => Slot.reset_fitted fitted bus.now) rfl
  | insert cartridge =>
      intro slot hslot
      rw [← Option.some.inj hslot]
      exact Slot.insert_fitted cartridge bus.now
  | fill banks => exact h.map_slot (fun _ fitted => Slot.fill_fitted fitted banks) rfl
  | press key => exact h.congr (requestIf_slot _ _ _)
  | acknowledge | restore | release | plug | collect | setNow | request | stepLcd | stepTimer |
    setOam => exact h.congr rfl

end Bus

namespace Console

variable {c : Console}

theorem Reachable.fitted (h : c.Reachable) : c.bus.Fitted := by
  refine h.bus_invariant (motive := Bus.Fitted) ?_ fun _ _ change fitted => change.fitted fitted
  intro now slot hslot
  cases hslot

/-- The boot program writes to the LCD controller and to the interrupt enables only. -/
theorem bootRegisters_eq (bus : Bus) :
    bootRegisters bus =
      { bus with
        lcd := (((bus.lcd.setControl 0x91).write 0xFF47 0xFC).write 0xFF48 0xFF).write 0xFF49 0xFF
        enabled := 0 } := rfl

/-- The console that the boot program leaves with a cartridge, a cable and a wall time. -/
def booted (slot : Option Slot) (colour : Bool) (link : Link) (now : UInt64) : Console :=
  { cpu := .postBoot colour
    bus := bootRegisters
      { Bus.initial now with slot := slot, serial := SerialPort.initial.plug link }
    stuckAt := none }

/-- Every device but the cartridge and the cable is reset to what it is when it is new. -/
theorem reset_eq_booted (c : Console) :
    c.reset =
      booted (c.bus.slot.map (·.reset c.bus.now)) c.wantsColour c.bus.serial.link c.bus.now := rfl

/-- The console at another wall time. A clock chip counts on from there. -/
def movedTo (c : Console) (now : UInt64) : Console :=
  { c with bus.now := now, bus.slot := c.bus.slot.map (·.syncedAt now) }

section Booted

variable (slot : Option Slot) (colour : Bool) (link : Link) (now : UInt64)

theorem booted_plug (other : Link) :
    (booted slot colour link now).plug other = booted slot colour other now := by
  simp only [booted, plug, bootRegisters_eq, SerialPort.plug]

theorem booted_movedTo (later : UInt64) :
    (booted slot colour link now).movedTo later =
      booted (slot.map (·.syncedAt later)) colour link later := by
  simp only [booted, movedTo, bootRegisters_eq, Bus.initial]

end Booted

/-- The console that a cartridge has just been put into, right after it was switched on. -/
def fresh (cartridge : Cartridge) (start : UInt64) : Console :=
  (initial start).insert cartridge

theorem fresh_eq_booted (cartridge : Cartridge) (start : UInt64) :
    fresh cartridge start =
      booted (some (.insert cartridge start)) cartridge.header.wantsColour .unplugged start := by
  have blank : (Slot.insert cartridge start).reset start = .insert cartridge start :=
    (Slot.insert_fitted cartridge start).reset_eq start
  calc fresh cartridge start
      = booted (some ((Slot.insert cartridge start).reset start)) cartridge.header.wantsColour
          .unplugged start := reset_eq_booted _
    _ = _ := by rw [blank]

theorem Reachable.reset_eq_booted {cartridge : Cartridge} (h : c.Reachable)
    (loaded : c.cartridge = some cartridge) :
    c.reset =
      booted (some (.insert cartridge c.bus.now)) cartridge.header.wantsColour c.bus.serial.link
        c.bus.now := by
  obtain ⟨slot, hslot, rfl⟩ := Option.map_eq_some_iff.mp loaded
  have cleared : slot.reset c.bus.now = .insert slot.cartridge c.bus.now :=
    (h.fitted slot hslot).reset_eq c.bus.now
  have colour : c.wantsColour = slot.cartridge.header.wantsColour := by
    simp only [wantsColour, loaded]
  rw [Console.reset_eq_booted, hslot, Option.map_some, cleared, colour]

/-- After a reset a console is the one that its cartridge has just been put into, but for the cable
and the wall time; so two consoles with the same cartridge differ in nothing else, whatever they have
been through. -/
theorem reset_forgets (h : c.Reachable) {cartridge : Cartridge}
    (loaded : c.cartridge = some cartridge) :
    (∀ start, c.reset = ((fresh cartridge start).plug c.bus.serial.link).movedTo c.bus.now) ∧
    ∀ d : Console, d.Reachable → d.cartridge = some cartridge →
      d.reset = (c.reset.plug d.bus.serial.link).movedTo d.bus.now := by
  have forgets := h.reset_eq_booted loaded
  constructor
  · intro start
    rw [forgets, fresh_eq_booted, booted_plug, booted_movedTo, Option.map_some,
      Slot.insert_syncedAt]
  · intro d other same
    rw [forgets, other.reset_eq_booted same, booted_plug, booted_movedTo, Option.map_some,
      Slot.insert_syncedAt]

/-- A console with a clock chip and RAM in its slot and a program that counts in `A`. -/
def blankClock : Console :=
  ((initial 0).perform
    (.load (((programImage #[0x3C, 0x3C]).set! 0x0147 0x10).set! 0x0149 0x02))).1

/-- The same after its RAM has been opened and a byte stored there, its clock chip has been set and
the latch armed, a byte has gone through a looped port, a key has been pressed, time has gone by and an
instruction has been executed. -/
def usedClock : Console :=
  blankClock.performAll [.setNow 90, .write 0x0000 0x0A, .write 0xA000 0x5A, .write 0x4000 0x08,
    .write 0xA000 0x07, .write 0x6000 0x00, .plug .looped, .write 0xFF01 0x42, .write 0xFF02 0x81,
    .keyDown .a, .setNow 150, .dispatch]

theorem reset_forgets_clock :
    usedClock.Reachable ∧ blankClock.Reachable ∧ usedClock.bus.requested = 0x18 ∧
      usedClock.bus.serial.log = #[0x42] ∧ usedClock.cpu.cycles.total = 1 ∧
      ∃ cartridge, usedClock.cartridge = some cartridge ∧ blankClock.cartridge = some cartridge ∧
        cartridge.header.board.clock = true ∧
        usedClock.reset = ((fresh cartridge 0).plug .looped).movedTo 150 ∧
        blankClock.reset = (usedClock.reset.plug .unplugged).movedTo 0 := by
  have blank : blankClock.Reachable := (Reachable.initial 0).perform _
  have used : usedClock.Reachable := blank.performAll _
  have same : usedClock.cartridge = blankClock.cartridge :=
    blankClock.performAll_cartridge (by simp [Operation.inserts])
  have clock : blankClock.cartridge.map (·.header.board.clock) = some true := by decide +kernel
  have facts : usedClock.bus.requested = 0x18 ∧ usedClock.bus.serial.log = #[0x42] ∧
      usedClock.cpu.cycles.total = 1 ∧ usedClock.bus.serial.link = .looped ∧
      usedClock.bus.now = 150 ∧ blankClock.bus.serial.link = .unplugged ∧
      blankClock.bus.now = 0 := by decide +kernel
  obtain ⟨requested, log, total, looped, late, unplugged, early⟩ := facts
  obtain ⟨cartridge, loaded, ticking⟩ := Option.map_eq_some_iff.mp clock
  have forgets := reset_forgets used (same.trans loaded)
  rw [looped, late] at forgets
  have other := forgets.2 blankClock blank loaded
  rw [unplugged, early] at other
  exact ⟨used, blank, requested, log, total, cartridge, same.trans loaded, loaded, ticking,
    forgets.1 0, other⟩

end Console

end DotMatrix
