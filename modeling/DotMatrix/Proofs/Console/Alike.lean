import DotMatrix.Proofs.Console.Retimed
import DotMatrix.Proofs.Console.ClockSnapshot

/-!
The wall time is seen through the clock chip alone, and through that only by a program that makes it
look at the time. An operation in which nothing does so leaves two consoles alike that were alike but
for the wall time, and both answer the same.
-/

namespace DotMatrix

namespace Banking

/-- Does an event make the clock chip look at the wall time? A store does that takes the snapshot of
the counters anew; a reset takes it as well, but of counters that start from nothing. -/
def consults (board : Board) (past : List SlotEvent) : SlotEvent → Bool
  | .store time store => retakes board past (.store time store)
  | .fill _ | .reset _ => false

/-- None of some events makes the clock chip look at the wall time. -/
def Unread (board : Board) : List SlotEvent → Prop
  | [] => True
  | event :: earlier => Unread board earlier ∧ consults board earlier event = false

instance decidableUnread (board : Board) : (past : List SlotEvent) → Decidable (Unread board past)
  | [] => isTrue trivial
  | event :: earlier =>
    have := decidableUnread board earlier
    inferInstanceAs (Decidable (Unread board earlier ∧ consults board earlier event = false))

theorem Unread.of_append {board : Board} {later earlier : List SlotEvent}
    (h : Unread board (later ++ earlier)) : Unread board earlier := by
  induction later with
  | nil => exact h
  | cons event rest ih => exact ih h.1

end Banking

namespace Slot

section Write

variable {slot : Slot} {cartridge : Cartridge} {past : List SlotEvent} {store : Store}

/-- A store that does not make the clock chip look at the wall time does the same at any. -/
theorem Recalls.write_syncedAt (h : slot.Recalls cartridge past) (time : UInt64)
    (unread : cartridge.header.board.clock = true →
      Banking.consults cartridge.header.board past (.store time store) = false)
    (now later synced : UInt64) :
    (slot.syncedAt synced).write later store.addr store.value =
      (slot.write now store.addr store.value).syncedAt synced := by
  have absent (untimed : ¬ cartridge.header.board.clock = true) : slot.clock = none := by
    rw [← h.clock] at untimed
    exact Option.not_isSome_iff_eq_none.mp untimed
  by_cases low : store.addr.toNat < 0x8000
  · rw [write_low _ _ _ low, write_low _ _ _ low]
    by_cases timer : cartridge.header.board.clock = true
    · have unlatched := (Bool.or_eq_false_iff.mp (unread timer)).1
      simp only [syncedAt, h.banking.latches_eq low, unlatched, Bool.false_eq_true, if_false]
    · simp only [syncedAt, absent timer, Option.map_none, ite_self]
  · by_cases window : 0xA000 ≤ store.addr.toNat ∧ store.addr.toNat < 0xC000
    · rw [write_window _ _ _ window, write_window _ _ _ window]
      have behind : (slot.syncedAt synced).banking = slot.banking := rfl
      rw [behind]
      cases external : slot.banking.external with
      | closed | bank n => rfl
      | clock register =>
          by_cases timer : cartridge.header.board.clock = true
          · have unwritten := (Bool.or_eq_false_iff.mp (unread timer)).2
            rw [decide_eq_true window, Bool.true_and, h.banking.clockOpen_eq external, timer]
              at unwritten
            cases unwritten
          · simp only [syncedAt, absent timer, Option.map_none]
    · have high := Nat.le_of_not_lt low
      rw [write_elsewhere _ _ _ high window, write_elsewhere _ _ _ high window]

theorem reset_syncedAt (slot : Slot) (now later synced : UInt64) :
    (slot.syncedAt synced).reset later = (slot.reset now).syncedAt later := by
  unfold reset syncedAt
  cases slot.clock <;> rfl

end Write

end Slot

namespace Bus

section Devices

variable (bus : Bus) (now synced : UInt64)

theorem retimed_slot_reset :
    (bus.retimed now synced).slot.map (·.reset now) =
      (bus.slot.map (·.reset bus.now)).map (·.syncedAt now) := by
  simp only [retimed, Option.map_map]
  apply Option.map_congr
  intro slot _
  exact slot.reset_syncedAt bus.now now synced

theorem retimed_slot_fill (banks : Array (Array Byte)) :
    (bus.retimed now synced).slot.map (fun slot => { slot with ram := slot.ram.fill banks }) =
      (bus.slot.map fun slot => { slot with ram := slot.ram.fill banks }).map
        (·.syncedAt synced) := by
  simp only [retimed, Option.map_map]
  rfl

theorem reset_retimed : (bus.retimed now synced).reset = bus.reset.retimed now now :=
  congrArg (fun slot => { bus.reset with now := now, slot := slot })
    (bus.retimed_slot_reset now synced)

theorem requestIf_retimed (reason : Bool) (interrupt : Interrupt) :
    (bus.retimed now synced).requestIf reason interrupt =
      (bus.requestIf reason interrupt).retimed now synced := by
  cases reason <;> rfl

theorem transferOam_retimed (page : Byte) :
    (bus.retimed now synced).transferOam page = (bus.transferOam page).retimed now synced := by
  have paged : { bus.retimed now synced with transferPage := page } =
      ({ bus with transferPage := page } : Bus).retimed now synced := rfl
  simp only [transferOam, paged, retimed_read]
  rfl

end Devices

section Stores

variable {bus : Bus} {slot : Slot} {cartridge : Cartridge} {past : List SlotEvent}

theorem write_retimed (hslot : bus.slot = some slot) (h : slot.Recalls cartridge past)
    {store : Store}
    (unread : cartridge.header.board.clock = true →
      Banking.consults cartridge.header.board past (.store bus.now store) = false)
    (now synced : UInt64) :
    (bus.retimed now synced).write store.addr store.value =
      (bus.write store.addr store.value).retimed now synced := by
  have written := h.write_syncedAt bus.now unread bus.now now synced
  have reached : ((bus.retimed now synced).slot.map (·.write now store.addr store.value)) =
      (bus.slot.map (·.write bus.now store.addr store.value)).map (·.syncedAt synced) := by
    simp only [retimed, hslot, Option.map_some, written]
  unfold write
  cases BusRegion.ofAddress store.addr with
  | romLow | romHigh | externalRam =>
      exact congrArg (fun slot => { bus.retimed now synced with slot := slot }) reached
  | serial =>
      let serial := (bus.serial.write store.addr store.value).takeCompletion
      exact requestIf_retimed { bus with serial := serial.1 } now synced serial.2 .serial
  | timer =>
      let timer := (bus.timer.write store.addr store.value).takeOverflow
      exact requestIf_retimed { bus with timer := timer.1 } now synced timer.2 .timer
  | oamTransfer => exact bus.transferOam_retimed now synced store.value
  | _ => rfl

/-- Stores that do not make the clock chip look at the wall time are blind to it. -/
theorem blind_of_unread (hslot : bus.slot = some slot) (h : slot.Recalls cartridge past)
    {stores : List Store}
    (unread : cartridge.header.board.clock = true →
      Banking.Unread cartridge.header.board (SlotEvent.ofStores bus.now stores ++ past)) :
    bus.Blind stores := by
  intro now synced
  induction stores generalizing bus slot past with
  | nil => rfl
  | cons store rest ih =>
      rw [SlotEvent.ofStores_cons, List.append_assoc, List.singleton_append] at unread
      have first := write_retimed hslot h (fun timer => (unread timer).of_append.2) now synced
      have hslot' : (bus.write store.addr store.value).slot =
          some (slot.write bus.now store.addr store.value) := by
        rw [write_slot_eq, hslot, Option.map_some]
      have rest := ih hslot' (h.write bus.now store)
        (by rwa [write_now])
      change ((bus.retimed now synced).write store.addr store.value).writeAll _ = _
      rw [first, rest]
      rfl

end Stores

theorem writeAll_now (bus : Bus) (stores : List Store) : (bus.writeAll stores).now = bus.now := by
  refine writeAll_induction (motive := fun bus' => bus'.now = bus.now) rfl ?_
  intro bus' store _ same
  exact (bus'.write_now store.addr store.value).trans same

end Bus

namespace Console

/-- What an operation answers. -/
inductive Answer where
  | outcome (failure : Option Failure)
  | cycles (answer : Except Failure Nat)
  | frame (ended : FrameEnd)
  | log (bytes : Array Byte)
  | requests (mask : Byte)
  | overflowed (answer : Bool)

def answer (c : Console) : Operation → Answer
  | .dispatch => .cycles c.dispatch.2
  | .step => .cycles c.toMachine.step.2
  | .frame limit => .frame (c.runFrame limit 0).2
  | .collect => .log c.bus.serial.takeLog.2
  | .stepLcd cycles => .requests (c.bus.lcd.step cycles).2
  | .stepTimer cycles => .overflowed (c.bus.timer.step cycles).2
  | op => .outcome (c.perform op).2

/-- The second console is the first but for the wall time and for the time at which its clock chip
was last brought up to date. -/
def Alike (c c' : Console) : Prop :=
  ∃ now synced, c' = c.retimed now synced

section Operations

variable {c c' : Console} {cartridge : Cartridge} {slot : Slot} {past : List SlotEvent}

theorem reset_retimed (c : Console) (now synced : UInt64) :
    (c.retimed now synced).reset = c.reset.retimed now now := by
  have colour : (c.retimed now synced).wantsColour = c.wantsColour := by
    simp only [wantsColour, cartridge, retimed, Bus.retimed, Option.map_map]
    cases c.bus.slot <;> rfl
  have emptied : (c.retimed now synced).bus.slot.map (·.reset now) =
      (c.bus.slot.map (·.reset c.bus.now)).map (·.syncedAt now) :=
    c.bus.retimed_slot_reset now synced
  calc (c.retimed now synced).reset
      = booted ((c.retimed now synced).bus.slot.map (·.reset now))
          (c.retimed now synced).wantsColour c.bus.serial.link now := reset_eq_booted _
    _ = booted ((c.bus.slot.map (·.reset c.bus.now)).map (·.syncedAt now)) c.wantsColour
          c.bus.serial.link now := by rw [emptied, colour]
    _ = c.reset.movedTo now := by rw [reset_eq_booted, booted_movedTo]

theorem restore_retimed (c : Console) (s : Snapshot) (now synced : UInt64) :
    (c.retimed now synced).restore s = (c.restore s).map (·.retimed now synced) := by
  have flaw : Snapshot.bankFlaw? (c.retimed now synced).bus.slot s.ramBanks =
      Snapshot.bankFlaw? c.bus.slot s.ramBanks := by
    simp only [retimed, Bus.retimed]
    cases c.bus.slot <;> rfl
  have filled : (c.retimed now synced).bus.slot.map
        (fun slot => { slot with ram := slot.ram.fill s.ramBanks }) =
      (c.bus.slot.map fun slot => { slot with ram := slot.ram.fill s.ramBanks }).map
        (·.syncedAt synced) := c.bus.retimed_slot_fill now synced s.ramBanks
  simp only [restore, flaw, filled]
  cases Snapshot.bankFlaw? c.bus.slot s.ramBanks with
  | some flaw => rfl
  | none =>
      change (do let lcd ← c.bus.lcd.restore s.lcd; _) = _
      cases c.bus.lcd.restore s.lcd <;> rfl

theorem dispatch_unread (hslot : c.bus.slot = some slot) (h : slot.Recalls cartridge past)
    (unread : cartridge.header.board.clock = true →
      Banking.Unread cartridge.header.board (c.pastOf .dispatch ++ past)) (now synced : UInt64) :
    (c.retimed now synced).dispatch = (c.dispatch.1.retimed now synced, c.dispatch.2) := by
  refine dispatch_retimed (Bus.blind_of_unread (c.answered_slot.trans hslot) h ?_) now synced
  rw [c.answered_now]
  exact unread

/-- An operation that does not make the clock chip look at the wall time answers the same at any,
and leaves consoles that are alike. -/
theorem perform_retimed (hslot : c.bus.slot = some slot) (h : slot.Recalls cartridge past)
    {op : Operation} (keeps : op.inserts = false) (whole : ∀ limit, op ≠ .frame limit)
    (unread : cartridge.header.board.clock = true →
      Banking.Unread cartridge.header.board (c.pastOf op ++ past)) (now synced : UInt64) :
    (c.retimed now synced).answer op = c.answer op ∧
      (c.perform op).1.Alike ((c.retimed now synced).perform op).1 := by
  cases op with
  | insert | load => cases keeps
  | frame limit => exact absurd rfl (whole limit)
  | dispatch =>
      rw [performDispatch_fst, performDispatch_fst]
      simp only [answer, dispatch_unread hslot h unread]
      exact ⟨trivial, now, synced, rfl⟩
  | step =>
      have blind : c.toMachine.answered.Blind c.toMachine.stores := by
        refine Bus.blind_of_unread (c.answered_slot.trans hslot) h ?_
        rw [c.answered_now]
        exact unread
      have stepped := Machine.step_retimed blind now synced
      have machine : (c.retimed now synced).toMachine = c.toMachine.retimed now synced := rfl
      rw [performStep_fst, performStep_fst]
      simp only [answer, machine, stepped]
      exact ⟨trivial, now, synced, rfl⟩
  | write addr value =>
      have unread : cartridge.header.board.clock = true →
          Banking.consults cartridge.header.board past (.store c.bus.now ⟨addr, value⟩) = false :=
        fun timer => (unread timer).2
      have written := Bus.write_retimed hslot h unread now synced
      exact ⟨rfl, now, synced, congrArg (fun bus => { c with bus := bus }) written⟩
  | reset => exact ⟨rfl, now, now, c.reset_retimed now synced⟩
  | resetBus =>
      exact ⟨rfl, now, now,
        congrArg (fun bus => { c with bus := bus }) (c.bus.reset_retimed now synced)⟩
  | restore s =>
      simp only [answer, perform, HostCall.restore_outcome, restore_retimed]
      cases c.restore s with
      | error failure => exact ⟨rfl, now, synced, rfl⟩
      | ok next => exact ⟨rfl, now, synced, rfl⟩
  | keyDown key =>
      have pressed := Bus.requestIf_retimed { c.bus with joypad := (c.bus.joypad.press key).1 }
        now synced (c.bus.joypad.press key).2 .joypad
      exact ⟨rfl, now, synced, congrArg (fun bus => { c with bus := bus }) pressed⟩
  | fillRam banks =>
      exact ⟨rfl, now, synced,
        congrArg (fun slot => { c.retimed now synced with bus.slot := slot })
          (c.bus.retimed_slot_fill now synced banks)⟩
  | setNow time => exact ⟨rfl, time, synced, rfl⟩
  | keyUp | plug | collect | setRegisters | request | stepLcd | stepTimer | setOam =>
      exact ⟨rfl, now, synced, rfl⟩

end Operations

/-- Consoles that have just been switched on are alike. -/
theorem initial_alike (now later : UInt64) : (initial now).Alike (initial later) :=
  ⟨later, later, reset_retimed { cpu := .postBoot false, bus := .initial now, stuckAt := none }
    later later⟩

/-- The console that an image that is accepted leaves. -/
theorem load_eq_insert {image : Array Byte} {cartridge : Cartridge}
    (accepted : Cartridge.ofImage image = .ok cartridge) (c : Console) :
    (c.perform (.load image)).1 = c.insert cartridge := by
  simp only [perform, HostCall.load_outcome, load, accepted]
  rfl

theorem insert_retimed (c : Console) (cartridge : Cartridge) (now synced : UInt64) :
    (c.retimed now synced).insert cartridge = (c.insert cartridge).retimed now now := by
  have fitted : { c.retimed now synced with bus.slot := some (.insert cartridge now) } =
      ({ c with bus.slot := some (.insert cartridge c.bus.now) } : Console).retimed now now := by
    simp only [retimed, Bus.retimed, Option.map_some, Slot.insert_syncedAt]
  rw [insert, insert, ← reset_retimed, ← fitted]
  rfl

/-- What a console gives away without its clock chip looking at the wall time: what the processor
holds, what can be read on the bus, what the LCD controller shows, what a snapshot keeps, and what the
next dispatch stores, answers and makes of the processor, whatever the time then. -/
structure Matches (c c' : Console) : Prop where
  cpu : c'.cpu = c.cpu
  read : ∀ addr, c'.bus.read addr = c.bus.read addr
  lcd : c'.bus.lcd = c.bus.lcd
  snapshot : c'.snapshot = c.snapshot
  next : ∀ time time',
    (c'.setNow time').stores = (c.setNow time).stores ∧
      (c'.setNow time').dispatch.2 = (c.setNow time).dispatch.2 ∧
      (c'.setNow time').dispatch.1.cpu = (c.setNow time).dispatch.1.cpu

theorem Alike.matches {c c' : Console} (alike : c.Alike c') : c.Matches c' := by
  obtain ⟨now, synced, rfl⟩ := alike
  refine ⟨rfl, c.bus.retimed_read now synced, rfl, c.snapshot_retimed now synced, ?_⟩
  intro time time'
  obtain ⟨answer, cpu⟩ := (c.setNow time).dispatch_retimed_cpu time' synced
  exact ⟨(c.setNow time).stores_retimed time' synced, answer, cpu⟩

end Console

end DotMatrix
