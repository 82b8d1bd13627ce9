import DotMatrix.Proofs.Console.SlotHistory

/-!
The snapshot of the clock chip. A program reads the counters from it, and it is taken anew by a completed
latch sequence, by a reset, and by every store to a register of the chip; nothing else changes what is
read.
-/

namespace DotMatrix

namespace Banking

/-- Does an event take the snapshot anew? -/
def retakes (board : Board) (past : List SlotEvent) : SlotEvent → Bool
  | .reset _ => true
  | .fill _ => false
  | .store _ store =>
    completesLatch board past store ||
      decide (0xA000 ≤ store.addr.toNat ∧ store.addr.toNat < 0xC000) && clockOpen board past

/-- None of some later events takes the snapshot anew. -/
def Undisturbed (board : Board) (past : List SlotEvent) : List SlotEvent → Prop
  | [] => True
  | event :: earlier =>
    Undisturbed board past earlier ∧ retakes board (earlier ++ past) event = false

instance decidableUndisturbed (board : Board) (past : List SlotEvent) :
    (later : List SlotEvent) → Decidable (Undisturbed board past later)
  | [] => isTrue trivial
  | event :: earlier =>
    have := decidableUndisturbed board past earlier
    inferInstanceAs (Decidable
      (Undisturbed board past earlier ∧ retakes board (earlier ++ past) event = false))

/-- Is a register of the clock chip behind an address? -/
def Answers (board : Board) (past : List SlotEvent) (register : Byte) (addr : Word) : Prop :=
  (0xA000 ≤ addr.toNat ∧ addr.toNat < 0xC000) ∧ ramEnabled board.kind past = true ∧
    clockRegister? board past = some register

instance (board : Board) (past : List SlotEvent) (register : Byte) (addr : Word) :
    Decidable (Answers board past register addr) :=
  inferInstanceAs (Decidable
    ((0xA000 ≤ addr.toNat ∧ addr.toNat < 0xC000) ∧ ramEnabled board.kind past = true ∧
      clockRegister? board past = some register))

end Banking

namespace ClockChip

/-- The counters as they are at a wall time. -/
def live (chip : ClockChip) (now : UInt64) : ClockCounters :=
  (chip.sync now).counters

/-- Counters that are up to date stay as they are. -/
theorem live_of_synced {chip : ClockChip} {now : UInt64} (synced : chip.syncedAt = now) :
    chip.live now = chip.counters := by
  have still : chip.counters.advance 0 = chip.counters := by
    rw [ClockCounters.advance, if_pos chip.counters.untilMinute_pos, Nat.add_zero]
    simp only [Fin.ofNat_val_eq_self]
  simp only [live, sync, synced, Nat.sub_self, still, ite_self]

end ClockChip

namespace Slot

/-- What a program sees of the clock chip. -/
def shown? (slot : Slot) : Option ClockCounters :=
  slot.clock.map (·.latched)

/-- The counters of the clock chip at a wall time. -/
def live? (slot : Slot) (now : UInt64) : Option ClockCounters :=
  slot.clock.map (·.live now)

section Shown

variable {cartridge : Cartridge} {past : List SlotEvent} {slot : Slot}

theorem Recalls.read_clock (h : slot.Recalls cartridge past) {register : Byte} {addr : Word}
    (answers : Banking.Answers cartridge.header.board past register addr) {shown : ClockCounters}
    (hshown : slot.shown? = some shown) : slot.read addr = shown.read register := by
  obtain ⟨window, enabled, selected⟩ := answers
  obtain ⟨chip, hchip, rfl⟩ := Option.map_eq_some_iff.mp hshown
  have behind := h.banking.external_clock_iff.mpr ⟨enabled, selected⟩
  rw [slot.read_window window, behind]
  dsimp only
  rw [hchip]
  rfl

theorem Recalls.apply_shown (h : slot.Recalls cartridge past) {event : SlotEvent}
    (kept : Banking.retakes cartridge.header.board past event = false) :
    (slot.apply event).shown? = slot.shown? := by
  cases event with
  | reset now => cases kept
  | fill given => rfl
  | store now store =>
      rw [Banking.retakes, Bool.or_eq_false_iff] at kept
      obtain ⟨unlatched, unwritten⟩ := kept
      change (slot.write now store.addr store.value).shown? = _
      by_cases low : store.addr.toNat < 0x8000
      · rw [slot.write_low now _ low, h.banking.latches_eq low, unlatched]
        rfl
      · by_cases window : 0xA000 ≤ store.addr.toNat ∧ store.addr.toNat < 0xC000
        · rw [slot.write_window now _ window]
          cases hexternal : slot.banking.external with
          | closed => rfl
          | bank n => rfl
          | clock register =>
              have absent : slot.clock = none := by
                rw [decide_eq_true window, Bool.true_and, h.banking.clockOpen_eq hexternal] at unwritten
                rw [← Option.not_isSome_iff_eq_none, h.clock, unwritten]
                exact Bool.false_ne_true
              simp only [shown?, absent, Option.map_none]
        · rw [slot.write_elsewhere now _ (Nat.le_of_not_lt low) window]

theorem after_shown (h : slot.Recalls cartridge []) (past : List SlotEvent) {later : List SlotEvent}
    (still : Banking.Undisturbed cartridge.header.board past later) :
    (slot.after (later ++ past)).shown? = (slot.after past).shown? := by
  induction later with
  | nil => rfl
  | cons event earlier ih =>
      obtain ⟨before, kept⟩ := still
      exact ((after_recalls h (earlier ++ past)).apply_shown kept).trans (ih before)

/-- A completed latch sequence shows the counters of its time. -/
theorem Recalls.latch_shown (h : slot.Recalls cartridge past) (now : UInt64) {store : Store}
    (completes : Banking.completesLatch cartridge.header.board past store = true) :
    (slot.write now store.addr store.value).shown? = slot.live? now := by
  have low : store.addr.toNat < 0x8000 := by
    rw [Banking.completesLatch, Bool.and_eq_true, Bool.and_eq_true, Bool.and_eq_true] at completes
    exact (of_decide_eq_true completes.1.1.2).2
  rw [slot.write_low now _ low, h.banking.latches_eq low, completes]
  simp only [shown?, live?, if_true, Option.map_map]
  rfl

/-- A store to a register sets the counters of its time, and it shows them. -/
theorem Recalls.write_shown (h : slot.Recalls cartridge past) (now : UInt64) {register : Byte}
    {addr : Word} (value : Byte) (answers : Banking.Answers cartridge.header.board past register addr) :
    (slot.write now addr value).live? now = (slot.live? now).map (·.write register value) ∧
      (slot.write now addr value).shown? = (slot.live? now).map (·.write register value) := by
  obtain ⟨window, enabled, selected⟩ := answers
  have behind := h.banking.external_clock_iff.mpr ⟨enabled, selected⟩
  rw [slot.write_window now _ window, behind]
  simp only [shown?, live?, Option.map_map]
  constructor
  · apply Option.map_congr
    intro chip _
    exact ClockChip.live_of_synced rfl
  · rfl

theorem Recalls.clock_some (h : slot.Recalls cartridge past)
    (timer : cartridge.header.board.clock = true) : ∃ chip, slot.clock = some chip := by
  apply Option.isSome_iff_exists.mp
  rw [h.clock, timer]

end Shown

end Slot

namespace Bus

/-- The counters of the clock chip in the slot as they are now. -/
def live? (bus : Bus) : Option ClockCounters :=
  bus.slot.bind (·.live? bus.now)

end Bus

namespace Console

variable {cartridge : Cartridge} {c : Console}

/-- What a program reads from the clock chip stays the same over operations that complete no latch
sequence, reset nothing and store to no register of the chip. A completed latch sequence shows the live
counters. A store to a register goes to the live counters, and shows all of them as well. -/
theorem clock_snapshot_changes (timer : cartridge.header.board.clock = true)
    (start : c.Starts cartridge) {before later : List Operation}
    (run : ∀ op ∈ before ++ later, op.inserts = false) :
    let board := cartridge.header.board
    let past := c.pastOfAll before
    let now := (c.performAll before).bus.now
    let bus := (c.performAll before).bus
    (∀ register addr addr',
      Banking.Undisturbed board past ((c.performAll before).pastOfAll later) →
      Banking.Answers board past register addr →
      Banking.Answers board (c.pastOfAll (before ++ later)) register addr' →
      (c.performAll (before ++ later)).bus.read addr' = bus.read addr) ∧
    ∃ live, bus.live? = some live ∧
      (∀ store register addr, Banking.completesLatch board past store = true →
        Banking.Answers board (.store now store :: past) register addr →
        (bus.write store.addr store.value).read addr = live.read register) ∧
      ∀ register addr value, Banking.Answers board past register addr →
        (bus.write addr value).live? = some (live.write register value) ∧
        ∀ register' addr', Banking.Answers board (.store now ⟨addr, value⟩ :: past) register' addr' →
          (bus.write addr value).read addr' = (live.write register value).read register' := by
  intro board past now bus
  obtain ⟨since, after⟩ := start.performAll_slot
  have fresh := Slot.insert_recalls cartridge since
  have recalls := Slot.after_recalls fresh past
  have hslot : bus.slot = some ((Slot.insert cartridge since).after past) :=
    after before fun op member => run op (List.mem_append_left later member)
  obtain ⟨chip, hchip⟩ := recalls.clock_some timer
  constructor
  · intro register addr addr' still answers answers'
    have shown := Slot.after_shown fresh past still
    rw [← pastOfAll_append, Slot.shown?, Slot.shown?, hchip, Option.map_some] at shown
    rw [Bus.read_slot_window _ (after _ run) answers'.1, Bus.read_slot_window _ hslot answers.1,
      (Slot.after_recalls fresh _).read_clock answers' shown,
      recalls.read_clock answers (congrArg (Option.map ClockChip.latched) hchip)]
  · have live : ((Slot.insert cartridge since).after past).live? now = some (chip.live now) := by
      rw [Slot.live?, hchip, Option.map_some]
    have written (addr : Word) (value : Byte) :
        (bus.write addr value).slot =
          some (((Slot.insert cartridge since).after past).write now addr value) := by
      rw [bus.write_slot_eq, hslot, Option.map_some]
    refine ⟨chip.live now, ?_, ?_, ?_⟩
    · rw [Bus.live?, hslot, Option.bind_some, live]
    · intro store register addr completes answers
      have shown := recalls.latch_shown now completes
      rw [live] at shown
      rw [Bus.read_slot_window _ (written _ _) answers.1]
      exact (recalls.write now store).read_clock answers shown
    · intro register addr value answers
      obtain ⟨reached, shown⟩ := recalls.write_shown now value answers
      rw [live, Option.map_some] at reached shown
      constructor
      · rw [Bus.live?, written, bus.write_now, Option.bind_some, reached]
      · intro register' addr' answers'
        rw [Bus.read_slot_window _ (written _ _) answers'.1]
        exact (recalls.write now ⟨addr, value⟩).read_clock answers' shown

/-- The board of an MBC3 with RAM, a battery and a clock chip. -/
def clockBoard : Board :=
  { kind := .mbc3, ram := true, battery := true, clock := true, rumble := false }

/-- The seconds are selected and latched after five seconds. -/
def latchSeconds : List Operation :=
  [.write 0x0000 0x0A, .write 0x4000 0x08, .setNow 5, .write 0x6000 0x00, .write 0x7FFF 0x01]

/-- Time passes, half of a latch sequence is stored, and the window is closed and opened. -/
def lookAway : List Operation :=
  [.setNow 9, .write 0x6000 0x00, .write 0x1FFF 0x00, .write 0x0000 0x1A]

theorem clock_snapshot_changes_latched :
    ∃ cartridge, (withBoard 0x10 0x03).Starts cartridge ∧ cartridge.header.board.clock = true ∧
      (∀ op ∈ latchSeconds ++ lookAway, op.inserts = false) ∧
      ((withBoard 0x10 0x03).performAll (latchSeconds ++ lookAway)).bus.read 0xBFFF = 0x05 := by
  have run : ∀ op ∈ latchSeconds ++ lookAway, op.inserts = false := by
    simp [latchSeconds, lookAway, Operation.inserts]
  have fitted : (Cartridge.ofImage (boardImage 0x10 0x03)).toOption.map (·.header.board) =
      some clockBoard := by decide +kernel
  have latched : ((withBoard 0x10 0x03).performAll latchSeconds).bus.read 0xA000 = 0x05 := by
    decide +kernel
  have still : Banking.Undisturbed clockBoard ((withBoard 0x10 0x03).pastOfAll latchSeconds)
      (((withBoard 0x10 0x03).performAll latchSeconds).pastOfAll lookAway) := by decide +kernel
  have first : Banking.Answers clockBoard ((withBoard 0x10 0x03).pastOfAll latchSeconds) 0x08
      0xA000 := by decide +kernel
  have second : Banking.Answers clockBoard
      ((withBoard 0x10 0x03).pastOfAll (latchSeconds ++ lookAway)) 0x08 0xBFFF := by decide +kernel
  obtain ⟨cartridge, accepted, board⟩ := exists_ok_of_map fitted
  have start : (withBoard 0x10 0x03).Starts cartridge := load_starts _ accepted
  have timer : cartridge.header.board.clock = true := by rw [board, clockBoard]
  have same := (clock_snapshot_changes timer start run).1 0x08 0xA000 0xBFFF
  rw [board] at same
  exact ⟨cartridge, start, timer, run, (same still first second).trans latched⟩

/-- The seconds are stored and can be read at once, though nothing is latched. -/
theorem stored_register_shows :
    Banking.completesLatch clockBoard
        ((withBoard 0x10 0x03).pastOfAll [.write 0x0000 0x0A, .write 0x4000 0x08])
        ⟨0xA000, 0x07⟩ = false ∧
      ((withBoard 0x10 0x03).performAll
        [.write 0x0000 0x0A, .write 0x4000 0x08]).bus.read 0xA000 = 0x00 ∧
      ((withBoard 0x10 0x03).performAll
        [.write 0x0000 0x0A, .write 0x4000 0x08, .write 0xA000 0x07]).bus.read 0xA000 = 0x07 := by
  decide +kernel

end Console

end DotMatrix
