import DotMatrix.Proofs.Cartridge.History
import DotMatrix.Proofs.Console.RomWindows

/-!
What operations do to the cartridge in the slot. Every operation comes to some events for the cartridge,
all at the wall time at which it is performed, and after a run the slot is what all of them together
make of what it was at first.
-/

namespace DotMatrix

namespace SlotEvent

/-- Stores at a wall time, the last one first. -/
def ofStores (now : UInt64) (stores : List Store) : List SlotEvent :=
  (stores.map (SlotEvent.store now)).reverse

theorem ofStores_cons (now : UInt64) (store : Store) (rest : List Store) :
    ofStores now (store :: rest) = ofStores now rest ++ [.store now store] := by
  rw [ofStores, List.map_cons, List.reverse_cons]
  rfl

theorem ofStores_append (now : UInt64) (first second : List Store) :
    ofStores now (first ++ second) = ofStores now second ++ ofStores now first := by
  rw [ofStores, List.map_append, List.reverse_append]
  rfl

end SlotEvent

namespace Bus

section Devices

variable (bus : Bus)

@[simp] theorem requestIf_now (reason : Bool) (interrupt : Interrupt) :
    (bus.requestIf reason interrupt).now = bus.now := by
  cases reason <;> rfl

theorem write_now (addr : Word) (value : Byte) : (bus.write addr value).now = bus.now := by
  unfold write
  split
  case h_13 => simp only [writeSerial, requestIf_now]
  case h_14 => simp only [writeTimer, requestIf_now]
  case h_16 => simp only [transferOam]
  all_goals rfl

theorem elapse_now (cycles : Nat) : (bus.elapse cycles).now = bus.now := by
  simp only [elapse, requestIf_now]
  rfl

theorem ofAddress_window {addr : Word} (window : 0xA000 ≤ addr.toNat ∧ addr.toNat < 0xC000) :
    BusRegion.ofAddress addr = .externalRam := by
  have first : ¬ addr.toNat < 0x4000 := by omega
  have low : ¬ addr.toNat < 0x8000 := by omega
  have past : ¬ addr.toNat < 0xA000 := by omega
  simp only [BusRegion.ofAddress, first, low, past, window.2, if_false, if_true]

theorem read_slot_window {slot : Slot} (hslot : bus.slot = some slot) {addr : Word}
    (window : 0xA000 ≤ addr.toNat ∧ addr.toNat < 0xC000) : bus.read addr = slot.read addr := by
  simp only [read, ofAddress_window window, hslot]

/-- The cartridge can be written to at any address; most of them do not reach it. -/
theorem write_slot_eq (addr : Word) (value : Byte) :
    (bus.write addr value).slot = bus.slot.map (·.write bus.now addr value) := by
  by_cases low : addr.toNat < 0x8000
  · exact write_slot_low low value
  · by_cases window : 0xA000 ≤ addr.toNat ∧ addr.toNat < 0xC000
    · simp only [write, ofAddress_window window]
    · have untouched : bus.slot.map (·.write bus.now addr value) = bus.slot := by
        cases bus.slot with
        | none => rfl
        | some slot =>
            exact congrArg some (slot.write_elsewhere bus.now value (Nat.le_of_not_lt low) window)
      rcases bus.write_slot addr value with same | written
      · rw [same, untouched]
      · exact written

end Devices

/-- At a wall time, what was in the slot at first has been through some events. -/
structure Recounts (start : Slot) (now : UInt64) (past : List SlotEvent) (bus : Bus) : Prop where
  slot : bus.slot = some (start.after past)
  now : bus.now = now

section Recounts

variable {start : Slot} {now : UInt64} {past : List SlotEvent} {bus bus' : Bus}

theorem Recounts.congr (h : bus.Recounts start now past) (slot : bus'.slot = bus.slot)
    (same : bus'.now = bus.now) : bus'.Recounts start now past :=
  ⟨slot.trans h.slot, same.trans h.now⟩

theorem Recounts.event (h : bus.Recounts start now past) (event : SlotEvent) (bus' : Bus)
    (slot : bus'.slot = bus.slot.map (·.apply event)) (same : bus'.now = bus.now) :
    bus'.Recounts start now (event :: past) := by
  refine ⟨?_, same.trans h.now⟩
  rw [slot, h.slot]
  rfl

theorem write_recounts (h : bus.Recounts start now past) (store : Store) :
    (bus.write store.addr store.value).Recounts start now (.store now store :: past) := by
  refine h.event (.store now store) _ ?_ (bus.write_now store.addr store.value)
  rw [bus.write_slot_eq, h.now]
  rfl

theorem writeAll_recounts (h : bus.Recounts start now past) (stores : List Store) :
    (bus.writeAll stores).Recounts start now (SlotEvent.ofStores now stores ++ past) := by
  induction stores generalizing bus past with
  | nil => exact h
  | cons store rest ih =>
      rw [SlotEvent.ofStores_cons, List.append_assoc, List.singleton_append]
      exact ih (write_recounts h store)

end Recounts

end Bus

namespace Machine

theorem answered_now (m : Machine) : m.answered.now = m.bus.now := by
  unfold answered
  split <;> rfl

end Machine

namespace Console

/-- What an operation does to the cartridge, the last event first. -/
def pastOf (c : Console) : Operation → List SlotEvent
  | .reset | .resetBus => [.reset c.bus.now]
  | .fillRam given => [.fill given]
  | .restore s =>
    match c.restore s with
    | .ok _ => [.fill s.ramBanks]
    | .error _ => []
  | op => SlotEvent.ofStores c.bus.now (c.storesOf op)

/-- What operations one after the other do to the cartridge, the last event first. -/
def pastOfAll (c : Console) : List Operation → List SlotEvent
  | [] => []
  | op :: rest => (c.perform op).1.pastOfAll rest ++ c.pastOf op

section Run

variable {start : Slot} {now : UInt64} {past : List SlotEvent} {c : Console}

theorem step_recounts {m : Machine} (h : m.bus.Recounts start now past) :
    m.step.1.bus.Recounts start now (SlotEvent.ofStores now m.stores ++ past) := by
  rcases m.step_cases with ⟨cycles, m', hstep, advances⟩ | ⟨opcode, m', hstep, refuses⟩
  · rw [hstep, advances.bus]
    exact Bus.writeAll_recounts (h.congr m.answered_slot m.answered_now) m.stores
  · rw [hstep, refuses.stores_eq, refuses.result]
    change m.awake.bus.Recounts start now past
    rwa [m.awake_bus]

theorem dispatch_recounts (h : c.bus.Recounts start now past) :
    c.dispatch.1.bus.Recounts start now (SlotEvent.ofStores now c.stores ++ past) := by
  rcases c.dispatch_cases with ⟨_, _, stuck, hd⟩ | ⟨-, empty, hd⟩ | ⟨_, c', hd, passes⟩ |
    ⟨_, m, hd, -, refuses⟩
  · have none : c.stores = [] := by simp [Console.stores, stuck]
    rw [hd, none]
    exact h
  · have none : c.stores = [] := by simp [Console.stores, empty]
    rw [hd, none]
    exact h
  · rw [hd, passes.bus]
    have stored := Bus.writeAll_recounts (h.congr c.answered_slot c.answered_now) c.stores
    exact stored.congr (Bus.elapse_slot _ _) (Bus.elapse_now _ _)
  · have none : c.stores = [] := by simp [Console.stores, refuses.stores_eq]
    rw [hd, refused_eq refuses, none]
    exact h

theorem runFrame_recounts (limit dark : Nat) (h : c.bus.Recounts start now past) :
    (c.runFrame limit dark).1.bus.Recounts start now
      (SlotEvent.ofStores now (c.frameStores limit dark) ++ past) := by
  refine runFrame_stores
    (motive := fun stores bus => bus.Recounts start now (SlotEvent.ofStores now stores ++ past))
    ?_ limit dark [] h
  intro stores c before
  rw [SlotEvent.ofStores_append, List.append_assoc]
  exact dispatch_recounts before

/-- What an operation does to the cartridge is what its events say. -/
theorem perform_slot (h : c.bus.slot = some (start.after past)) {op : Operation}
    (keeps : op.inserts = false) :
    (c.perform op).1.bus.slot = some (start.after (c.pastOf op ++ past)) := by
  have recounts : c.bus.Recounts start c.bus.now past := ⟨h, rfl⟩
  cases op with
  | insert | load => cases keeps
  | dispatch =>
      rw [performDispatch_fst]
      exact (dispatch_recounts recounts).slot
  | frame limit =>
      rw [performFrame_fst]
      exact (runFrame_recounts limit 0 recounts).slot
  | step =>
      rw [performStep_fst]
      exact (step_recounts recounts).slot
  | write addr value => exact (Bus.write_recounts recounts ⟨addr, value⟩).slot
  | reset =>
      refine (recounts.event (.reset c.bus.now) c.reset.bus ?_ ?_).slot
      · rw [reset_eq_booted, booted_slot]
        rfl
      · rw [reset_eq_booted, booted, bootRegisters_eq]
        rfl
  | resetBus => exact (recounts.event (.reset c.bus.now) c.bus.reset rfl rfl).slot
  | fillRam given =>
      exact (recounts.event (.fill given) (c.perform (.fillRam given)).1.bus rfl rfl).slot
  | restore s =>
      simp only [perform, HostCall.restore_outcome, pastOf]
      cases hrestore : c.restore s with
      | error failure => exact h
      | ok c' =>
          obtain ⟨-, -, rfl⟩ := restore_ok_iff.mp hrestore
          exact (recounts.event (.fill s.ramBanks) (c.restored s).bus rfl rfl).slot
  | keyDown key => exact (Bus.requestIf_slot _ _ _).trans h
  | keyUp | plug | collect | setNow | setRegisters | request | stepLcd | stepTimer | setOam =>
      exact h

theorem performAll_slot (h : c.bus.slot = some (start.after past)) {ops : List Operation}
    (run : ∀ op ∈ ops, op.inserts = false) :
    (c.performAll ops).bus.slot = some (start.after (c.pastOfAll ops ++ past)) := by
  induction ops generalizing c past with
  | nil => exact h
  | cons op rest ih =>
      have first := perform_slot h (run op List.mem_cons_self)
      have later := ih first fun op member => run op (List.mem_cons_of_mem _ member)
      rwa [← List.append_assoc] at later

theorem pastOfAll_append (c : Console) (first second : List Operation) :
    c.pastOfAll (first ++ second) = (c.performAll first).pastOfAll second ++ c.pastOfAll first := by
  induction first generalizing c with
  | nil => exact (List.append_nil _).symm
  | cons op rest ih =>
      rw [List.cons_append, pastOfAll, ih, List.append_assoc]
      rfl

variable {cartridge : Cartridge}

/-- After every run the slot is the one that the cartridge was put into, after the events of the run. -/
theorem Starts.performAll_slot (h : c.Starts cartridge) :
    ∃ now, ∀ ops : List Operation, (∀ op ∈ ops, op.inserts = false) →
      (c.performAll ops).bus.slot =
        some ((Slot.insert cartridge now).after (c.pastOfAll ops)) := by
  obtain ⟨now, hslot⟩ := h.slot_eq
  refine ⟨now, fun ops run => ?_⟩
  rw [← List.append_nil (c.pastOfAll ops)]
  exact Console.performAll_slot hslot run

end Run

/-- The least image of a board with RAM of a size. -/
def boardImage (type size : Byte) : Array Byte :=
  ((Array.replicate Header.minImageSize 0).set! 0x0147 type).set! 0x0149 size

/-- A console that a cartridge of a board has just been put into. -/
def withBoard (type size : Byte) : Console :=
  ((initial 0).perform (.load (boardImage type size))).1

end Console

end DotMatrix
