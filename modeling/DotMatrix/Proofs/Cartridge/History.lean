import DotMatrix.Proofs.Cartridge.RomWindows

/-!
The history of a cartridge: the stores that reach it, each at its wall time, what is put into its RAM as
a whole, and its resets, the last one first. The registers that say what is behind the window of the
external RAM hold what the last stores to them since the last reset left there.
-/

namespace DotMatrix

/-- What happens to a cartridge in the slot. -/
inductive SlotEvent where
  | store (now : UInt64) (store : Store)
  | fill (given : Array (Array Byte))
  | reset (now : UInt64)

/-- The value last stored since the last reset at the addresses a register answers to. -/
def lastSince? (answers : Word → Bool) : List SlotEvent → Option Byte
  | [] => none
  | .reset _ :: _ => none
  | .fill _ :: earlier => lastSince? answers earlier
  | .store _ store :: earlier =>
    if answers store.addr then some store.value else lastSince? answers earlier

/-- The same value, or, if nothing was stored, the one at power on. -/
def heldSince (answers : Word → Bool) (powerOn : Byte) (past : List SlotEvent) : Byte :=
  (lastSince? answers past).getD powerOn

theorem heldSince_reset (answers : Word → Bool) (powerOn : Byte) (now : UInt64)
    (past : List SlotEvent) : heldSince answers powerOn (.reset now :: past) = powerOn := by
  simp only [heldSince, lastSince?, Option.getD_none]

namespace Slot

def apply (slot : Slot) : SlotEvent → Slot
  | .store now store => slot.write now store.addr store.value
  | .fill given => { slot with ram := slot.ram.fill given }
  | .reset now => slot.reset now

/-- The slot after some events, the last one first. -/
def after (slot : Slot) : List SlotEvent → Slot
  | [] => slot
  | event :: earlier => (slot.after earlier).apply event

/-- Stores at other addresses do not reach the cartridge. -/
theorem write_elsewhere (slot : Slot) (now : UInt64) {addr : Word} (value : Byte)
    (high : 0x8000 ≤ addr.toNat) (outside : ¬ (0xA000 ≤ addr.toNat ∧ addr.toNat < 0xC000)) :
    slot.write now addr value = slot := by
  unfold write
  dsimp only
  rw [if_neg (Nat.not_lt.mpr high), if_neg outside]

theorem write_low (slot : Slot) (now : UInt64) {addr : Word} (value : Byte)
    (low : addr.toNat < 0x8000) :
    slot.write now addr value =
      { slot with
        banking := slot.banking.write addr value
        clock := if slot.banking.latches addr value then slot.clock.map (·.latch now)
          else slot.clock } := by
  unfold write
  dsimp only
  rw [if_pos low]

theorem write_window (slot : Slot) (now : UInt64) {addr : Word} (value : Byte)
    (window : 0xA000 ≤ addr.toNat ∧ addr.toNat < 0xC000) :
    slot.write now addr value =
      match slot.banking.external with
      | .closed => slot
      | .bank n => { slot with ram := slot.ram.write n addr value }
      | .clock register => { slot with clock := slot.clock.map (·.write now register value) } := by
  have high : ¬ addr.toNat < 0x8000 := by omega
  unfold write
  dsimp only
  exact (if_neg high).trans (if_pos window)

theorem read_window (slot : Slot) {addr : Word}
    (window : 0xA000 ≤ addr.toNat ∧ addr.toNat < 0xC000) :
    slot.read addr =
      match slot.banking.external with
      | .closed => 0xFF
      | .bank n => slot.ram.read n addr
      | .clock register =>
        match slot.clock with
        | some chip => chip.read register
        | none => 0xFF := by
  have first : ¬ addr.toNat < 0x4000 := by omega
  have high : ¬ addr.toNat < 0x8000 := by omega
  unfold read
  dsimp only
  exact (if_neg first).trans ((if_neg high).trans (if_pos window))

end Slot

namespace Banking

/-- The register of an MBC2 that opens the RAM: bit 8 of the address tells it from the bank register. -/
def mbc2Enable (addr : Word) : Bool :=
  decide (addr.toNat < 0x4000) && !addr.toNat.testBit 8

/-- Is the RAM open? A board without a controller has nothing to close it. -/
def ramEnabled (kind : ControllerKind) (past : List SlotEvent) : Bool :=
  match kind with
  | .plain => true
  | .mbc2 => heldSince mbc2Enable 0 past &&& 0x0F == 0x0A
  | .mbc1 | .mbc3 | .mbc5 => heldSince (between 0x0000 0x2000) 0 past &&& 0x0F == 0x0A

/-- The number that selects the RAM bank, if RAM is selected. -/
def ramBank? (board : Board) (past : List SlotEvent) : Option Byte :=
  let selected := heldSince (between 0x4000 0x6000) 0 past
  match board.kind with
  | .plain | .mbc2 => some 0
  | .mbc1 => some (if (heldSince (between 0x6000 0x8000) 0 past).bit 0 then selected &&& 0x03 else 0)
  | .mbc3 => if selected ≤ 0x03 then some selected else none
  | .mbc5 => some (selected &&& if board.rumble then 0x07 else 0x0F)

/-- The register of the clock chip that is selected, if one is. -/
def clockRegister? (board : Board) (past : List SlotEvent) : Option Byte :=
  let selected := heldSince (between 0x4000 0x6000) 0 past
  if board.kind = .mbc3 ∧ 0x08 ≤ selected ∧ selected ≤ 0x0C then some selected else none

/-- Is a register of a clock chip behind the window? -/
def clockOpen (board : Board) (past : List SlotEvent) : Bool :=
  board.clock && ramEnabled board.kind past && (clockRegister? board past).isSome

/-- Does a store complete a latch sequence: is it a one, and was the store to the latch register before
it a zero? -/
def completesLatch (board : Board) (past : List SlotEvent) (store : Store) : Bool :=
  decide (board.kind = .mbc3) && between 0x6000 0x8000 store.addr && store.value == 0x01 &&
    lastSince? (between 0x6000 0x8000) past == some 0x00

/-- The registers are those of a board, and those of the RAM and the latch hold what the last stores to
them left there. -/
def Recalls (board : Board) (past : List SlotEvent) : Banking → Prop
  | plain => board.kind = .plain
  | mbc1 enabled _ high advanced =>
    board.kind = .mbc1 ∧
    enabled = opens (heldSince (between 0x0000 0x2000) 0 past) ∧
    high = heldSince (between 0x4000 0x6000) 0 past &&& 0x03 ∧
    advanced = (heldSince (between 0x6000 0x8000) 0 past).bit 0
  | mbc2 enabled _ => board.kind = .mbc2 ∧ enabled = opens (heldSince mbc2Enable 0 past)
  | mbc3 enabled _ select armed =>
    board.kind = .mbc3 ∧
    enabled = opens (heldSince (between 0x0000 0x2000) 0 past) ∧
    select = heldSince (between 0x4000 0x6000) 0 past ∧
    armed = (lastSince? (between 0x6000 0x8000) past == some 0x00)
  | mbc5 enabled _ ramBank rumble =>
    board.kind = .mbc5 ∧
    enabled = opens (heldSince (between 0x0000 0x2000) 0 past) ∧
    rumble = board.rumble ∧
    ramBank = heldSince (between 0x4000 0x6000) 0 past &&& if board.rumble then 0x07 else 0x0F

section Recalls

variable {board : Board} {past : List SlotEvent} {b : Banking}

theorem initial_recalls (board : Board) : (initial board).Recalls board [] := by
  unfold initial
  split
  · next kind => exact kind
  · next kind => exact ⟨kind, rfl, rfl, rfl⟩
  · next kind => exact ⟨kind, rfl⟩
  · next kind => exact ⟨kind, rfl, rfl, rfl⟩
  · next kind =>
      refine ⟨kind, rfl, rfl, ?_⟩
      cases board.rumble <;> rfl

/-- What a reset leaves has nothing to do with the past. -/
theorem Recalls.reset (h : b.Recalls board past) (now : UInt64) :
    b.reset.Recalls board (.reset now :: past) := by
  cases b with
  | plain => exact h
  | mbc1 =>
      refine ⟨h.1, ?_, ?_, ?_⟩
      all_goals
        rw [heldSince_reset]
        rfl
  | mbc2 =>
      refine ⟨h.1, ?_⟩
      rw [heldSince_reset]
      rfl
  | mbc3 =>
      refine ⟨h.1, ?_, (heldSince_reset _ 0 now past).symm, rfl⟩
      rw [heldSince_reset]
      rfl
  | mbc5 =>
      obtain ⟨kind, -, motor, -⟩ := h
      refine ⟨kind, ?_, motor, ?_⟩
      · rw [heldSince_reset]
        rfl
      · rw [heldSince_reset]
        cases board.rumble <;> rfl

theorem Recalls.fill (h : b.Recalls board past) (given : Array (Array Byte)) :
    b.Recalls board (.fill given :: past) := by
  cases b <;> exact h

theorem Recalls.write (h : b.Recalls board past) (now : UInt64) {store : Store}
    (low : store.addr.toNat < 0x8000) :
    (b.write store.addr store.value).Recalls board (.store now store :: past) := by
  -- in each branch of the write the address says which register has a new last store
  cases b with
  | plain => exact h
  | mbc1 enabled low high advanced =>
      obtain ⟨kind, rfl, rfl, rfl⟩ := h
      unfold Banking.write
      dsimp only
      split_ifs <;> grind [Recalls, heldSince, lastSince?, between]
  | mbc2 enabled romBank =>
      obtain ⟨kind, rfl⟩ := h
      unfold Banking.write
      dsimp only
      split_ifs <;> grind [Recalls, heldSince, lastSince?, mbc2Enable, high_bit_zero]
  | mbc3 enabled romBank select armed =>
      obtain ⟨kind, rfl, rfl, rfl⟩ := h
      unfold Banking.write
      dsimp only
      split_ifs <;> grind [Recalls, heldSince, lastSince?, between]
  | mbc5 enabled romBank ramBank rumble =>
      obtain ⟨kind, rfl, rfl, rfl⟩ := h
      unfold Banking.write
      dsimp only
      split_ifs <;> grind [Recalls, heldSince, lastSince?, between]

/-- A store from `0x8000` on goes to no register. -/
theorem Recalls.skip (h : b.Recalls board past) (now : UInt64) {store : Store}
    (high : 0x8000 ≤ store.addr.toNat) : b.Recalls board (.store now store :: past) := by
  have past : ∀ first past, past ≤ 0x8000 → between first past store.addr = false :=
    fun first past inside => between_of_le (inside.trans high)
  have mbc2 : mbc2Enable store.addr = false := by
    have above : ¬ store.addr.toNat < 0x4000 := by omega
    simp only [mbc2Enable, decide_eq_false above, Bool.false_and]
  cases b with
  | plain => exact h
  | mbc1 | mbc2 | mbc3 | mbc5 => simpa [Recalls, heldSince, lastSince?, past, mbc2] using h

theorem opens_eq (value : Byte) : opens value = (value &&& 0x0F == 0x0A) := by
  have low : (value &&& 0x0F).toNat = value.toNat % 0x10 :=
    (UInt8.toNat_and value 0x0F).trans (Nat.and_two_pow_sub_one_eq_mod value.toNat 4)
  rw [opens, ← low, Bool.eq_iff_iff, beq_iff_eq, beq_iff_eq]
  exact UInt8.toNat_inj (b := 0x0A)

/-- What is behind the window of the RAM, from the last stores alone. -/
theorem Recalls.external_eq (h : b.Recalls board past) :
    b.external =
      if ramEnabled board.kind past then
        match ramBank? board past, clockRegister? board past with
        | some bank, _ => .bank bank.toNat
        | none, some register => .clock register
        | none, none => .closed
      else .closed := by
  cases b with
  | plain =>
      have kind : board.kind = .plain := h
      simp only [external, ramEnabled, ramBank?, kind, if_true]
      rfl
  | mbc1 enabled low high advanced =>
      obtain ⟨kind, opened, rfl, rfl⟩ := h
      simp only [ramEnabled, ramBank?, kind, ← opens_eq, ← opened]
      cases enabled with
      | false => rfl
      | true => simp only [external, if_true, apply_ite UInt8.toNat]; rfl
  | mbc2 enabled romBank =>
      obtain ⟨kind, opened⟩ := h
      simp only [ramEnabled, ramBank?, kind, ← opens_eq, ← opened]
      cases enabled <;> rfl
  | mbc3 enabled romBank select armed =>
      obtain ⟨kind, opened, selected, -⟩ := h
      simp only [ramEnabled, ramBank?, clockRegister?, kind, ← opens_eq, ← opened, ← selected,
        true_and]
      cases enabled with
      | false => rfl
      | true =>
          simp only [external, if_true, UInt8.le_iff_toNat_le]
          split_ifs <;> first | rfl | contradiction
  | mbc5 enabled romBank ramBank rumble =>
      obtain ⟨kind, opened, -, selected⟩ := h
      simp only [ramEnabled, ramBank?, kind, ← opens_eq, ← opened, ← selected]
      cases enabled <;> rfl

/-- A register of the clock chip is selected in the place of a RAM bank. -/
theorem ramBank?_of_clock {register : Byte} (h : clockRegister? board past = some register) :
    ramBank? board past = none := by
  unfold clockRegister? at h
  dsimp only at h
  split at h
  · next selected =>
      obtain ⟨kind, above, -⟩ := selected
      have beyond : ¬ heldSince (between 0x4000 0x6000) 0 past ≤ 0x03 := by
        rw [UInt8.le_iff_toNat_le] at above ⊢
        exact Nat.not_le.mpr (Nat.lt_of_lt_of_le (by decide) above)
      simp only [ramBank?, kind, if_neg beyond]
  · cases h

theorem Recalls.external_clock_iff (h : b.Recalls board past) {register : Byte} :
    b.external = .clock register ↔
      ramEnabled board.kind past = true ∧ clockRegister? board past = some register := by
  rw [h.external_eq]
  constructor
  · intro selected
    split at selected
    · next enabled =>
        refine ⟨enabled, ?_⟩
        split at selected
        · cases selected
        · next some =>
            cases selected
            exact some
        · cases selected
    · cases selected
  · rintro ⟨enabled, some⟩
    rw [if_pos enabled, ramBank?_of_clock some, some]

theorem Recalls.clockOpen_eq (h : b.Recalls board past) {register : Byte}
    (selected : b.external = .clock register) : clockOpen board past = board.clock := by
  obtain ⟨enabled, some⟩ := h.external_clock_iff.mp selected
  rw [clockOpen, enabled, some, Bool.and_true, Option.isSome_some, Bool.and_true]

theorem Recalls.latches_eq (h : b.Recalls board past) {store : Store}
    (low : store.addr.toNat < 0x8000) :
    b.latches store.addr store.value = completesLatch board past store := by
  have inside : between 0x6000 0x8000 store.addr = decide (0x6000 ≤ store.addr.toNat) := by
    simp only [between, low, and_true]
  cases b with
  | plain =>
      have kind : board.kind = .plain := h
      simp only [latches, completesLatch, kind, reduceCtorEq, decide_false, Bool.false_and]
  | mbc1 | mbc2 | mbc5 =>
      simp only [latches, completesLatch, h.1, reduceCtorEq, decide_false, Bool.false_and]
  | mbc3 enabled romBank select armed =>
      obtain ⟨kind, -, -, rfl⟩ := h
      simp only [latches, completesLatch, kind, inside, decide_true, Bool.true_and]
      rw [Bool.and_assoc, Bool.and_comm]

end Recalls

end Banking

namespace Slot

/-- The slot holds a cartridge whose registers hold what the past left there, and there is a clock chip
if its board has one. -/
structure Recalls (cartridge : Cartridge) (past : List SlotEvent) (slot : Slot) : Prop where
  holds : slot.cartridge = cartridge
  banking : slot.banking.Recalls cartridge.header.board past
  clock : slot.clock.isSome = cartridge.header.board.clock

section Recalls

variable {cartridge : Cartridge} {past : List SlotEvent} {slot : Slot}

theorem insert_recalls (cartridge : Cartridge) (now : UInt64) :
    (insert cartridge now).Recalls cartridge [] := by
  refine ⟨rfl, Banking.initial_recalls cartridge.header.board, ?_⟩
  unfold insert
  cases cartridge.header.board.clock <;> rfl

theorem Recalls.write (h : slot.Recalls cartridge past) (now : UInt64) (store : Store) :
    (slot.write now store.addr store.value).Recalls cartridge (.store now store :: past) := by
  have holds := (slot.write_cartridge now store.addr store.value).trans h.holds
  by_cases low : store.addr.toNat < 0x8000
  · refine ⟨holds, ?_, ?_⟩
    · rw [slot.write_low now _ low]
      exact h.banking.write now low
    · rw [slot.write_low now _ low]
      dsimp only
      split
      · rw [Option.isSome_map, h.clock]
      · exact h.clock
  · have later := h.banking.skip now (Nat.le_of_not_lt low)
    by_cases window : 0xA000 ≤ store.addr.toNat ∧ store.addr.toNat < 0xC000
    · rw [slot.write_window now _ window] at holds ⊢
      cases hexternal : slot.banking.external with
      | closed => exact ⟨h.holds, later, h.clock⟩
      | bank n => exact ⟨h.holds, later, h.clock⟩
      | clock register => exact ⟨h.holds, later, by rw [Option.isSome_map, h.clock]⟩
    · rw [slot.write_elsewhere now _ (Nat.le_of_not_lt low) window]
      exact ⟨h.holds, later, h.clock⟩

theorem Recalls.apply (h : slot.Recalls cartridge past) (event : SlotEvent) :
    (slot.apply event).Recalls cartridge (event :: past) := by
  cases event with
  | store now store => exact h.write now store
  | fill given => exact ⟨h.holds, h.banking.fill given, h.clock⟩
  | reset now =>
      refine ⟨h.holds, h.banking.reset now, ?_⟩
      exact (Option.isSome_map).trans h.clock

/-- After any events the registers hold what these left there. -/
theorem after_recalls (h : slot.Recalls cartridge []) (past : List SlotEvent) :
    (slot.after past).Recalls cartridge past := by
  induction past with
  | nil => exact h
  | cons event earlier ih => exact ih.apply event

end Recalls

end Slot

end DotMatrix
