import DotMatrix.Proofs.Cartridge.Header
import DotMatrix.Proofs.Cartridge.RomWindows
import DotMatrix.Proofs.Console.Program
import DotMatrix.Proofs.Console.Reset

/-!
The ROM as a program sees it. The stores of a run, those of its instructions and those of the host, are
one list; and between two resets a read below `0x8000` is a byte of the image, in the bank that the last
stores of the list to the bank registers say.
-/

namespace DotMatrix

/-- Does the operation put the bank registers back to what they are at power on? -/
def Operation.restarts : Operation → Bool
  | reset | insert _ | load _ | resetBus => true
  | _ => false

namespace Machine

/-- A step that meets an undefined opcode stores nothing. -/
theorem Refuses.stores_eq {m m' : Machine} {opcode : Byte} (h : m.Refuses opcode m') :
    m.stores = [] := by
  have undefined : Instruction.decode (m.awake.bus.read m.awake.cpu.regs.pc) = none := by
    rw [m.awake_bus, m.awake_regs, ← h.met]
    exact h.undefined
  simp only [stores, h.serves, h.up, Bool.false_eq_true, if_false, fetchInstruction, fetch,
    undefined]

end Machine

namespace Bus

/-- There is a cartridge in the slot, and its bank registers hold what the last of some stores left
there. -/
def Follows (cartridge : Cartridge) (stores : List Store) (bus : Bus) : Prop :=
  ∃ slot, bus.slot = some slot ∧ slot.Follows cartridge stores

variable {cartridge : Cartridge} {stores : List Store} {bus bus' : Bus}

theorem Follows.congr (h : bus.Follows cartridge stores) (same : bus'.slot = bus.slot) :
    bus'.Follows cartridge stores := by
  obtain ⟨slot, hslot, follows⟩ := h
  exact ⟨slot, same.trans hslot, follows⟩

theorem Follows.append_nil (h : bus.Follows cartridge stores) :
    bus.Follows cartridge (stores ++ []) := by
  rwa [List.append_nil]

theorem Follows.fill (h : bus.Follows cartridge stores) {banks : Array (Array Byte)}
    (filled : bus'.slot = bus.slot.map fun slot => { slot with ram := slot.ram.fill banks }) :
    bus'.Follows cartridge stores := by
  obtain ⟨slot, hslot, follows⟩ := h
  rw [hslot] at filled
  exact ⟨_, filled, follows.holds, follows.banking⟩

theorem write_slot_low {addr : Word} (low : addr.toNat < 0x8000) (value : Byte) :
    (bus.write addr value).slot = bus.slot.map (·.write bus.now addr value) := by
  unfold write BusRegion.ofAddress
  by_cases first : addr.toNat < 0x4000
  · simp only [first, if_true]
  · simp only [first, low, if_false, if_true]

theorem write_follows (h : bus.Follows cartridge stores) (store : Store) :
    (bus.write store.addr store.value).Follows cartridge (stores ++ [store]) := by
  obtain ⟨slot, hslot, follows⟩ := h
  have written := Slot.write_follows follows bus.now store
  by_cases low : store.addr.toNat < 0x8000
  · refine ⟨_, ?_, written⟩
    rw [write_slot_low low, hslot, Option.map_some]
  · rcases bus.write_slot store.addr store.value with same | changed
    · exact ⟨slot, same.trans hslot, follows.skip (Nat.le_of_not_lt low)⟩
    · refine ⟨_, ?_, written⟩
      rw [changed, hslot, Option.map_some]

theorem writeAll_follows (h : bus.Follows cartridge stores) (more : List Store) :
    (bus.writeAll more).Follows cartridge (stores ++ more) := by
  induction more generalizing bus stores with
  | nil => exact h.append_nil
  | cons store rest ih =>
      have later := ih (write_follows h store)
      rwa [List.append_assoc, List.singleton_append] at later

end Bus

namespace Console

/-- The stores of the dispatches of a frame. -/
def frameStores (limit dark : Nat) (c : Console) : List Store :=
  match limit with
  | 0 => []
  | limit + 1 =>
    c.stores ++
      match c.dispatch with
      | (_, .error _) => []
      | (next, .ok cycles) =>
        if next.bus.lcd.flushed then []
        else if next.bus.lcd.enabled then frameStores limit 0 next
        else if Screen.frameCycles ≤ dark + cycles then []
        else frameStores limit (dark + cycles) next

/-- The stores of an operation, in their order. -/
def storesOf (c : Console) : Operation → List Store
  | .dispatch => c.stores
  | .frame limit => c.frameStores limit 0
  | .step => c.toMachine.stores
  | .write addr value => [⟨addr, value⟩]
  | _ => []

/-- The stores of operations one after the other. -/
def storesOfAll (c : Console) : List Operation → List Store
  | [] => []
  | op :: rest => c.storesOf op ++ (c.perform op).1.storesOfAll rest

section Run

variable {cartridge : Cartridge} {stores : List Store} {c : Console}

theorem step_follows {m : Machine} (h : m.bus.Follows cartridge stores) :
    m.step.1.bus.Follows cartridge (stores ++ m.stores) := by
  rcases m.step_cases with ⟨cycles, m', hstep, advances⟩ | ⟨opcode, m', hstep, refuses⟩
  · rw [hstep, advances.bus]
    exact Bus.writeAll_follows (h.congr m.answered_slot) m.stores
  · rw [hstep, refuses.stores_eq, List.append_nil, refuses.result]
    change m.awake.bus.Follows cartridge stores
    rwa [m.awake_bus]

theorem dispatch_follows (h : c.bus.Follows cartridge stores) :
    c.dispatch.1.bus.Follows cartridge (stores ++ c.stores) := by
  rcases c.dispatch_cases with ⟨_, _, stuck, hd⟩ | ⟨-, empty, hd⟩ | ⟨_, c', hd, passes⟩ |
    ⟨_, m, hd, -, refuses⟩
  · have none : c.stores = [] := by simp [Console.stores, stuck]
    rw [hd, none]
    exact h.append_nil
  · have none : c.stores = [] := by simp [Console.stores, empty]
    rw [hd, none]
    exact h.append_nil
  · rw [hd]
    refine Bus.Follows.congr ?_ ((congrArg Bus.slot passes.bus).trans (Bus.elapse_slot _ _))
    exact Bus.writeAll_follows (h.congr c.answered_slot) c.stores
  · have none : c.stores = [] := by simp [Console.stores, refuses.stores_eq]
    rw [hd, refused_eq refuses, none]
    exact h.append_nil

/-- What a dispatch keeps with its stores, running for a frame keeps with all of them. -/
theorem runFrame_stores {motive : List Store → Bus → Prop}
    (keep : ∀ stores (c : Console), motive stores c.bus →
      motive (stores ++ c.stores) c.dispatch.1.bus)
    (limit dark : Nat) (stores : List Store) (start : motive stores c.bus) :
    motive (stores ++ c.frameStores limit dark) (c.runFrame limit dark).1.bus := by
  induction limit generalizing c dark stores with
  | zero => simpa [runFrame_zero, frameStores] using start
  | succ limit ih =>
      have next := keep stores c start
      rw [runFrame_succ]
      unfold frameStores
      rw [← List.append_assoc]
      rcases hd : c.dispatch with ⟨c', failure | cycles⟩
      · rw [hd] at next
        simpa using next
      · rw [hd] at next
        dsimp only at next ⊢
        split_ifs
        · simpa using next
        · exact ih 0 _ next
        · simpa using next
        · exact ih (dark + cycles) _ next

theorem runFrame_follows (limit dark : Nat) (h : c.bus.Follows cartridge stores) :
    (c.runFrame limit dark).1.bus.Follows cartridge (stores ++ c.frameStores limit dark) :=
  runFrame_stores (motive := fun stores bus => bus.Follows cartridge stores)
    (fun _ _ => dispatch_follows) limit dark stores h

theorem perform_follows (h : c.bus.Follows cartridge stores) {op : Operation}
    (runs : op.restarts = false) :
    (c.perform op).1.bus.Follows cartridge (stores ++ c.storesOf op) := by
  cases op with
  | reset | insert | load | resetBus => cases runs
  | dispatch =>
      rw [performDispatch_fst]
      exact dispatch_follows h
  | frame limit =>
      rw [performFrame_fst]
      exact runFrame_follows limit 0 h
  | step =>
      rw [performStep_fst]
      exact step_follows h
  | write addr value => exact Bus.write_follows h ⟨addr, value⟩
  | restore s =>
      simp only [perform, HostCall.restore_outcome]
      cases hrestore : c.restore s with
      | error failure => exact h.append_nil
      | ok c' =>
          obtain ⟨-, -, rfl⟩ := restore_ok_iff.mp hrestore
          exact (h.fill rfl).append_nil
  | fillRam banks => exact (h.fill rfl).append_nil
  | keyDown key =>
      have same : (c.keyDown key).bus.slot = c.bus.slot := Bus.requestIf_slot _ _ _
      exact (h.congr same).append_nil
  | keyUp | plug | collect | setNow | setRegisters | request | stepLcd | stepTimer | setOam =>
      exact (h.congr rfl).append_nil

theorem performAll_follows (h : c.bus.Follows cartridge stores) {ops : List Operation}
    (run : ∀ op ∈ ops, op.restarts = false) :
    (c.performAll ops).bus.Follows cartridge (stores ++ c.storesOfAll ops) := by
  induction ops generalizing c stores with
  | nil => exact h.append_nil
  | cons op rest ih =>
      have first := perform_follows h (run op List.mem_cons_self)
      have later := ih first fun op member => run op (List.mem_cons_of_mem _ member)
      rwa [List.append_assoc] at later

end Run

/-- A cartridge has just been put into the console, or the console has just been reset with it. -/
def Starts (c : Console) (cartridge : Cartridge) : Prop :=
  (∃ g : Console, c = g.insert cartridge) ∨
    ∃ g : Console, g.Reachable ∧ g.cartridge = some cartridge ∧ c = g.reset

section Windows

variable {cartridge : Cartridge} {c : Console}

theorem booted_slot (slot : Option Slot) (colour : Bool) (link : Link) (now : UInt64) :
    (booted slot colour link now).bus.slot = slot := by
  simp only [booted, bootRegisters_eq]

/-- An image that is accepted is a cartridge that has just been put in. -/
theorem load_starts (c : Console) {image : Array Byte}
    (accepted : Cartridge.ofImage image = .ok cartridge) :
    (c.perform (.load image)).1.Starts cartridge := by
  refine Or.inl ⟨c, ?_⟩
  simp only [perform, HostCall.load_outcome, load, accepted]
  rfl

theorem Starts.slot_eq (h : c.Starts cartridge) :
    ∃ now, c.bus.slot = some (Slot.insert cartridge now) := by
  rcases h with ⟨g, rfl⟩ | ⟨g, reachable, loaded, rfl⟩
  · have anew : (Slot.insert cartridge g.bus.now).reset g.bus.now = .insert cartridge g.bus.now :=
      (Slot.insert_fitted cartridge g.bus.now).reset_eq g.bus.now
    refine ⟨g.bus.now, ?_⟩
    rw [insert, reset_eq_booted, booted_slot, Option.map_some, anew]
  · refine ⟨g.bus.now, ?_⟩
    rw [reachable.reset_eq_booted loaded, booted_slot]

theorem Starts.follows (h : c.Starts cartridge) : c.bus.Follows cartridge [] := by
  obtain ⟨now, hslot⟩ := h.slot_eq
  exact ⟨_, hslot, Slot.insert_follows cartridge now⟩

/-- A read below `0x8000` gives the byte of the image that the last stores to the bank registers say, on a
board and with a number of banks that the image itself states, whatever else is done since the cartridge was
put in or the console was reset. -/
theorem read_rom_window {image : Array Byte} (accepted : Cartridge.ofImage image = .ok cartridge)
    (start : c.Starts cartridge) {ops : List Operation} (run : ∀ op ∈ ops, op.restarts = false)
    {addr : Word} (low : addr.toNat < 0x8000) :
    (c.performAll ops).bus.read addr =
      Slot.romByte image (Header.statedBanks (image.getD 0x0148 0))
        (Slot.bankAfter (Header.statedController (image.getD 0x0147 0)) (c.storesOfAll ops) addr)
        addr := by
  obtain ⟨kind, banks⟩ := Header.ofImage_stated (Cartridge.ofImage_header accepted)
  have holds : cartridge.image = image := Cartridge.ofImage_image accepted
  obtain ⟨slot, hslot, follows⟩ := performAll_follows start.follows run
  rw [Bus.read_slot hslot low, follows.read_eq low, holds, kind, banks, List.nil_append]

end Windows

/-- An image of an MBC5 that states 72 banks, with a program that stores `0x80` at `0x2000`. It ends within
its first bank. -/
def mbc5Image : Array Byte :=
  ((programImage #[0x3E, 0x80, 0xEA, 0x00, 0x20]).set! 0x0147 0x19).set! 0x0148 0x52

/-- The program runs, and the host sets the ninth bit of the bank. -/
def selectBank : List Operation :=
  [.dispatch, .write 0x3000 0x01, .keyDown .a, .dispatch, .write 0x5000 0x03]

/-- The console that the image has just been put into. -/
def withMbc5 : Console :=
  ((initial 0).perform (.load mbc5Image)).1

/-- Numbers of 72 banks wrap at 128. The bank `0x180` that the program and the host select is bank 0, which
holds the program; the bank `0x140` that the host selects then is bank `0x40`, and the image has ended
before it. -/
theorem read_rom_window_wraps :
    let further : List Operation := selectBank ++ [.write 0x2000 0x40]
    ∃ cartridge, Cartridge.ofImage mbc5Image = .ok cartridge ∧ withMbc5.Starts cartridge ∧
      (∀ op ∈ further, op.restarts = false) ∧
      withMbc5.storesOfAll further =
        [⟨0x3000, 0x01⟩, ⟨0x2000, 0x80⟩, ⟨0x5000, 0x03⟩, ⟨0x2000, 0x40⟩] ∧
      (0x4102 : Word).toNat < 0x8000 ∧
      (withMbc5.performAll selectBank).bus.read 0x4102 = 0xEA ∧
      (withMbc5.performAll further).bus.read 0x4102 = 0xFF := by
  intro further
  have stores : withMbc5.storesOfAll further =
      [⟨0x3000, 0x01⟩, ⟨0x2000, 0x80⟩, ⟨0x5000, 0x03⟩, ⟨0x2000, 0x40⟩] := by decide +kernel
  have run : ∀ op ∈ further, op.restarts = false := by
    simp [further, selectBank, Operation.restarts]
  have low : (0x4102 : Word).toNat < 0x8000 := by decide
  have banks : (Cartridge.ofImage mbc5Image).toOption.map (·.header.romBanks) = some 72 := by
    decide +kernel
  obtain ⟨cartridge, accepted, -⟩ := exists_ok_of_map banks
  have start : withMbc5.Starts cartridge := load_starts (initial 0) accepted
  refine ⟨cartridge, accepted, start, run, stores, low, ?_, ?_⟩
  · have first : ∀ op ∈ selectBank, op.restarts = false := fun op member =>
      run op (List.mem_append_left _ member)
    rw [read_rom_window accepted start first low]
    decide +kernel
  · rw [read_rom_window accepted start run low]
    decide +kernel

end Console

end DotMatrix
