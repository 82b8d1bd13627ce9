import DotMatrix.Proofs.Cartridge.Header
import DotMatrix.Proofs.Cartridge.History

/-!
The external RAM as a store. The registers say which cell an address of the window stands for. A cell
holds what was last stored in it since the last reset or fill; if nothing was, it holds what it was
filled with, or zero.
-/

namespace DotMatrix

/-- A cell of the external RAM. -/
structure RamCell where
  bank : Nat
  offset : Nat
  deriving DecidableEq, Repr

namespace Board

/-- The number of cells in a bank. -/
def bankCells (board : Board) : Nat :=
  if board.kind = .mbc2 then nibbleCount else ramBankSize

/-- What a cell keeps of a byte. -/
def kept (board : Board) (value : Byte) : Byte :=
  if board.kind = .mbc2 then value &&& 0x0F else value

/-- What a program reads from a cell. -/
def seen (board : Board) (held : Byte) : Byte :=
  if board.kind = .mbc2 then 0xF0 ||| held else held

end Board

namespace Header

/-- The cell behind an address, if it is in the window and RAM is fitted, open and selected. -/
def ramCell? (header : Header) (past : List SlotEvent) (addr : Word) : Option RamCell :=
  if (0xA000 ≤ addr.toNat ∧ addr.toNat < 0xC000) ∧ 0 < header.ram.banks ∧
      Banking.ramEnabled header.board.kind past = true then
    (Banking.ramBank? header.board past).map fun bank =>
      ⟨bank.toNat &&& (header.ram.banks - 1), (addr.toNat - 0xA000) % header.board.bankCells⟩
  else none

/-- The byte that a cell holds after some events, the last one first. -/
def ramByte (header : Header) (cell : RamCell) : List SlotEvent → Byte
  | [] => 0
  | .reset _ :: _ => 0
  | .fill given :: _ => header.board.kept ((given.getD cell.bank #[]).getD cell.offset 0)
  | .store _ store :: earlier =>
    if header.ramCell? earlier store.addr = some cell then header.board.kept store.value
    else header.ramByte cell earlier

/-- All cells, one array to a bank. -/
def ramContents (header : Header) (past : List SlotEvent) : Array (Array Byte) :=
  Array.ofFn fun bank : Fin header.ram.banks =>
    Array.ofFn fun offset : Fin header.board.bankCells => header.ramByte ⟨bank, offset⟩ past

end Header

namespace ExternalRam

/-- The cell that a bank number and an address stand for. -/
def cell (ram : ExternalRam) (bank : Nat) (addr : Word) : RamCell :=
  match ram with
  | banks bs => ⟨bank % max bs.size 1, addr.toNat % Board.ramBankSize⟩
  | nibbles _ => ⟨0, addr.toNat % Board.nibbleCount⟩

/-- The byte in a cell. -/
def byte (ram : ExternalRam) (cell : RamCell) : Byte :=
  match ram with
  | banks bs =>
    match bs[cell.bank]? with
    | some memory => memory.read cell.offset
    | none => 0
  | nibbles cells => cells.read cell.offset

def Has (ram : ExternalRam) (cell : RamCell) : Prop :=
  cell.bank < ram.bankCount ∧ cell.offset < ram.bankSize

section Bytes

variable {header : Header} {ram : ExternalRam} {cell : RamCell}

theorem byte_zeros (count : Nat) (cell : RamCell) :
    (banks (Array.replicate count (.zeros _))).byte cell = 0 := by
  unfold byte
  dsimp only
  split
  · next memory hmemory =>
      rw [Array.getElem?_replicate] at hmemory
      split at hmemory
      · rw [← Option.some.inj hmemory, Memory.read_zeros]
      · cases hmemory
  · rfl

theorem byte_blank (header : Header) (cell : RamCell) : (blank header).byte cell = 0 := by
  unfold blank
  split
  · exact Memory.read_zeros cell.offset
  · exact byte_zeros header.ram.banks cell

theorem byte_clear (ram : ExternalRam) (cell : RamCell) : ram.clear.byte cell = 0 := by
  cases ram with
  | banks bs => exact byte_zeros bs.size cell
  | nibbles cells => exact Memory.read_zeros cell.offset

theorem read_ofArray {n : Nat} (bytes : Array Byte) {offset : Nat} (inside : offset < n) :
    (Memory.ofArray n bytes).read offset = bytes.getD offset 0 := by
  rw [Memory.read_eq_getElem _ inside, Memory.ofArray, Vector.getElem_ofFn]

theorem byte_fill (h : ram.Fits header) (given : Array (Array Byte)) (has : ram.Has cell) :
    (ram.fill given).byte cell =
      header.board.kept ((given.getD cell.bank #[]).getD cell.offset 0) := by
  obtain ⟨bank, offset⟩ := has
  cases ram with
  | banks bs =>
      have inside : cell.bank < bs.size := bank
      simp only [fill, byte, Board.kept, if_neg h.1, Array.getElem?_ofFn, inside, dif_pos]
      exact read_ofArray _ offset
  | nibbles cells =>
      have first : cell.bank = 0 := Nat.lt_one_iff.mp bank
      have stored := read_ofArray ((given.getD 0 #[]).map (· &&& 0x0F)) offset
      simp only [fill, byte, Board.kept, if_pos h.1, first]
      refine stored.trans ?_
      simp only [Array.getD_eq_getD_getElem?, Array.getElem?_map]
      cases (given[0]?.getD #[])[cell.offset]? <;> rfl

theorem byte_write (h : ram.Fits header) (bank : Nat) (addr : Word) (value : Byte)
    (has : ram.Has cell) :
    (ram.write bank addr value).byte cell =
      if ram.cell bank addr = cell then header.board.kept value else ram.byte cell := by
  obtain ⟨number, offset⟩ := cell
  obtain ⟨numberInside, offsetInside⟩ := has
  have own : offset % ram.bankSize = offset := Nat.mod_eq_of_lt offsetInside
  cases ram with
  | banks bs =>
      have inside : number < bs.size := numberInside
      have room : 0 < Board.ramBankSize := by decide
      simp only [write, byte, cell, Board.kept, if_neg h.1, RamCell.mk.injEq,
        Array.getElem?_modify, Array.getElem?_eq_getElem inside, Option.map_some]
      by_cases same : bank % max bs.size 1 = number
      · simp only [same, if_true, true_and, Memory.read_write room]
        rw [show offset % Board.ramBankSize = offset from own]
      · simp only [same, if_false, false_and]
  | nibbles cells =>
      have first : number = 0 := Nat.lt_one_iff.mp numberInside
      have room : 0 < Board.nibbleCount := by decide
      simp only [write, byte, cell, Board.kept, if_pos h.1, RamCell.mk.injEq, first, true_and,
        Memory.read_write room]
      rw [show offset % Board.nibbleCount = offset from own]

theorem bankCount_eq (h : ram.Fits header) (maskable : header.Maskable) :
    ram.bankCount = header.ram.banks := by
  cases ram with
  | banks bs => exact h.2
  | nibbles cells => exact (maskable.single h.1).symm

theorem bankSize_eq (h : ram.Fits header) : ram.bankSize = header.board.bankCells := by
  cases ram with
  | banks bs => exact (if_neg h.1).symm
  | nibbles cells => exact (if_pos h.1).symm

/-- A read is of a cell, unless there is none. -/
theorem read_eq (h : ram.Fits header) (bank : Nat) (addr : Word) :
    ram.read bank addr =
      if 0 < ram.bankCount then header.board.seen (ram.byte (ram.cell bank addr)) else 0xFF := by
  cases ram with
  | banks bs =>
      simp only [read, byte, cell, bankCount, Board.seen, if_neg h.1]
      by_cases fitted : 0 < bs.size
      · have inside : bank % max bs.size 1 < bs.size := by
          rw [Nat.max_eq_left fitted]
          exact Nat.mod_lt bank fitted
        simp only [Array.getElem?_eq_getElem inside, if_pos fitted, Memory.read, Nat.mod_mod]
      · have outside : bs.size ≤ bank % max bs.size 1 := by omega
        simp only [Array.getElem?_eq_none outside, if_neg fitted]
  | nibbles cells =>
      simp only [read, byte, cell, bankCount, Board.seen, if_pos h.1, Memory.read, Nat.mod_mod,
        Nat.lt_one_iff, if_true]

/-- The mask of a bank number and the place in the window come to the same cell. -/
theorem cell_eq (ram : ExternalRam) (h : ram.Fits header) (maskable : header.Maskable)
    (fitted : 0 < header.ram.banks) (bank : Nat) {addr : Word} (above : 0xA000 ≤ addr.toNat) :
    (⟨bank &&& (header.ram.banks - 1), (addr.toNat - 0xA000) % header.board.bankCells⟩ : RamCell) =
      ram.cell bank addr := by
  rw [maskable.mask_eq fitted]
  cases ram with
  | banks bs =>
      have place : (addr.toNat - 0xA000) % Board.ramBankSize = addr.toNat % Board.ramBankSize := by
        unfold Board.ramBankSize
        omega
      rw [Board.bankCells, if_neg h.1, place, cell, h.2]
  | nibbles cells =>
      have place : (addr.toNat - 0xA000) % Board.nibbleCount = addr.toNat % Board.nibbleCount := by
        unfold Board.nibbleCount
        omega
      rw [Board.bankCells, if_pos h.1, place, cell, maskable.single h.1, Nat.max_self, Nat.mod_one]

theorem cell_has (fitted : 0 < ram.bankCount) (bank : Nat) (addr : Word) :
    ram.Has (ram.cell bank addr) := by
  cases ram with
  | banks bs =>
      refine ⟨?_, Nat.mod_lt _ (by decide)⟩
      have some : 0 < bs.size := fitted
      change bank % max bs.size 1 < bs.size
      rw [Nat.max_eq_left some]
      exact Nat.mod_lt bank fitted
  | nibbles cells => exact ⟨Nat.one_pos, Nat.mod_lt _ (by decide)⟩

theorem contents_eq (ram : ExternalRam) :
    ram.contents =
      Array.ofFn fun bank : Fin ram.bankCount =>
        Array.ofFn fun offset : Fin ram.bankSize => ram.byte ⟨bank, offset⟩ := by
  have whole {n : Nat} (memory : Memory n) :
      memory.toArray = Array.ofFn fun offset : Fin n => memory.read offset := by
    apply Array.ext
    · rw [Vector.size_toArray, Array.size_ofFn]
    · intro i _ hi
      have inside : i < n := by simpa using hi
      rw [Array.getElem_ofFn, Memory.read_eq_getElem memory inside]
      rfl
  cases ram with
  | banks bs =>
      apply Array.ext
      · rw [contents, Array.size_map, Array.size_ofFn]
        rfl
      · intro i hi _
        have inside : i < bs.size := by simpa [contents] using hi
        simp only [contents, Array.getElem_map, Array.getElem_ofFn, byte,
          Array.getElem?_eq_getElem inside, bankSize]
        exact whole bs[i]
  | nibbles cells =>
      change #[cells.toArray] = Array.ofFn fun _ : Fin 1 => _
      rw [whole cells]
      rfl

end Bytes

end ExternalRam

namespace Header

variable {header : Header} {past : List SlotEvent} {b : Banking} {ram : ExternalRam} {addr : Word}

theorem ramCell?_outside (outside : ¬ (0xA000 ≤ addr.toNat ∧ addr.toNat < 0xC000)) :
    header.ramCell? past addr = none :=
  if_neg fun inside => outside inside.1

theorem ramCell?_window {cell : RamCell} (hits : header.ramCell? past addr = some cell) :
    0xA000 ≤ addr.toNat ∧ addr.toNat < 0xC000 := by
  by_contra outside
  rw [ramCell?_outside outside] at hits
  cases hits

theorem ramCell?_closed (closed : Banking.ramEnabled header.board.kind past = false) :
    header.ramCell? past addr = none := by
  rw [ramCell?, closed, if_neg fun inside => Bool.false_ne_true inside.2.2]

theorem ramCell?_bare (bare : header.ram.banks = 0) : header.ramCell? past addr = none := by
  rw [ramCell?, bare, if_neg fun inside => Nat.lt_irrefl 0 inside.2.1]

theorem ramCell?_unselected (unselected : Banking.ramBank? header.board past = none) :
    header.ramCell? past addr = none := by
  rw [ramCell?, unselected, Option.map_none, ite_self]

/-- The cell is the one that the registers select in the RAM that is fitted. -/
theorem ramCell?_eq (recalls : b.Recalls header.board past) (fits : ram.Fits header)
    (maskable : header.Maskable) (window : 0xA000 ≤ addr.toNat ∧ addr.toNat < 0xC000) :
    header.ramCell? past addr =
      match b.external with
      | .bank n => if 0 < ram.bankCount then some (ram.cell n addr) else none
      | _ => none := by
  rw [ExternalRam.bankCount_eq fits maskable, recalls.external_eq]
  simp only [ramCell?, window, true_and]
  by_cases fitted : 0 < header.ram.banks
  · by_cases enabled : Banking.ramEnabled header.board.kind past = true
    · simp only [fitted, enabled, true_and, if_true]
      cases hbank : Banking.ramBank? header.board past with
      | none =>
          cases Banking.clockRegister? header.board past <;> rfl
      | some bank =>
          have own := ram.cell_eq fits maskable fitted bank.toNat window.1
          simp only [Option.map_some, own]
    · rw [if_neg fun open' => enabled open'.2, if_neg enabled]
  · simp only [fitted, false_and, if_false]
    split <;> rfl

end Header

namespace ExternalRam

/-- The RAM is the one of a header, and every cell holds what some events left in it. -/
structure Holds (header : Header) (past : List SlotEvent) (ram : ExternalRam) : Prop where
  fits : ram.Fits header
  bytes : ∀ cell, ram.Has cell → ram.byte cell = header.ramByte cell past

section Holds

variable {header : Header} {past : List SlotEvent} {ram : ExternalRam}

theorem blank_holds (header : Header) : (blank header).Holds header [] :=
  ⟨blank_fits header, fun cell _ => byte_blank header cell⟩

theorem Has.congr {ram' : ExternalRam} {cell : RamCell} (has : ram'.Has cell)
    (fits : ram.Fits header) (fits' : ram'.Fits header) : ram.Has cell := by
  obtain ⟨count, size, -⟩ := fits.alike fits'
  rwa [Has, count, size] at has

theorem Holds.clear (h : ram.Holds header past) (now : UInt64) :
    ram.clear.Holds header (.reset now :: past) :=
  ⟨clear_fits h.fits, fun cell _ => byte_clear ram cell⟩

theorem Holds.fill (h : ram.Holds header past) (given : Array (Array Byte)) :
    (ram.fill given).Holds header (.fill given :: past) := by
  have fits := fill_fits h.fits given
  exact ⟨fits, fun cell has => byte_fill h.fits given (has.congr h.fits fits)⟩

/-- A store that reaches no cell changes none. -/
theorem Holds.skip (h : ram.Holds header past) (now : UInt64) {store : Store}
    (misses : header.ramCell? past store.addr = none) :
    ram.Holds header (.store now store :: past) := by
  refine ⟨h.fits, fun cell has => ?_⟩
  rw [h.bytes cell has, Header.ramByte, misses, if_neg (Option.some_ne_none cell).symm]

theorem Holds.write (h : ram.Holds header past) (now : UInt64) {bank : Nat} {store : Store}
    (hits : header.ramCell? past store.addr =
      if 0 < ram.bankCount then some (ram.cell bank store.addr) else none) :
    (ram.write bank store.addr store.value).Holds header (.store now store :: past) := by
  have fits := write_fits h.fits bank store.addr store.value
  refine ⟨fits, fun cell has => ?_⟩
  have has := has.congr h.fits fits
  have fitted : 0 < ram.bankCount := Nat.zero_lt_of_lt has.1
  rw [byte_write h.fits bank store.addr store.value has, Header.ramByte, hits, if_pos fitted,
    h.bytes cell has]
  simp only [Option.some_inj]

theorem Holds.contents_eq (h : ram.Holds header past) (maskable : header.Maskable) :
    ram.contents = header.ramContents past := by
  have count := bankCount_eq h.fits maskable
  have size := bankSize_eq h.fits
  rw [ExternalRam.contents_eq, Header.ramContents]
  apply Array.ext
  · rw [Array.size_ofFn, Array.size_ofFn, count]
  · intro bank hbank _
    have bankInside : bank < ram.bankCount := by simpa using hbank
    rw [Array.getElem_ofFn, Array.getElem_ofFn]
    apply Array.ext
    · rw [Array.size_ofFn, Array.size_ofFn, size]
    · intro offset hoffset _
      have offsetInside : offset < ram.bankSize := by simpa using hoffset
      rw [Array.getElem_ofFn, Array.getElem_ofFn]
      exact h.bytes ⟨bank, offset⟩ ⟨bankInside, offsetInside⟩

end Holds

end ExternalRam

namespace Slot

section Ram

variable {cartridge : Cartridge} {past : List SlotEvent} {slot : Slot}

/-- What is done to a slot leaves its RAM with the bytes of the past. -/
theorem Recalls.apply_holds (recalls : slot.Recalls cartridge past)
    (maskable : cartridge.header.Maskable) (h : slot.ram.Holds cartridge.header past)
    (event : SlotEvent) : (slot.apply event).ram.Holds cartridge.header (event :: past) := by
  cases event with
  | fill given => exact h.fill given
  | reset now => exact h.clear now
  | store now store =>
      change (slot.write now store.addr store.value).ram.Holds _ _
      by_cases window : 0xA000 ≤ store.addr.toNat ∧ store.addr.toNat < 0xC000
      · have behind := Header.ramCell?_eq recalls.banking h.fits maskable window
        rw [slot.write_window now _ window]
        cases hexternal : slot.banking.external with
        | closed =>
            rw [hexternal] at behind
            exact h.skip now behind
        | clock register =>
            rw [hexternal] at behind
            exact h.skip now behind
        | bank n =>
            rw [hexternal] at behind
            exact h.write now behind
      · have same : (slot.write now store.addr store.value).ram = slot.ram := by
          by_cases low : store.addr.toNat < 0x8000
          · rw [slot.write_low now _ low]
          · rw [slot.write_elsewhere now _ (Nat.le_of_not_lt low) window]
        rw [same]
        exact h.skip now (Header.ramCell?_outside window)

theorem after_holds (recalls : slot.Recalls cartridge []) (maskable : cartridge.header.Maskable)
    (h : slot.ram.Holds cartridge.header []) (past : List SlotEvent) :
    (slot.after past).ram.Holds cartridge.header past := by
  induction past with
  | nil => exact h
  | cons event earlier ih => exact (after_recalls recalls earlier).apply_holds maskable ih event

theorem Recalls.read_cell (recalls : slot.Recalls cartridge past)
    (maskable : cartridge.header.Maskable) (h : slot.ram.Holds cartridge.header past) {addr : Word}
    {cell : RamCell} (hits : cartridge.header.ramCell? past addr = some cell) :
    slot.read addr = cartridge.header.board.seen (cartridge.header.ramByte cell past) := by
  have window := Header.ramCell?_window hits
  have behind := Header.ramCell?_eq recalls.banking h.fits maskable window
  rw [hits] at behind
  rw [slot.read_window window]
  cases hexternal : slot.banking.external with
  | closed =>
      rw [hexternal] at behind
      cases behind
  | clock register =>
      rw [hexternal] at behind
      cases behind
  | bank n =>
      rw [hexternal] at behind
      dsimp only at behind ⊢
      split at behind
      · next fitted =>
          rw [ExternalRam.read_eq h.fits, if_pos fitted,
            h.bytes _ (ExternalRam.cell_has fitted n addr), Option.some.inj behind]
      · cases behind

/-- Where there is neither a cell nor a register of a clock chip, nothing answers. -/
theorem Recalls.read_nothing (recalls : slot.Recalls cartridge past)
    (maskable : cartridge.header.Maskable) (h : slot.ram.Holds cartridge.header past) {addr : Word}
    (window : 0xA000 ≤ addr.toNat ∧ addr.toNat < 0xC000)
    (misses : cartridge.header.ramCell? past addr = none)
    (clockless : Banking.clockOpen cartridge.header.board past = false) : slot.read addr = 0xFF := by
  have behind := Header.ramCell?_eq recalls.banking h.fits maskable window
  rw [misses] at behind
  rw [slot.read_window window]
  cases hexternal : slot.banking.external with
  | closed => rfl
  | clock register =>
      have absent : slot.clock = none := by
        rw [recalls.banking.clockOpen_eq hexternal] at clockless
        rw [← Option.not_isSome_iff_eq_none, recalls.clock, clockless]
        exact Bool.false_ne_true
      dsimp only
      rw [absent]
  | bank n =>
      rw [hexternal] at behind
      dsimp only at behind ⊢
      split at behind
      · cases behind
      · next bare => rw [ExternalRam.read_eq h.fits, if_neg bare]

end Ram

end Slot

end DotMatrix
