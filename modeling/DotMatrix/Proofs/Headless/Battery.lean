import Mathlib.Data.List.OfFn
import DotMatrix.Proofs.Cartridge.RamStore
import DotMatrix.Proofs.Headless.Ready

/-!
The battery file and the RAM that it is of. The file has all the cells, bank after bank; a file that is
put in is cut or filled up with zeros to that size, and a half-byte cell keeps the lower half. So what
was taken out goes in again as it was.
-/

namespace DotMatrix

theorem place_split {size offset : Nat} (bank : Nat) (inside : offset < size) :
    (bank * size + offset) / size = bank ∧ (bank * size + offset) % size = offset := by
  have room : 0 < size := Nat.zero_lt_of_lt inside
  rw [Nat.mul_comm]
  constructor
  · rw [Nat.mul_add_div room, Nat.div_eq_of_lt inside, Nat.add_zero]
  · rw [Nat.mul_add_mod, Nat.mod_eq_of_lt inside]

theorem flatten_ofFn {α : Type} (m n : Nat) (f : Nat → Nat → α) :
    (Array.ofFn fun i : Fin m => Array.ofFn fun j : Fin n => f i j).flatten =
      Array.ofFn fun i : Fin (m * n) => f (i / n) (i % n) := by
  apply Array.toList_inj.mp
  rw [Array.toList_flatten, Array.toList_ofFn, Array.toList_ofFn, List.ofFn_mul, List.map_ofFn]
  congr 2
  funext i
  simp only [Function.comp, Array.toList_ofFn]
  congr 1
  funext j
  obtain ⟨row, column⟩ := place_split i.val j.isLt
  rw [row, column]

/-- A byte is found in its piece, if it is in one. -/
theorem chunks_getD {size : Nat} (data : Array Byte) (bank : Nat) {offset : Nat}
    (inside : offset < size) :
    ((chunks size data).getD bank #[]).getD offset 0 = data.getD (bank * size + offset) 0 := by
  have room : 0 < size := Nat.zero_lt_of_lt inside
  have pieces : bank < (data.size + size - 1) / size ↔ bank * size < data.size := by
    rw [Nat.lt_div_iff_mul_lt room]
    omega
  have ends : (bank + 1) * size = bank * size + size := Nat.succ_mul bank size
  simp only [chunks, Array.getD_eq_getD_getElem?, Array.getElem?_map, Array.getElem?_range, pieces]
  by_cases reached : bank * size < data.size
  · simp only [reached, if_true, Option.map_some, Option.getD_some, Array.getElem?_extract, ends]
    by_cases within : bank * size + offset < data.size
    · rw [if_pos (by omega)]
    · rw [if_neg (by omega), Array.getElem?_eq_none (Nat.le_of_not_lt within)]
  · have past : data.size ≤ bank * size + offset := by omega
    simp [reached, Array.getElem?_eq_none past]

namespace Header

/-- How many bytes a battery file has. -/
def batterySize (header : Header) : Nat :=
  header.ram.banks * header.board.bankCells

/-- What is kept of a battery file: as much as there are cells for, with zeros where it is too short. -/
def padded (header : Header) (data : Array Byte) : Array Byte :=
  Array.ofFn fun i : Fin header.batterySize => header.board.kept (data.getD i 0)

theorem padded_size (header : Header) (data : Array Byte) :
    (header.padded data).size = header.batterySize :=
  Array.size_ofFn

theorem kept_idem (board : Board) (b : Byte) : board.kept (board.kept b) = board.kept b := by
  unfold Board.kept
  split
  · exact ExternalRam.low_idem b
  · rfl

theorem padded_padded (header : Header) (data : Array Byte) :
    header.padded (header.padded data) = header.padded data := by
  apply Array.ext
  · rw [padded_size, padded_size]
  · intro i _ inside
    have here : (header.padded data).getD i 0 = header.board.kept (data.getD i 0) := by
      rw [Array.getD_eq_getD_getElem?, Array.getElem?_eq_getElem inside, Option.getD_some]
      simp only [padded, Array.getElem_ofFn]
    simp only [padded, Array.getElem_ofFn] at here ⊢
    rw [here, kept_idem]

end Header

namespace ExternalRam

variable {header : Header} {ram ram' : ExternalRam}

/-- A battery file has the cells of the banks one after the other. -/
theorem flatten_contents (ram : ExternalRam) :
    ram.contents.flatten =
      Array.ofFn fun i : Fin (ram.bankCount * ram.bankSize) =>
        ram.byte ⟨i / ram.bankSize, i % ram.bankSize⟩ := by
  rw [contents_eq]
  exact flatten_ofFn ram.bankCount ram.bankSize fun bank offset => ram.byte ⟨bank, offset⟩

theorem byte_chunks (h : ram.Fits header) (data : Array Byte) {cell : RamCell} (has : ram.Has cell) :
    (ram.fill (chunks ram.bankSize data)).byte cell =
      header.board.kept (data.getD (cell.bank * ram.bankSize + cell.offset) 0) := by
  rw [byte_fill h _ has, chunks_getD data cell.bank has.2]

theorem fill_chunks_padded (h : ram.Fits header) (maskable : header.Maskable) (data : Array Byte) :
    (ram.fill (chunks ram.bankSize data)).contents.flatten = header.padded data := by
  obtain ⟨count, size, -⟩ := h.alike (fill_fits h (chunks ram.bankSize data))
  have whole : header.batterySize = ram.bankCount * ram.bankSize := by
    rw [Header.batterySize, bankCount_eq h maskable, bankSize_eq h]
  rw [flatten_contents, count, size]
  apply Array.ext
  · rw [Array.size_ofFn, Header.padded_size, whole]
  · intro i inside _
    have inside : i < ram.bankCount * ram.bankSize := by simpa using inside
    have room : 0 < ram.bankSize := Nat.pos_of_mul_pos_left (Nat.zero_lt_of_lt inside)
    have has : ram.Has ⟨i / ram.bankSize, i % ram.bankSize⟩ :=
      ⟨(Nat.div_lt_iff_lt_mul room).mpr inside, Nat.mod_lt i room⟩
    simp only [Header.padded, Array.getElem_ofFn, byte_chunks h data has, Nat.div_add_mod']

/-- What a cell holds it keeps. -/
theorem kept_byte (h : ram.Fits header) {cell : RamCell} (has : ram.Has cell) :
    header.board.kept (ram.byte cell) = ram.byte cell := by
  cases ram with
  | banks bs => rw [Board.kept, if_neg h.1]
  | nibbles cells =>
      have inside : cell.offset < Board.nibbleCount := has.2
      rw [Board.kept, if_pos h.1, byte, Memory.read_eq_getElem cells inside]
      exact h.2 cell.offset inside

theorem flatten_getD {cell : RamCell} (has : ram.Has cell) :
    ram.contents.flatten.getD (cell.bank * ram.bankSize + cell.offset) 0 = ram.byte cell := by
  obtain ⟨bank, offset⟩ := cell
  obtain ⟨bankInside, offsetInside⟩ := has
  have inside : bank * ram.bankSize + offset < ram.bankCount * ram.bankSize :=
    calc bank * ram.bankSize + offset
        < bank * ram.bankSize + ram.bankSize := Nat.add_lt_add_left offsetInside _
      _ = (bank + 1) * ram.bankSize := (Nat.succ_mul bank ram.bankSize).symm
      _ ≤ ram.bankCount * ram.bankSize := Nat.mul_le_mul_right _ bankInside
  obtain ⟨bankBack, offsetBack⟩ := place_split bank offsetInside
  simp only [flatten_contents, Array.getD_eq_getD_getElem?, Array.getElem?_ofFn, inside, dif_pos,
    Option.getD_some, bankBack, offsetBack]

/-- Two RAMs of the same cartridge with the same bytes in the cells have the same contents. -/
theorem contents_ext (h : ram.Fits header) (h' : ram'.Fits header)
    (bytes : ∀ cell, ram.Has cell → ram'.byte cell = ram.byte cell) :
    ram'.contents = ram.contents := by
  obtain ⟨count, size, -⟩ := h.alike h'
  rw [contents_eq ram', contents_eq ram, count, size]
  congr 1
  funext bank
  congr 1
  funext offset
  exact bytes ⟨bank, offset⟩ ⟨bank.isLt, offset.isLt⟩

/-- What was taken out of a RAM goes into any other of the same cartridge as it was. -/
theorem fill_chunks_contents (h : ram.Fits header) (h' : ram'.Fits header) :
    (ram.fill (chunks ram.bankSize ram'.contents.flatten)).contents = ram'.contents := by
  apply contents_ext h' (fill_fits h _)
  intro cell has
  have size : ram.bankSize = ram'.bankSize := (h'.alike h).2.1
  rw [byte_chunks h _ (has.congr h h'), size, flatten_getD has, kept_byte h' has]

end ExternalRam

/-- The cartridge has a battery, and a RAM for it to keep. -/
structure Cartridge.Lasting (cartridge : Cartridge) : Prop where
  battery : cartridge.header.board.battery = true
  fitted : 0 < cartridge.header.ram.banks
  maskable : cartridge.header.Maskable

theorem Slot.keepsRam_eq {slot : Slot} (fits : slot.ram.Fits slot.cartridge.header)
    (lasts : slot.cartridge.Lasting) : slot.keepsRam = true := by
  have some : slot.ram.bankCount ≠ 0 := by
    rw [ExternalRam.bankCount_eq fits lasts.maskable]
    exact Nat.ne_of_gt lasts.fitted
  rw [Slot.keepsRam, lasts.battery, bne_iff_ne.mpr some]
  rfl

namespace Console

namespace Carries

variable {c c' : Console} {cartridge : Cartridge}

section Lasting

variable (lasts : cartridge.Lasting)
include lasts

/-- What is kept of the console are the banks of its RAM, one after the other. -/
theorem batteryData?_eq (h : c.Carries cartridge) :
    ∃ banks, c.bus.slot.map (·.ram.contents) = some banks ∧
      c.batteryData? = some banks.flatten ∧ banks.flatten.size = cartridge.header.batterySize := by
  obtain ⟨slot, hslot, rfl, fits⟩ := h.slot
  refine ⟨slot.ram.contents, ?_, ?_, ?_⟩
  · rw [hslot, Option.map_some]
  · simp only [batteryData?, hslot, Slot.keepsRam_eq fits lasts, if_true, Slot.batteryData]
  · rw [ExternalRam.flatten_contents, Array.size_ofFn, Header.batterySize,
      ExternalRam.bankCount_eq fits lasts.maskable, ExternalRam.bankSize_eq fits]

theorem loadBattery_slot (h : c.Carries cartridge) (data : Array Byte) :
    ∃ slot : Slot, slot.cartridge = cartridge ∧ slot.ram.Fits cartridge.header ∧
      (c.loadBattery data).bus.slot = some (slot.loadBattery data) := by
  obtain ⟨slot, hslot, rfl, fits⟩ := h.slot
  refine ⟨slot, rfl, fits, ?_⟩
  simp only [Console.loadBattery, hslot, Slot.keepsRam_eq fits lasts, if_true]

/-- A file that is put in is kept as far as there are cells, and what is missing is zero. -/
theorem loadBattery_padded (h : c.Carries cartridge) (data : Array Byte) :
    (c.loadBattery data).bus.slot.map (·.ram.contents.flatten) =
        some (cartridge.header.padded data) ∧
      (c.loadBattery data).batteryData? = some (cartridge.header.padded data) := by
  obtain ⟨slot, rfl, fits, after⟩ := h.loadBattery_slot lasts data
  obtain ⟨banks, held, kept, -⟩ := (h.loadBattery data).batteryData?_eq lasts
  have padded := ExternalRam.fill_chunks_padded fits lasts.maskable data
  rw [after, Option.map_some] at held ⊢
  rw [kept, ← Option.some.inj held]
  exact ⟨congrArg some padded, congrArg some padded⟩

/-- The RAM of a console goes into another with the same cartridge as it is. -/
theorem loadBattery_same (h : c.Carries cartridge) (h' : c'.Carries cartridge)
    {banks : Array (Array Byte)} (held : c'.bus.slot.map (·.ram.contents) = some banks) :
    (c.loadBattery banks.flatten).bus.slot.map (·.ram.contents) = some banks := by
  obtain ⟨slot, rfl, fits, after⟩ := h.loadBattery_slot lasts banks.flatten
  obtain ⟨slot', hslot', -, fits'⟩ := h'.slot
  rw [hslot', Option.map_some] at held
  rw [after, Option.map_some, ← Option.some.inj held]
  exact congrArg some (ExternalRam.fill_chunks_contents fits fits')

end Lasting

end Carries

end Console

namespace Headless

section Prepare

variable {rom : String} {bytes : Array Byte} {battery : ReadResult} {settings : Settings}
  {now : UInt64} {c : Console} {cartridge : Cartridge}
  (accepted : Cartridge.ofImage bytes = .ok cartridge) (lasts : cartridge.Lasting)
  (wanted : settings.saveRam = true)
include accepted lasts wanted

/-- A console with a RAM to keep begins with what the battery file has, if there is one. -/
theorem prepare_lasting (battery : ReadResult) :
    prepare rom (.ok bytes) battery settings now =
      match battery with
      | .ok data => .ok (((Console.initial now).insert cartridge).loadBattery data)
      | .error .missing => .ok ((Console.initial now).insert cartridge)
      | .error .unreadable => .error (.fileTrouble (batteryFile rom)) := by
  obtain ⟨banks, -, kept, -⟩ := (Console.insert_carries now cartridge).batteryData?_eq lasts
  rw [prepare_eq accepted, if_pos wanted]
  unfold loadBattery
  rw [kept]
  cases battery with
  | ok data => rfl
  | error fault => cases fault <;> rfl

end Prepare

end Headless

end DotMatrix
