import DotMatrix.Cartridge.Slot
import DotMatrix.Proofs.Cartridge.Header
import DotMatrix.Proofs.Checked.Basic

/-!
Cartridges with their checks: reading a header, counting in the clock chip, and the offsets into the ROM
and the RAM. An image may be of any size, the banking registers may hold anything, and any time may
pass between two uses of the clock chip.
-/

namespace DotMatrix

namespace ClockCounters

section Ticks

local instance secondsAndMinutes_neZero : NeZero 64 := ⟨by decide⟩

local instance hours_neZero : NeZero 32 := ⟨by decide⟩

local instance days_neZero : NeZero 512 := ⟨by decide⟩

def dayTickChecked (c : ClockCounters) : Checked ClockCounters :=
  if 511 ≤ c.days.val then return { c with days := 0, overflow := true }
  else do
    let days ← Checked.add 16 c.days.val 1
    return { c with days := Fin.ofNat 512 days }

theorem dayTickChecked_eq (c : ClockCounters) : c.dayTickChecked = some c.dayTick := by
  have range := c.days.isLt
  unfold dayTickChecked dayTick
  by_cases last : c.days = 511
  · have reached : 511 ≤ c.days.val := by
      rw [last]
      decide
    rw [if_pos last, if_pos reached]
    rfl
  · have below : ¬ 511 ≤ c.days.val := by
      intro reached
      apply last
      apply Fin.ext
      exact Nat.le_antisymm (Nat.le_of_lt_succ range) reached
    rw [if_neg last, if_neg below, Checked.add_eq (by omega)]
    rfl

def hourTickChecked (c : ClockCounters) : Checked ClockCounters := do
  let hours ← Checked.add 8 c.hours.val 1
  if c.hours = 23 then dayTickChecked { c with hours := 0 }
  else return { c with hours := Fin.ofNat 32 hours }

theorem hourTickChecked_eq (c : ClockCounters) : c.hourTickChecked = some c.hourTick := by
  have range := c.hours.isLt
  simp only [hourTickChecked, hourTick, Checked.add_eq (show c.hours.val + 1 < 2 ^ 8 by omega),
    Option.bind_eq_bind, Option.bind_some, dayTickChecked_eq]
  exact (apply_ite some _ _ _).symm

def minuteTickChecked (c : ClockCounters) : Checked ClockCounters := do
  let minutes ← Checked.add 8 c.minutes.val 1
  if c.minutes = 59 then hourTickChecked { c with minutes := 0 }
  else return { c with minutes := Fin.ofNat 64 minutes }

theorem minuteTickChecked_eq (c : ClockCounters) : c.minuteTickChecked = some c.minuteTick := by
  have range := c.minutes.isLt
  simp only [minuteTickChecked, minuteTick,
    Checked.add_eq (show c.minutes.val + 1 < 2 ^ 8 by omega), Option.bind_eq_bind,
    Option.bind_some, hourTickChecked_eq]
  exact (apply_ite some _ _ _).symm

end Ticks

def untilMinuteChecked (c : ClockCounters) : Checked Nat := do
  if c.seconds.val ≤ 59 then Checked.sub 60 c.seconds.val
  else Checked.add 64 (← Checked.sub 64 c.seconds.val) 60

theorem untilMinuteChecked_eq (c : ClockCounters) : c.untilMinuteChecked = some c.untilMinute := by
  have range := c.seconds.isLt
  unfold untilMinuteChecked untilMinute
  split
  · exact Checked.sub_eq (by omega)
  · rw [Checked.sub_eq (by omega)]
    exact Checked.add_eq (by omega)

def advanceChecked (c : ClockCounters) (elapsed : Nat) : Checked ClockCounters :=
  match h : c.untilMinuteChecked with
  | none => none
  | some untilMinute =>
    have : 0 < untilMinute := by
      rw [Option.some.inj (h.symm.trans c.untilMinuteChecked_eq)]
      exact c.untilMinute_pos
    if elapsed < untilMinute then do
      let seconds ← Checked.add 64 c.seconds.val elapsed
      return { c with seconds := Fin.ofNat 64 seconds }
    else do
      let next ← minuteTickChecked { c with seconds := 0 }
      next.advanceChecked (elapsed - untilMinute)
termination_by elapsed

theorem advanceChecked_eq (c : ClockCounters) (elapsed : Nat) :
    c.advanceChecked elapsed = some (c.advance elapsed) := by
  induction elapsed using Nat.strongRecOn generalizing c with
  | ind elapsed ih =>
      have range := c.seconds.isLt
      have pos := c.untilMinute_pos
      have most : c.untilMinute ≤ 123 := by
        unfold untilMinute
        split <;> omega
      rw [advanceChecked, advance]
      split
      case h_1 failed => cases failed.symm.trans c.untilMinuteChecked_eq
      case h_2 untilMinute value =>
        cases Option.some.inj (value.symm.trans c.untilMinuteChecked_eq)
        split
        · rw [Checked.add_eq (by omega)]
          rfl
        · rw [minuteTickChecked_eq, Option.bind_eq_bind, Option.bind_some]
          exact ih _ (by omega) _

end ClockCounters

namespace ClockChip

def syncChecked (chip : ClockChip) (now : UInt64) : Checked ClockChip := do
  let counters ← (if chip.counters.halted then some chip.counters
    else chip.counters.advanceChecked (now.toNat - chip.syncedAt.toNat))
  return { chip with counters := counters, syncedAt := now }

theorem syncChecked_eq (chip : ClockChip) (now : UInt64) :
    chip.syncChecked now = some (chip.sync now) := by
  unfold syncChecked sync
  rw [ClockCounters.advanceChecked_eq, ← apply_ite some]
  rfl

def latchChecked (chip : ClockChip) (now : UInt64) : Checked ClockChip := do
  let chip ← chip.syncChecked now
  return { chip with latched := chip.counters }

theorem latchChecked_eq (chip : ClockChip) (now : UInt64) :
    chip.latchChecked now = some (chip.latch now) := by
  rw [latchChecked, syncChecked_eq]
  rfl

def writeChecked (chip : ClockChip) (now : UInt64) (register value : Byte) : Checked ClockChip := do
  let counters := (← chip.syncChecked now).counters.write register value
  return { counters := counters, latched := counters, syncedAt := now }

theorem writeChecked_eq (chip : ClockChip) (now : UInt64) (register value : Byte) :
    chip.writeChecked now register value = some (chip.write now register value) := by
  rw [writeChecked, syncChecked_eq]
  rfl

end ClockChip

/-- The number of ROM banks for a size byte, if the byte stands for one. -/
def romBanksChecked? (code : Byte) : Checked (Option Nat) :=
  if code.toNat ≤ 8 then do return some (2 <<< (← Checked.shift 64 code.toNat))
  else return romBanks? code

theorem romBanksChecked?_eq (code : Byte) : romBanksChecked? code = some (romBanks? code) := by
  unfold romBanksChecked?
  split
  case isTrue small =>
    have amount : code.toNat < 64 := by omega
    rw [Checked.shift_eq amount]
    unfold romBanks?
    split
    case h_1 code | h_2 code | h_3 code => omega
    case h_4 => rw [if_pos small]; rfl
  case isFalse => rfl

theorem romBanks?_le {code : Byte} {n : Nat} (h : romBanks? code = some n) : n ≤ 512 := by
  unfold romBanks? at h
  split at h
  case h_4 =>
    split at h
    case isTrue small =>
      cases h
      rw [Nat.shiftLeft_eq]
      have power := Nat.pow_le_pow_right (show 0 < 2 by decide) small
      omega
    case isFalse => cases h
  all_goals
    cases h
    decide

theorem RamSize.ofCode?_le {code : Byte} {size : RamSize} (h : RamSize.ofCode? code = some size) :
    size.banks ≤ 16 := by
  unfold RamSize.ofCode? at h
  split at h
  case h_7 => cases h
  all_goals
    cases h
    decide

theorem RamSize.fitted_le {stated : RamSize} (h : stated.banks ≤ 16) (board : Board) :
    (stated.fitted board).banks ≤ 16 := by
  unfold RamSize.fitted
  split
  · decide
  · split <;> decide
  · split
    · exact h
    · decide

namespace Header

/-- Reads a header byte by byte. An image that is too short is turned down first. -/
def ofImageChecked (image : Array Byte) : Checked (Except Failure Header) := do
  if image.size < minImageSize then
    return .error (.imageTooShort image.size)
  let typeCode : Byte ← image[0x0147]?
  let some board := Board.ofType? typeCode
    | return .error (.unknownCartridgeType typeCode)
  let romCode : Byte ← image[0x0148]?
  let some romBanks ← romBanksChecked? romCode
    | return .error (.unknownRomSize romCode)
  let _ ← Checked.mul 64 romBanks Board.romBankSize
  let ramCode : Byte ← image[0x0149]?
  let some stated := RamSize.ofCode? ramCode
    | return .error (.unknownRamSize ramCode)
  let colour : Byte ← image[0x0143]?
  let sgb : Byte ← image[0x0146]?
  let region : Byte ← image[0x014A]?
  let version : Byte ← image[0x014C]?
  let checksum : Byte ← image[0x014D]?
  let globalHigh : Byte ← image[0x014E]?
  let globalLow : Byte ← image[0x014F]?
  return .ok {
    title := text (← Checked.slice image 0x0134 0x0144).toList
    manufacturer := text (← Checked.slice image 0x013F 0x0143).toList
    colour :=
      match colour.toNat with
      | 0xC0 => .required
      | 0x80 => .allowed
      | _ => .absent
    newLicensee := text (← Checked.slice image 0x0144 0x0146).toList
    sgb := sgb == 0x03
    typeCode := typeCode
    board := board
    romBanks := romBanks
    ram := stated.fitted board
    region := if region == 0x00 then .japanese else .overseas
    version := version
    checksum := checksum
    globalChecksum := .ofBytes globalHigh globalLow
    computedChecksum := checksumOf (← Checked.slice image 0x0134 0x014D).toList }

theorem ofImageChecked_eq (image : Array Byte) :
    ofImageChecked image = some (ofImage image) := by
  by_cases short : image.size < minImageSize
  · simp only [ofImageChecked, ofImage, if_pos short]
    rfl
  · unfold minImageSize at short
    have byte : ∀ i < 0x0150, image[i]? = some (image.getD i 0) := by
      intro i hi
      have inside : i < image.size := by omega
      rw [Array.getElem?_eq_getElem inside, Array.getD_eq_getD_getElem?,
        Array.getElem?_eq_getElem inside, Option.getD_some]
    have field : ∀ start stop, start ≤ stop → stop ≤ 0x0150 →
        Checked.slice image start stop = some (image.extract start stop) :=
      fun start stop order last => Checked.slice_eq order (by omega)
    have long : ¬ image.size < minImageSize := short
    simp only [ofImageChecked, ofImage, if_neg long, byte 0x0147 (by decide),
      byte 0x0148 (by decide), byte 0x0149 (by decide), byte 0x0143 (by decide),
      byte 0x0146 (by decide), byte 0x014A (by decide), byte 0x014C (by decide),
      byte 0x014D (by decide), byte 0x014E (by decide), byte 0x014F (by decide),
      field 0x0134 0x0144 (by decide) (by decide), field 0x013F 0x0143 (by decide) (by decide),
      field 0x0144 0x0146 (by decide) (by decide), field 0x0134 0x014D (by decide) (by decide),
      romBanksChecked?_eq, Option.bind_eq_bind, Option.bind_some]
    cases Board.ofType? (image.getD 0x0147 0) with
    | none => rfl
    | some board =>
        cases banks : romBanks? (image.getD 0x0148 0) with
        | none => rfl
        | some romBanks =>
            have most := romBanks?_le banks
            have bytes : romBanks * Board.romBankSize < 2 ^ 64 := by
              unfold Board.romBankSize
              omega
            simp only [Checked.mul_eq bytes, Option.bind_some]
            cases RamSize.ofCode? (image.getD 0x0149 0) with
            | none => rfl
            | some stated => rfl

theorem ofImage_banks {image : Array Byte} {header : Header} (h : ofImage image = .ok header) :
    header.romBanks ≤ 512 ∧ header.ram.banks ≤ 16 := by
  obtain ⟨stated, banks, size, fitted⟩ := ofImage_sizes h
  rw [fitted]
  exact ⟨romBanks?_le banks, RamSize.fitted_le (RamSize.ofCode?_le size) header.board⟩

end Header

namespace Cartridge

def ofImageChecked (image : Array Byte) : Checked (Except Failure Cartridge) := do
  return (← Header.ofImageChecked image).map fun header => ⟨image, header⟩

theorem ofImageChecked_eq (image : Array Byte) : ofImageChecked image = some (ofImage image) := by
  rw [ofImageChecked, Header.ofImageChecked_eq, ofImage]
  cases Header.ofImage image <;> rfl

theorem ofImage_banks {image : Array Byte} {cartridge : Cartridge}
    (h : ofImage image = .ok cartridge) :
    cartridge.header.romBanks ≤ 512 ∧ cartridge.header.ram.banks ≤ 16 :=
  Header.ofImage_banks (ofImage_header h)

end Cartridge

namespace Checked

/-- The mask for numbers below the least power of two that is not below a number. -/
def mask (width n : Nat) : Checked Nat := do
  let below ← sub n 1
  let amount ← shift width (if below = 0 then 0 else below.log2 + 1)
  sub (1 <<< amount) 1

theorem mask_isSome {width n : Nat} (pos : 0 < n) (wide : 0 < width) (most : n ≤ 2 ^ (width - 1)) :
    ∃ value, mask width n = some value := by
  have amount : (if n - 1 = 0 then 0 else (n - 1).log2 + 1) < width := by
    split
    · exact wide
    · next more =>
        have power : n - 1 < 2 ^ (width - 1) := by omega
        have := (Nat.log2_lt more).mpr power
        omega
  have power : 1 ≤ 1 <<< (if n - 1 = 0 then 0 else (n - 1).log2 + 1) := by
    rw [Nat.one_shiftLeft]
    exact Nat.one_le_two_pow
  simp only [mask, sub_eq pos, shift_eq amount, sub_eq power, Option.bind_eq_bind,
    Option.bind_some]
  exact ⟨_, rfl⟩

end Checked

namespace Memory

/-- Copies bytes to the start of a memory of zeros: as many as there are, or as it has room for. -/
def copyChecked (n : Nat) (bytes : Array Byte) : Checked (Memory n) := do
  let count := min bytes.size n
  let source ← Checked.slice bytes 0 count
  let target ← Checked.slice (zeros n).toArray 0 count
  if source.size = target.size then return .ofArray n source else none

theorem copyChecked_eq (n : Nat) (bytes : Array Byte) :
    copyChecked n bytes = some (.ofArray n bytes) := by
  have given : min bytes.size n ≤ bytes.size := Nat.min_le_left _ _
  have room : min bytes.size n ≤ (zeros n).toArray.size := by
    rw [(zeros n).size_toArray]
    exact Nat.min_le_right _ _
  have sizes : (bytes.extract 0 (min bytes.size n)).size =
      ((zeros n).toArray.extract 0 (min bytes.size n)).size := by
    rw [Array.size_extract, Array.size_extract, Nat.min_eq_left given, Nat.min_eq_left room]
  simp only [copyChecked, Checked.slice_eq (Nat.zero_le _) given,
    Checked.slice_eq (Nat.zero_le _) room, Option.bind_eq_bind, Option.bind_some, if_pos sizes]
  apply congrArg some
  apply Vector.ext
  intro i hi
  simp only [ofArray, Vector.getElem_ofFn, Array.getD_eq_getD_getElem?, Array.getElem?_extract,
    Nat.zero_add, Nat.sub_zero]
  by_cases inside : i < bytes.size
  · have copied : i < min (min bytes.size n) bytes.size := by omega
    rw [if_pos copied]
  · have missing : ¬ i < min (min bytes.size n) bytes.size := by omega
    rw [if_neg missing, Array.getElem?_eq_none (Nat.le_of_not_lt inside)]

end Memory

namespace ExternalRam

/-- A byte of a bank. If there is a bank at all, the bank that is asked for is there. -/
def readChecked (ram : ExternalRam) (bank : Nat) (addr : Word) : Checked Byte :=
  match ram with
  | banks bs =>
    if bs.isEmpty then return 0xFF
    else do
      let memory ← bs[bank % bs.size]?
      memory.readChecked addr.toNat
  | nibbles cells => do
    let offset ← Checked.sub addr.toNat 0xA000
    return 0xF0 ||| (← cells.readChecked offset)

/-- The window of the RAM begins where a copy of the half-byte cells does. -/
theorem sub_window_mod {addr : Word} (h : 0xA000 ≤ addr.toNat) :
    (addr.toNat - 0xA000) % Board.nibbleCount = addr.toNat % Board.nibbleCount := by
  unfold Board.nibbleCount
  omega

theorem readChecked_eq (ram : ExternalRam) (bank : Nat) {addr : Word} (h : 0xA000 ≤ addr.toNat) :
    ram.readChecked bank addr = some (ram.read bank addr) := by
  cases ram with
  | banks bs =>
      simp only [readChecked, read]
      by_cases none : bs.size = 0
      · rw [if_pos (Array.isEmpty_iff_size_eq_zero.mpr none), Array.getElem?_eq_none (by omega)]
        rfl
      · have inside := Nat.mod_lt bank (Nat.pos_of_ne_zero none)
        have count : max bs.size 1 = bs.size := by omega
        rw [if_neg (mt Array.isEmpty_iff_size_eq_zero.mp none), count,
          Array.getElem?_eq_getElem inside]
        exact Memory.readChecked_eq (by decide) _ _
  | nibbles cells =>
      have wrapped : cells.read (addr.toNat - 0xA000) = cells.read addr.toNat := by
        rw [Memory.read, Memory.read, sub_window_mod h]
      have positive : 0 < Board.nibbleCount := by decide
      simp only [readChecked, read, Checked.sub_eq h, Memory.readChecked_eq positive,
        Option.bind_eq_bind, Option.bind_some, wrapped]
      rfl

def writeChecked (ram : ExternalRam) (bank : Nat) (addr : Word) (value : Byte) :
    Checked ExternalRam :=
  match ram with
  | banks bs =>
    if bs.isEmpty then return ram
    else do
      let memory ← (← bs[bank % bs.size]?).writeChecked addr.toNat value
      return banks (bs.setIfInBounds (bank % bs.size) memory)
  | nibbles cells => do
    let offset ← Checked.sub addr.toNat 0xA000
    return nibbles (← cells.writeChecked offset (value &&& 0x0F))

theorem writeChecked_eq (ram : ExternalRam) (bank : Nat) {addr : Word} (h : 0xA000 ≤ addr.toNat)
    (value : Byte) : ram.writeChecked bank addr value = some (ram.write bank addr value) := by
  cases ram with
  | banks bs =>
      simp only [writeChecked, write]
      by_cases none : bs.size = 0
      · cases Array.eq_empty_of_size_eq_zero none
        rfl
      · have inside := Nat.mod_lt bank (Nat.pos_of_ne_zero none)
        have count : max bs.size 1 = bs.size := by omega
        rw [if_neg (mt Array.isEmpty_iff_size_eq_zero.mp none), count,
          Array.getElem?_eq_getElem inside]
        have positive : 0 < Board.ramBankSize := by decide
        simp only [Memory.writeChecked_eq positive, Option.bind_eq_bind, Option.bind_some]
        apply congrArg (some ∘ banks)
        apply Array.ext
        · rw [Array.size_setIfInBounds, Array.size_modify]
        · intro i hi hi'
          rw [Array.getElem_setIfInBounds, Array.getElem_modify]
          split
          case isTrue same =>
            cases same
            rfl
          case isFalse => rfl
  | nibbles cells =>
      have wrapped : cells.write (addr.toNat - 0xA000) (value &&& 0x0F) =
          cells.write addr.toNat (value &&& 0x0F) := by
        rw [Memory.write, Memory.write, sub_window_mod h]
      have positive : 0 < Board.nibbleCount := by decide
      simp only [writeChecked, write, Checked.sub_eq h, Memory.writeChecked_eq positive,
        Option.bind_eq_bind, Option.bind_some, wrapped]
      rfl

def fillChecked (ram : ExternalRam) (given : Array (Array Byte)) : Checked ExternalRam :=
  match ram with
  | banks bs => do
    let filled ← Vector.ofFnM fun i : Fin bs.size =>
      Memory.copyChecked Board.ramBankSize (given.getD i.val #[])
    return banks filled.toArray
  | nibbles _ => do
    return nibbles (← Memory.copyChecked _ ((given.getD 0 #[]).map (· &&& 0x0F)))

theorem fillChecked_eq (ram : ExternalRam) (given : Array (Array Byte)) :
    ram.fillChecked given = some (ram.fill given) := by
  cases ram with
  | banks bs =>
      simp only [fillChecked, fill, Checked.ofFnM_eq fun i => Memory.copyChecked_eq _ _,
        Option.bind_eq_bind, Option.bind_some, Vector.toArray_ofFn]
      rfl
  | nibbles cells =>
      rw [fillChecked, Memory.copyChecked_eq]
      rfl

end ExternalRam

namespace Banking

theorem lowBank_lt (b : Banking) : b.lowBank < 2 ^ 16 := by
  unfold lowBank
  split
  · next high =>
      have := high.toNat_lt
      omega
  · decide

theorem highBank_lt (b : Banking) : b.highBank < 2 ^ 16 := by
  unfold highBank
  split
  · decide
  · next low high _ =>
      have := low.toNat_lt
      have := high.toNat_lt
      omega
  · next romBank =>
      have := romBank.toNat_lt
      omega
  · next romBank _ _ =>
      have := romBank.toNat_lt
      omega
  · next romBank _ _ => exact romBank.toNat_lt

end Banking

namespace Slot

/-- A cartridge that is put in: the masks for the numbers of its banks are worked out. -/
def insertChecked (cartridge : Cartridge) (now : UInt64) : Checked Slot := do
  let _ ← Checked.mask 64 (max cartridge.header.romBanks 2)
  let _ ← Checked.mask 64 (max cartridge.header.ram.banks 1)
  return insert cartridge now

theorem insertChecked_eq {image : Array Byte} {cartridge : Cartridge}
    (h : Cartridge.ofImage image = .ok cartridge) (now : UInt64) :
    insertChecked cartridge now = some (insert cartridge now) := by
  obtain ⟨rom, ram⟩ := Cartridge.ofImage_banks h
  have romBanks : max cartridge.header.romBanks 2 ≤ 2 ^ (64 - 1) := by omega
  have ramBanks : max cartridge.header.ram.banks 1 ≤ 2 ^ (64 - 1) := by omega
  obtain ⟨_, romMask⟩ := Checked.mask_isSome (by omega) (by decide) romBanks
  obtain ⟨_, ramMask⟩ := Checked.mask_isSome (by omega) (by decide) ramBanks
  rw [insertChecked, romMask, ramMask]
  rfl

/-- The byte of a ROM bank is asked for with the bound checked, so only its offset has to fit. -/
def readRomChecked (slot : Slot) (bank : Nat) (addr : Word) : Checked Byte := do
  let start ← Checked.mul 64 (bank % romSpan slot.cartridge.header) Board.romBankSize
  let offset ← Checked.add 64 start (addr.toNat % Board.romBankSize)
  return slot.cartridge.image.getD offset 0xFF

theorem readRomChecked_eq (slot : Slot) {bank : Nat} (h : bank < 2 ^ 16) (addr : Word) :
    slot.readRomChecked bank addr = some (slot.readRom bank addr) := by
  have wrapped := Nat.mod_le bank (romSpan slot.cartridge.header)
  have inside := Nat.mod_lt addr.toNat (show 0 < Board.romBankSize by decide)
  unfold Board.romBankSize at inside
  have start : bank % romSpan slot.cartridge.header * Board.romBankSize < 2 ^ 64 := by
    unfold Board.romBankSize
    omega
  have offset : bank % romSpan slot.cartridge.header * Board.romBankSize +
      addr.toNat % Board.romBankSize < 2 ^ 64 := by
    unfold Board.romBankSize
    omega
  simp only [readRomChecked, Checked.mul_eq start, Checked.add_eq offset, Option.bind_eq_bind,
    Option.bind_some]
  rfl

def readChecked (slot : Slot) (addr : Word) : Checked Byte :=
  let a := addr.toNat
  if a < 0x4000 then slot.readRomChecked slot.banking.lowBank addr
  else if a < 0x8000 then slot.readRomChecked slot.banking.highBank addr
  else if 0xA000 ≤ a ∧ a < 0xC000 then
    match slot.banking.external with
    | .bank n => slot.ram.readChecked n addr
    | _ => return slot.read addr
  else return 0xFF

theorem readChecked_eq (slot : Slot) (addr : Word) :
    slot.readChecked addr = some (slot.read addr) := by
  simp only [readChecked, read]
  split
  · exact slot.readRomChecked_eq slot.banking.lowBank_lt addr
  · split
    · exact slot.readRomChecked_eq slot.banking.highBank_lt addr
    · split
      case isTrue window =>
        cases slot.banking.external with
        | bank n => exact slot.ram.readChecked_eq n window.1
        | closed => rfl
        | clock register => rfl
      case isFalse => rfl

def writeChecked (slot : Slot) (now : UInt64) (addr : Word) (value : Byte) : Checked Slot :=
  let a := addr.toNat
  if a < 0x8000 then do
    let clock ← (if slot.banking.latches addr value then slot.clock.mapM (·.latchChecked now)
      else some slot.clock)
    return { slot with banking := slot.banking.write addr value, clock := clock }
  else if 0xA000 ≤ a ∧ a < 0xC000 then
    match slot.banking.external with
    | .closed => return slot
    | .bank n => return { slot with ram := ← slot.ram.writeChecked n addr value }
    | .clock register =>
      return { slot with clock := ← slot.clock.mapM (·.writeChecked now register value) }
  else return slot

theorem writeChecked_eq (slot : Slot) (now : UInt64) (addr : Word) (value : Byte) :
    slot.writeChecked now addr value = some (slot.write now addr value) := by
  simp only [writeChecked, write]
  split
  · rw [Checked.mapM_eq fun chip => ClockChip.latchChecked_eq chip now, ← apply_ite some]
    rfl
  · split
    case isTrue window =>
      cases slot.banking.external with
      | closed => rfl
      | bank n =>
          simp only [slot.ram.writeChecked_eq n window.1]
          rfl
      | clock register =>
          simp only [Checked.mapM_eq fun chip => ClockChip.writeChecked_eq chip now register value]
          rfl
    case isFalse => rfl

def fillChecked (slot : Slot) (banks : Array (Array Byte)) : Checked Slot := do
  return { slot with ram := ← slot.ram.fillChecked banks }

theorem fillChecked_eq (slot : Slot) (banks : Array (Array Byte)) :
    slot.fillChecked banks = some { slot with ram := slot.ram.fill banks } := by
  rw [fillChecked, ExternalRam.fillChecked_eq]
  rfl

end Slot

end DotMatrix
