import DotMatrix.Bus.Basic
import DotMatrix.Proofs.Checked.Cartridge
import DotMatrix.Proofs.Checked.Lcd

/-!
The bus with its checks: the tables that say who owns an address, the memories behind it, and the time
that the devices take. Reads and writes pass the checks at any address; for time to pass, the LCD
controller has to be at a point of its frame.
-/

namespace DotMatrix

namespace Timer

def stepChecked (t : Timer) (cycles : Nat) : Checked (Timer × Bool) := do
  return (ticks (← Checked.mul 32 cycles 4) t).takeOverflow

theorem stepChecked_eq (t : Timer) {cycles : Nat} (fits : cycles < 2 ^ 30) :
    t.stepChecked cycles = some (t.step cycles) := by
  have product : cycles * 4 < 2 ^ 32 := by omega
  rw [stepChecked, Checked.mul_eq product, step, Nat.mul_comm 4]
  rfl

end Timer

namespace BusRegion

/-- The region of a page; the last page has a table of its own. -/
def ofPage (page : Nat) : BusRegion :=
  if page < 0x40 then romLow
  else if page < 0x80 then romHigh
  else if page < 0xA0 then vram
  else if page < 0xC0 then externalRam
  else if page < 0xE0 then workRam
  else if page < 0xFE then echo
  else if page = 0xFE then oam
  else unmapped

/-- The region of an address of the last page. -/
def ofLastPage (low : Nat) : BusRegion :=
  if low < 0x80 then ofRegister low
  else if low < 0xFF then highRam
  else interruptEnable

def pageTable : Vector BusRegion 0x100 :=
  .ofFn fun page => ofPage page.val

def lastPageTable : Vector BusRegion 0x100 :=
  .ofFn fun low => ofLastPage low.val

def ofAddressChecked (addr : Word) : Checked BusRegion :=
  if addr.high = 0xFF then lastPageTable[addr.low.toNat]?
  else if addr.high = 0xFE ∧ 0xA0 ≤ addr.low.toNat then return unusable
  else pageTable[addr.high.toNat]?

theorem ofAddressChecked_eq (addr : Word) : ofAddressChecked addr = some (ofAddress addr) := by
  have highByte := addr.high.toNat_lt
  have lowByte := addr.low.toNat_lt
  have value : addr.toNat = addr.high.toNat * 0x100 + addr.low.toNat := by
    conv => lhs; rw [← addr.ofBytes_high_low]
    exact Word.toNat_ofBytes _ _
  have last : addr.high = 0xFF ↔ addr.high.toNat = 0xFF := UInt8.toNat_inj.symm
  have sprites : addr.high = 0xFE ↔ addr.high.toNat = 0xFE := UInt8.toNat_inj.symm
  rw [ofAddressChecked, Vector.getElem?_eq_getElem highByte, Vector.getElem?_eq_getElem lowByte]
  simp only [last, sprites, pageTable, lastPageTable, Vector.getElem_ofFn, ofAddress, value]
  generalize addr.high.toNat = high at *
  generalize addr.low.toNat = low at *
  clear value last sprites
  by_cases lastPage : high = 0xFF
  · subst lastPage
    rw [if_pos rfl]
    apply congrArg some
    unfold ofLastPage
    grind
  · rw [if_neg lastPage]
    by_cases past : high = 0xFE ∧ 0xA0 ≤ low
    · rw [if_pos past]
      apply congrArg some
      grind
    · rw [if_neg past]
      apply congrArg some
      have rom : high * 0x100 + low < 0x4000 ↔ high < 0x40 := by omega
      have banked : high * 0x100 + low < 0x8000 ↔ high < 0x80 := by omega
      have video : high * 0x100 + low < 0xA000 ↔ high < 0xA0 := by omega
      have external : high * 0x100 + low < 0xC000 ↔ high < 0xC0 := by omega
      have work : high * 0x100 + low < 0xE000 ↔ high < 0xE0 := by omega
      have echoed : high * 0x100 + low < 0xFE00 ↔ high < 0xFE := by omega
      simp only [ofPage, rom, banked, video, external, work, echoed]
      grind

end BusRegion

namespace Lcd

def readChecked (lcd : Lcd) (addr : Word) : Checked Byte :=
  if inVram addr then Memory.readChecked lcd.vram addr.toNat
  else if inOam addr then do lcd.oam[← Checked.sub addr.toNat 0xFE00]?
  else return lcd.readRegister addr

theorem readChecked_eq (lcd : Lcd) (addr : Word) : lcd.readChecked addr = some (lcd.read addr) := by
  unfold readChecked read
  split
  · exact Memory.readChecked_eq (by decide) _ _
  · split
    case isTrue sprites =>
      obtain ⟨least, most⟩ := of_decide_eq_true sprites
      have inside : addr.toNat - 0xFE00 < 0xA0 := by omega
      rw [Checked.sub_eq least, Option.bind_eq_bind, Option.bind_some]
      exact Memory.getElem?_eq_read lcd.oam inside
    case isFalse => rfl

def writeChecked (lcd : Lcd) (addr : Word) (value : Byte) : Checked Lcd :=
  if inVram addr then do
    return { lcd with vram := ← Memory.writeChecked lcd.vram addr.toNat value }
  else if inOam addr then do
    return { lcd with oam := ← Checked.set lcd.oam (← Checked.sub addr.toNat 0xFE00) value }
  else return lcd.writeRegister addr value

theorem writeChecked_eq (lcd : Lcd) (addr : Word) (value : Byte) :
    lcd.writeChecked addr value = some (lcd.write addr value) := by
  unfold writeChecked write
  split
  · rw [Memory.writeChecked_eq (by decide)]
    rfl
  · split
    case isTrue sprites =>
      obtain ⟨least, most⟩ := of_decide_eq_true sprites
      have inside : addr.toNat - 0xFE00 < 0xA0 := by omega
      rw [Checked.sub_eq least, Option.bind_eq_bind, Option.bind_some,
        Checked.set_eq_setIfInBounds inside, Memory.write, Nat.mod_eq_of_lt inside]
      rfl
    case isFalse => rfl

end Lcd

namespace Bus

def readChecked (bus : Bus) (addr : Word) : Checked Byte := do
  match ← BusRegion.ofAddressChecked addr with
  | .romLow | .romHigh | .externalRam =>
    match bus.slot with
    | some slot => slot.readChecked addr
    | none => return 0xFF
  | .vram | .oam | .lcd => bus.lcd.readChecked addr
  | .workRam | .echo => Memory.readChecked bus.workRam addr.toNat
  | _ => return bus.read addr

theorem readChecked_eq (bus : Bus) (addr : Word) : bus.readChecked addr = some (bus.read addr) := by
  rw [readChecked, BusRegion.ofAddressChecked_eq, Option.bind_eq_bind, Option.bind_some]
  cases owner : BusRegion.ofAddress addr with
  | romLow | romHigh | externalRam =>
      simp only [read, owner]
      cases bus.slot with
      | none => rfl
      | some slot => exact slot.readChecked_eq addr
  | vram | oam | lcd =>
      simp only [read, owner]
      exact bus.lcd.readChecked_eq addr
  | workRam | echo =>
      simp only [read, owner]
      exact Memory.readChecked_eq (by decide) _ _
  | unusable | joypad | serial | timer | interruptRequest | audio | oamTransfer | highRam
    | interruptEnable | unmapped => rfl

def transferOamChecked (bus : Bus) (page : Byte) : Checked Bus := do
  let bus := { bus with transferPage := page }
  let oam ← Vector.ofFnM fun i : Fin 0xA0 =>
    bus.readChecked (Word.ofBytes page (UInt8.ofNat i.val))
  return { bus with lcd := { bus.lcd with oam := oam } }

theorem transferOamChecked_eq (bus : Bus) (page : Byte) :
    bus.transferOamChecked page = some (bus.transferOam page) := by
  rw [transferOamChecked, Checked.ofFnM_eq fun i => readChecked_eq _ _]
  rfl

def writeChecked (bus : Bus) (addr : Word) (value : Byte) : Checked Bus := do
  match ← BusRegion.ofAddressChecked addr with
  | .romLow | .romHigh | .externalRam =>
    return { bus with slot := ← bus.slot.mapM (·.writeChecked bus.now addr value) }
  | .vram | .oam | .lcd => return { bus with lcd := ← bus.lcd.writeChecked addr value }
  | .workRam | .echo =>
    return { bus with workRam := ← Memory.writeChecked bus.workRam addr.toNat value }
  | .oamTransfer => bus.transferOamChecked value
  | _ => return bus.write addr value

theorem writeChecked_eq (bus : Bus) (addr : Word) (value : Byte) :
    bus.writeChecked addr value = some (bus.write addr value) := by
  rw [writeChecked, BusRegion.ofAddressChecked_eq, Option.bind_eq_bind, Option.bind_some]
  cases owner : BusRegion.ofAddress addr with
  | romLow | romHigh | externalRam =>
      simp only [write, owner, Checked.mapM_eq fun slot => Slot.writeChecked_eq slot _ _ _]
      rfl
  | vram | oam | lcd =>
      simp only [write, owner, Lcd.writeChecked_eq]
      rfl
  | workRam | echo =>
      have positive : 0 < 0x2000 := by decide
      simp only [write, owner, Memory.writeChecked_eq positive]
      rfl
  | oamTransfer =>
      simp only [write, owner]
      exact bus.transferOamChecked_eq value
  | unusable | joypad | serial | timer | interruptRequest | audio | highRam | interruptEnable
    | unmapped => rfl

def readWordChecked (bus : Bus) (addr : Word) : Checked Word := do
  return .ofBytes (← bus.readChecked (addr + 1)) (← bus.readChecked addr)

theorem readWordChecked_eq (bus : Bus) (addr : Word) :
    bus.readWordChecked addr = some (bus.readWord addr) := by
  rw [readWordChecked, readChecked_eq, readChecked_eq]
  rfl

def writeWordChecked (bus : Bus) (addr : Word) (value : Word) : Checked Bus := do
  (← bus.writeChecked addr value.low).writeChecked (addr + 1) value.high

theorem writeWordChecked_eq (bus : Bus) (addr : Word) (value : Word) :
    bus.writeWordChecked addr value = some (bus.writeWord addr value) := by
  rw [writeWordChecked, writeChecked_eq]
  exact writeChecked_eq _ _ _

def elapseChecked (bus : Bus) (cycles : Nat) : Checked Bus := do
  let (lcd, requests) ← bus.lcd.stepChecked cycles
  let (timer, overflowed) ← bus.timer.stepChecked cycles
  return ({ bus with lcd := lcd, timer := timer }.request requests).requestIf overflowed .timer

theorem elapseChecked_eq {bus : Bus} (h : bus.lcd.Placed) {cycles : Nat} (fits : cycles < 2 ^ 30) :
    bus.elapseChecked cycles = some (bus.elapse cycles) := by
  rw [elapseChecked, Lcd.stepChecked_eq h (by omega), bus.timer.stepChecked_eq fits]
  rfl

end Bus

end DotMatrix
