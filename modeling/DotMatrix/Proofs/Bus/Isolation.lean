import DotMatrix.Proofs.Bus.Write

/-!
The parts of the console on the bus, and which of them a write can change. Every address belongs to
one part, so a read is the answer of that part, and a write is a change that touches one part or
two.

The memories store what is written to them: a byte reads back at its own address and at no other
one, except in the work RAM, which repeats in its window.
-/

namespace DotMatrix

/-- The parts of the console that can be read on the bus. -/
inductive BusPart where
  | cartridge
  | vram
  | workRam
  | oam
  | joypad
  | serial
  | timer
  | requests
  | lcdRegisters
  | transferPage
  | highRam
  | enables
  /-- What is behind addresses that nothing answers or that hold nothing. -/
  | nothing
  deriving DecidableEq

namespace BusPart

/-- Does the part answer at an address? -/
def Owns (part : BusPart) (addr : Word) : Prop :=
  let a := addr.toNat
  match part with
  | cartridge => a < 0x8000 ∨ (0xA000 ≤ a ∧ a < 0xC000)
  | vram => 0x8000 ≤ a ∧ a < 0xA000
  | workRam => 0xC000 ≤ a ∧ a < 0xFE00
  | oam => 0xFE00 ≤ a ∧ a < 0xFEA0
  | joypad => a = 0xFF00
  | serial => a = 0xFF01 ∨ a = 0xFF02
  | timer => 0xFF04 ≤ a ∧ a ≤ 0xFF07
  | requests => a = 0xFF0F
  | lcdRegisters => (0xFF40 ≤ a ∧ a ≤ 0xFF45) ∨ (0xFF47 ≤ a ∧ a ≤ 0xFF4B)
  | transferPage => a = 0xFF46
  | highRam => 0xFF80 ≤ a ∧ a < 0xFFFF
  | enables => a = 0xFFFF
  | nothing =>
    (0xFEA0 ≤ a ∧ a < 0xFF00) ∨ a = 0xFF03 ∨ (0xFF08 ≤ a ∧ a < 0xFF0F) ∨
      (0xFF10 ≤ a ∧ a < 0xFF40) ∨ (0xFF4C ≤ a ∧ a < 0xFF80)

end BusPart

namespace BusRegion

/-- The part that answers in a region. -/
def part : BusRegion → BusPart
  | romLow | romHigh | externalRam => .cartridge
  | vram => .vram
  | workRam | echo => .workRam
  | oam => .oam
  | joypad => .joypad
  | serial => .serial
  | timer => .timer
  | interruptRequest => .requests
  | lcd => .lcdRegisters
  | oamTransfer => .transferPage
  | highRam => .highRam
  | interruptEnable => .enables
  | unusable | audio | unmapped => .nothing

/-- The part that answers at an address is the one of its region. -/
theorem part_ofAddress {part : BusPart} {addr : Word} (h : part.Owns addr) :
    (ofAddress addr).part = part := by
  unfold ofAddress ofRegister
  cases part with
  | cartridge =>
      simp only [BusPart.Owns] at h
      by_cases first : addr.toNat < 0x4000
      · simp only [first, if_true, BusRegion.part]
      · by_cases low : addr.toNat < 0x8000
        · simp only [first, low, if_true, if_false, BusRegion.part]
        · simp (disch := omega) only [if_pos, if_neg, BusRegion.part]
  | workRam =>
      simp only [BusPart.Owns] at h
      by_cases inner : addr.toNat < 0xE000
      · simp (disch := omega) only [if_pos, if_neg, BusRegion.part]
      · simp (disch := omega) only [if_pos, if_neg, BusRegion.part]
  | nothing =>
      simp only [BusPart.Owns] at h
      rcases h with h | h | h | h | h <;>
        simp (disch := omega) only [if_pos, if_neg, BusRegion.part]
  | vram | oam | joypad | serial | timer | requests | lcdRegisters | transferPage | highRam |
    enables =>
      simp only [BusPart.Owns] at h
      simp (disch := omega) only [if_pos, if_neg, BusRegion.part]

end BusRegion

namespace BusPart

theorem Owns.unique {part part' : BusPart} {addr : Word} (h : part.Owns addr)
    (h' : part'.Owns addr) : part = part' :=
  (BusRegion.part_ofAddress h).symm.trans (BusRegion.part_ofAddress h')

theorem Owns.eq_requests {addr : Word} (h : requests.Owns addr) : addr = 0xFF0F :=
  UInt16.toNat_inj.1 (show addr.toNat = (0xFF0F : Word).toNat from h)

theorem Owns.eq_transferPage {addr : Word} (h : transferPage.Owns addr) : addr = 0xFF46 :=
  UInt16.toNat_inj.1 (show addr.toNat = (0xFF46 : Word).toNat from h)

/-- Some part answers at every address. -/
theorem exists_owns (addr : Word) : ∃ part : BusPart, part.Owns addr := by
  refine Classical.byContradiction fun none => ?_
  have nowhere (part : BusPart) : ¬ part.Owns addr := fun owns => none ⟨part, owns⟩
  have := addr.toNat_lt
  have cartridge := nowhere .cartridge
  have vram := nowhere .vram
  have workRam := nowhere .workRam
  have oam := nowhere .oam
  have joypad := nowhere .joypad
  have serial := nowhere .serial
  have timer := nowhere .timer
  have requests := nowhere .requests
  have lcdRegisters := nowhere .lcdRegisters
  have transferPage := nowhere .transferPage
  have highRam := nowhere .highRam
  have enables := nowhere .enables
  have nothing := nowhere .nothing
  simp only [Owns] at *
  omega

/-- A part owns the addresses in its regions. -/
theorem owns_iff {part : BusPart} {addr : Word} :
    part.Owns addr ↔ (BusRegion.ofAddress addr).part = part := by
  refine ⟨BusRegion.part_ofAddress, fun here => ?_⟩
  obtain ⟨part', owns⟩ := exists_owns addr
  rwa [← here, BusRegion.part_ofAddress owns]

instance (part : BusPart) (addr : Word) : Decidable (part.Owns addr) :=
  decidable_of_iff _ owns_iff.symm

/-- The parts that a write to a part can change. A write to the serial port or the timer can request
an interrupt, and one to the transfer page fills the sprite memory. -/
def touched : BusPart → List BusPart
  | serial => [serial, requests]
  | timer => [timer, requests]
  | transferPage => [transferPage, oam]
  | nothing => []
  | part => [part]

end BusPart

namespace Lcd

theorem setControl_memories (lcd : Lcd) (value : Byte) :
    (lcd.setControl value).vram = lcd.vram ∧ (lcd.setControl value).oam = lcd.oam := by
  unfold setControl
  split <;> exact ⟨rfl, rfl⟩

/-- A register is no part of the memories. -/
theorem writeRegister_memories (lcd : Lcd) (addr : Word) (value : Byte) :
    (lcd.writeRegister addr value).vram = lcd.vram ∧
      (lcd.writeRegister addr value).oam = lcd.oam := by
  unfold writeRegister
  split
  · exact lcd.setControl_memories value
  all_goals exact ⟨rfl, rfl⟩

/-- What the registers answer does not depend on the memories. -/
theorem readRegister_memories (lcd : Lcd) (vram : Vram) (oam : Oam) (addr : Word) :
    { lcd with vram := vram, oam := oam }.readRegister addr = lcd.readRegister addr := rfl

variable (lcd : Lcd) {addr : Word}

theorem read_of_vram (h : BusPart.vram.Owns addr) :
    lcd.read addr = Memory.read lcd.vram addr.toNat := by
  simp only [BusPart.Owns] at h
  simp only [read, inVram, h, and_self, decide_true, if_true]

theorem read_of_oam (h : BusPart.oam.Owns addr) :
    lcd.read addr = Memory.read lcd.oam (addr.toNat - 0xFE00) := by
  simp only [BusPart.Owns] at h
  have above : ¬ addr.toNat < 0xA000 := by omega
  simp only [read, inVram, inOam, h, above, and_false, decide_false, and_self, decide_true, if_true,
    Bool.false_eq_true, if_false]

theorem read_of_register (h : BusPart.lcdRegisters.Owns addr) :
    lcd.read addr = lcd.readRegister addr := by
  simp only [BusPart.Owns] at h
  have pastVram : ¬ addr.toNat < 0xA000 := by omega
  have pastOam : ¬ addr.toNat < 0xFEA0 := by omega
  simp only [read, inVram, inOam, pastVram, pastOam, and_false, decide_false, Bool.false_eq_true,
    if_false]

variable (value : Byte)

theorem write_of_vram (h : BusPart.vram.Owns addr) :
    lcd.write addr value = { lcd with vram := Memory.write lcd.vram addr.toNat value } := by
  simp only [BusPart.Owns] at h
  simp only [write, inVram, h, and_self, decide_true, if_true]

theorem write_of_oam (h : BusPart.oam.Owns addr) :
    lcd.write addr value =
      { lcd with oam := Memory.write lcd.oam (addr.toNat - 0xFE00) value } := by
  simp only [BusPart.Owns] at h
  have above : ¬ addr.toNat < 0xA000 := by omega
  simp only [write, inVram, inOam, h, above, and_false, decide_false, and_self, decide_true,
    if_true, Bool.false_eq_true, if_false]

theorem write_of_register (h : BusPart.lcdRegisters.Owns addr) :
    lcd.write addr value = lcd.writeRegister addr value := by
  simp only [BusPart.Owns] at h
  have pastVram : ¬ addr.toNat < 0xA000 := by omega
  have pastOam : ¬ addr.toNat < 0xFEA0 := by omega
  simp only [write, inVram, inOam, pastVram, pastOam, and_false, decide_false, Bool.false_eq_true,
    if_false]

end Lcd

namespace Bus

/-- What a part answers at an address. -/
def readPart (bus : Bus) (addr : Word) : BusPart → Byte
  | .cartridge =>
    match bus.slot with
    | some slot => slot.read addr
    | none => 0xFF
  | .vram => Memory.read bus.lcd.vram addr.toNat
  | .workRam => bus.workRam.read addr
  | .oam => Memory.read bus.lcd.oam (addr.toNat - 0xFE00)
  | .joypad => bus.joypad.read
  | .serial => bus.serial.read addr
  | .timer => bus.timer.read addr
  | .requests => bus.requested ||| 0xE0
  | .lcdRegisters => bus.lcd.readRegister addr
  | .transferPage => bus.transferPage
  | .highRam => bus.highRam.read addr
  | .enables => bus.enabled
  | .nothing =>
    match BusRegion.ofAddress addr with
    | .unmapped => 0xFF
    | _ => 0

theorem read_eq_readPart (bus : Bus) {part : BusPart} {addr : Word} (h : part.Owns addr) :
    bus.read addr = bus.readPart addr part := by
  have here := BusRegion.part_ofAddress h
  unfold read
  cases region : BusRegion.ofAddress addr <;> rw [region] at here <;> subst here
  case vram => exact bus.lcd.read_of_vram h
  case oam => exact bus.lcd.read_of_oam h
  case lcd => exact bus.lcd.read_of_register h
  case unusable | audio | unmapped => simp only [readPart, BusRegion.part, region]
  all_goals rfl

/-- A write to a device that makes it request an interrupt shows in the requests alone. -/
theorem readPart_requestIf (bus : Bus) (reason : Bool) (interrupt : Interrupt) (addr : Word)
    {part : BusPart} (h : part ≠ .requests) :
    (bus.requestIf reason interrupt).readPart addr part = bus.readPart addr part := by
  cases reason
  · rfl
  · cases part <;> first | contradiction | rfl

/-- A transfer changes its page and the sprite memory. -/
theorem transferOam_eq (bus : Bus) (page : Byte) :
    ∃ oam, bus.transferOam page = { bus with transferPage := page, lcd.oam := oam } :=
  ⟨_, rfl⟩

/-- New sprites show in the sprite memory alone. The memory is any, so that nothing looks into how
it came to be. -/
theorem readPart_oam (bus : Bus) (oam : Oam) (addr : Word) {part : BusPart} (h : part ≠ .oam) :
    { bus with lcd.oam := oam }.readPart addr part = bus.readPart addr part := by
  cases part with
  | oam => exact absurd rfl h
  | lcdRegisters => exact bus.lcd.readRegister_memories bus.lcd.vram oam addr
  | _ => rfl

/-- What a write to a part makes of the bus. -/
def writePart (bus : Bus) (addr : Word) (value : Byte) : BusPart → Bus
  | .cartridge => { bus with slot := bus.slot.map (·.write bus.now addr value) }
  | .vram => { bus with lcd.vram := Memory.write bus.lcd.vram addr.toNat value }
  | .workRam => { bus with workRam := bus.workRam.write addr value }
  | .oam => { bus with lcd.oam := Memory.write bus.lcd.oam (addr.toNat - 0xFE00) value }
  | .joypad => { bus with joypad := bus.joypad.write value }
  | .serial => bus.writeSerial addr value
  | .timer => bus.writeTimer addr value
  | .requests => { bus with requested := value &&& Interrupt.allMask }
  | .lcdRegisters => { bus with lcd := bus.lcd.writeRegister addr value }
  | .transferPage => bus.transferOam value
  | .highRam => { bus with highRam := bus.highRam.write addr value }
  | .enables => { bus with enabled := value }
  | .nothing => bus

theorem write_eq_writePart (bus : Bus) {part : BusPart} {addr : Word} (h : part.Owns addr)
    (value : Byte) : bus.write addr value = bus.writePart addr value part := by
  have here := BusRegion.part_ofAddress h
  unfold write
  cases region : BusRegion.ofAddress addr <;> rw [region] at here <;> subst here
  case vram => exact congrArg (fun lcd => { bus with lcd := lcd }) (bus.lcd.write_of_vram value h)
  case oam => exact congrArg (fun lcd => { bus with lcd := lcd }) (bus.lcd.write_of_oam value h)
  case lcd =>
    exact congrArg (fun lcd => { bus with lcd := lcd }) (bus.lcd.write_of_register value h)
  all_goals rfl

/-- A write to a part leaves every part as it was that it does not touch. -/
theorem readPart_writePart (bus : Bus) {written part : BusPart} (addr : Word) (value : Byte)
    (untouched : part ∉ written.touched) (other : Word) :
    (bus.writePart addr value written).readPart other part = bus.readPart other part := by
  cases written with
  | serial =>
      simp only [BusPart.touched, List.mem_cons, List.not_mem_nil, or_false, not_or] at untouched
      refine (readPart_requestIf _ _ _ other untouched.2).trans ?_
      cases part with
      | serial => exact absurd rfl untouched.1
      | _ => rfl
  | timer =>
      simp only [BusPart.touched, List.mem_cons, List.not_mem_nil, or_false, not_or] at untouched
      refine (readPart_requestIf _ _ _ other untouched.2).trans ?_
      cases part with
      | timer => exact absurd rfl untouched.1
      | _ => rfl
  | lcdRegisters =>
      have memories := bus.lcd.writeRegister_memories addr value
      cases part with
      | lcdRegisters => simp [BusPart.touched] at untouched
      | vram => exact congrArg (Memory.read · other.toNat) memories.1
      | oam => exact congrArg (Memory.read · (other.toNat - 0xFE00)) memories.2
      | _ => simp only [writePart, readPart]
  | transferPage =>
      simp only [BusPart.touched, List.mem_cons, List.not_mem_nil, or_false, not_or] at untouched
      obtain ⟨oam, filled⟩ := bus.transferOam_eq value
      simp only [writePart, filled]
      refine ({ bus with transferPage := value }.readPart_oam oam other untouched.2).trans ?_
      cases part with
      | transferPage => exact absurd rfl untouched.1
      | _ => rfl
  | nothing => rfl
  | vram =>
      cases part with
      | vram => exact absurd (List.mem_singleton_self _) untouched
      | lcdRegisters => exact bus.lcd.readRegister_memories _ bus.lcd.oam other
      | _ => simp only [writePart, readPart]
  | oam => exact bus.readPart_oam _ other (fun same => untouched (List.mem_singleton.2 same))
  | _ =>
      cases part <;>
        first
        | exact absurd (List.mem_singleton_self _) untouched
        | simp only [writePart, readPart]

/-- An address whose part a write does not touch reads as before. -/
theorem read_write_of_untouched (bus : Bus) {written part : BusPart} {addr other : Word}
    (h : written.Owns addr) (h' : part.Owns other) (untouched : part ∉ written.touched)
    (value : Byte) : (bus.write addr value).read other = bus.read other := by
  rw [read_eq_readPart _ h', read_eq_readPart _ h', bus.write_eq_writePart h]
  exact bus.readPart_writePart addr value untouched other

/-- A write that touches the parts of a list only leaves the reads outside of them as they were. -/
theorem read_write_outside (bus : Bus) {written : BusPart} {addr other : Word}
    (h : written.Owns addr) (outside : ∀ part ∈ written.touched, ¬ part.Owns other)
    (value : Byte) : (bus.write addr value).read other = bus.read other := by
  obtain ⟨part, owns⟩ := BusPart.exists_owns other
  exact bus.read_write_of_untouched h owns (fun touched => outside part touched owns) value

section Memories

variable (bus : Bus) {addr other : Word} (value : Byte)

theorem read_write_vram (h : BusPart.vram.Owns addr) (h' : BusPart.vram.Owns other) :
    (bus.write addr value).read other = if other = addr then value else bus.read other := by
  rw [read_eq_readPart _ h', read_eq_readPart _ h', bus.write_eq_writePart h]
  simp only [BusPart.Owns] at h h'
  have same : addr.toNat % 0x2000 = other.toNat % 0x2000 ↔ other = addr := by
    rw [← UInt16.toNat_inj]
    omega
  simp only [writePart, readPart, Memory.read_write (by decide : 0 < 0x2000), same]

theorem read_write_oam (h : BusPart.oam.Owns addr) (h' : BusPart.oam.Owns other) :
    (bus.write addr value).read other = if other = addr then value else bus.read other := by
  rw [read_eq_readPart _ h', read_eq_readPart _ h', bus.write_eq_writePart h]
  simp only [BusPart.Owns] at h h'
  have same : (addr.toNat - 0xFE00) % 0xA0 = (other.toNat - 0xFE00) % 0xA0 ↔ other = addr := by
    rw [← UInt16.toNat_inj]
    omega
  simp only [writePart, readPart, Memory.read_write (by decide : 0 < 0xA0), same]

/-- The work RAM is written and read modulo its size, so the echo shows every byte of it that has
an echo. -/
theorem read_write_workRam (h : BusPart.workRam.Owns addr) (h' : BusPart.workRam.Owns other) :
    (bus.write addr value).read other =
      if addr.toNat % 0x2000 = other.toNat % 0x2000 then value else bus.read other := by
  rw [read_eq_readPart _ h', read_eq_readPart _ h', bus.write_eq_writePart h]
  exact Memory.read_write (by decide) bus.workRam _ _ value

theorem read_write_highRam (h : BusPart.highRam.Owns addr) (h' : BusPart.highRam.Owns other) :
    (bus.write addr value).read other = if other = addr then value else bus.read other := by
  rw [read_eq_readPart _ h', read_eq_readPart _ h', bus.write_eq_writePart h]
  simp only [BusPart.Owns] at h h'
  have inside : other.toNat - 0xFF80 < 0x7F := by omega
  have same : addr.toNat - 0xFF80 = other.toNat - 0xFF80 ↔ other = addr := by
    rw [← UInt16.toNat_inj]
    omega
  simp only [writePart, readPart, HighRam.read, HighRam.write, HighRam.base, h.1, h'.1, if_true,
    Vector.getElem?_eq_getElem inside, Vector.getElem_setIfInBounds inside, same,
    Option.getD_some]

end Memories

section Sprites

variable (bus : Bus) {addr : Word} (value : Byte)

/-- The sprite memory changes by writes to itself and by transfers only. -/
theorem write_oam (h : ¬ BusPart.oam.Owns addr) (h' : addr ≠ 0xFF46) :
    (bus.write addr value).lcd.oam = bus.lcd.oam := by
  obtain ⟨part, owns⟩ := BusPart.exists_owns addr
  rw [bus.write_eq_writePart owns]
  cases part with
  | oam => exact absurd owns h
  | transferPage => exact absurd owns.eq_transferPage h'
  | lcdRegisters => exact (bus.lcd.writeRegister_memories addr value).2
  | serial | timer => simp only [writePart, writeSerial, writeTimer, requestIf_lcd]
  | _ => simp only [writePart]

theorem writeAll_oam {stores : List Store}
    (h : ∀ store ∈ stores, ¬ BusPart.oam.Owns store.addr ∧ store.addr ≠ 0xFF46) :
    (bus.writeAll stores).lcd.oam = bus.lcd.oam := by
  refine writeAll_induction (motive := fun bus' => bus'.lcd.oam = bus.lcd.oam) rfl ?_
  intro bus' store member same
  exact (bus'.write_oam store.value (h store member).1 (h store member).2).trans same

end Sprites

end Bus

namespace Lcd

theorem drawLine_oam (lcd : Lcd) : lcd.drawLine.oam = lcd.oam := by
  unfold drawLine
  split <;> rfl

theorem endMode_oam (lcd : Lcd) : lcd.endMode.1.oam = lcd.oam := by
  unfold endMode
  split
  · rfl
  · exact drawLine_oam lcd
  · split <;> rfl
  · split <;> rfl

theorem step_oam (lcd : Lcd) (cycles : Nat) : (lcd.step cycles).1.oam = lcd.oam := by
  have run_oam (lcd : Lcd) (time : Nat) (requests : Byte) :
      (lcd.run time requests).1.oam = lcd.oam :=
    run_induction (motive := fun lcd _ final => final.oam = lcd.oam) (fun _ _ _ => rfl)
      (fun lcd _ _ ih => ih.trans (endMode_oam lcd)) lcd time requests
  unfold step
  dsimp only
  split
  · exact run_oam _ _ _
  · rfl

end Lcd

namespace BusPart

/-- Is there memory of the console's own at an address? -/
def Stores (addr : Word) : Prop :=
  vram.Owns addr ∨ workRam.Owns addr ∨ oam.Owns addr ∨ highRam.Owns addr

/-- Are two addresses the same byte of the work RAM? -/
def Mirrored (addr other : Word) : Prop :=
  workRam.Owns addr ∧ workRam.Owns other ∧ addr.toNat % 0x2000 = other.toNat % 0x2000

instance (addr other : Word) : Decidable (Mirrored addr other) :=
  inferInstanceAs (Decidable (_ ∧ _ ∧ _))

theorem not_mirrored {part : BusPart} {addr : Word} (owns : part.Owns addr) (h : part ≠ workRam)
    (other : Word) : ¬ Mirrored addr other := fun mirrored => h (owns.unique mirrored.1)

end BusPart

namespace Bus

theorem read_write_memory (bus : Bus) {addr : Word} (h : BusPart.Stores addr) (value : Byte)
    (other : Word) :
    (bus.write addr value).read other =
      if other = addr ∨ BusPart.Mirrored addr other then value else bus.read other := by
  have apart {part : BusPart} (owns : part.Owns addr) (single : part.touched = [part])
      (away : ¬ part.Owns other) : (bus.write addr value).read other = bus.read other := by
    refine bus.read_write_outside owns ?_ value
    rw [single]
    simpa only [List.mem_singleton, forall_eq] using away
  have plain {part : BusPart} (owns : part.Owns addr) (unechoed : part ≠ .workRam)
      (single : part.touched = [part])
      (law : part.Owns other →
        (bus.write addr value).read other = if other = addr then value else bus.read other) :
      (bus.write addr value).read other =
        if other = addr ∨ BusPart.Mirrored addr other then value else bus.read other := by
    simp only [BusPart.not_mirrored owns unechoed, or_false]
    by_cases here : part.Owns other
    · exact law here
    · have kept := apart owns single here
      rw [kept, if_neg fun same => here (by rwa [same])]
  rcases h with owns | owns | owns | owns
  · exact plain owns (by decide) rfl (bus.read_write_vram value owns)
  · by_cases here : BusPart.workRam.Owns other
    · rw [bus.read_write_workRam value owns here]
      have same : other = addr ∨ BusPart.Mirrored addr other ↔
          addr.toNat % 0x2000 = other.toNat % 0x2000 := by
        refine ⟨?_, fun same => Or.inr ⟨owns, here, same⟩⟩
        rintro (same | mirrored)
        · rw [same]
        · exact mirrored.2.2
      simp only [same]
    · rw [apart owns rfl here, if_neg]
      rintro (same | mirrored)
      · exact here (same ▸ owns)
      · exact here mirrored.2.1
  · exact plain owns (by decide) rfl (bus.read_write_oam value owns)
  · exact plain owns (by decide) rfl (bus.read_write_highRam value owns)

end Bus

end DotMatrix
