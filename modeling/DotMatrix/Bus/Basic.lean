import DotMatrix.Bus.Region
import DotMatrix.Cartridge.Slot
import DotMatrix.Interrupt
import DotMatrix.Joypad
import DotMatrix.Lcd.Timing
import DotMatrix.Memory
import DotMatrix.Serial.Port
import DotMatrix.Timer

/-!
The bus: all devices, the two interrupt registers, and reads and writes at an address. A write that
makes a device want an interrupt requests it at once, so no device holds one back.

The wall time is here too. Only a clock chip looks at it, and only the host moves it.
-/

namespace DotMatrix

/-- The bus, for any kind of thing that can be plugged into its serial port. -/
structure Bus (L : Type := Link) where
  slot : Option Slot
  workRam : WorkRam
  highRam : HighRam
  lcd : Lcd
  timer : Timer
  serial : SerialPort L
  joypad : Joypad
  /-- The interrupts that are requested (IF). -/
  requested : Byte
  /-- The interrupts that are enabled (IE). -/
  enabled : Byte
  /-- The page that was last transferred into the sprite memory. -/
  transferPage : Byte
  /-- The wall time in seconds. -/
  now : UInt64

namespace Bus

def initial (now : UInt64) : Bus :=
  { slot := none
    workRam := .zeros _
    highRam := .zeros _
    lcd := .initial
    timer := .initial
    serial := .initial
    joypad := .initial
    requested := 0
    enabled := 0
    transferPage := 0
    now := now }

/-- Resets every device and both interrupt registers. What is in the slot and what is plugged into
the serial port stay. -/
def reset (bus : Bus) : Bus :=
  { bus with
    slot := bus.slot.map (·.reset bus.now)
    workRam := .zeros _
    highRam := .zeros _
    lcd := bus.lcd.reset
    timer := .initial
    serial := bus.serial.reset
    joypad := .initial
    requested := 0
    enabled := 0
    transferPage := 0 }

variable {L : Type}

def request (bus : Bus L) (mask : Byte) : Bus L :=
  { bus with requested := bus.requested ||| (mask &&& Interrupt.allMask) }

def requestIf (bus : Bus L) (reason : Bool) (interrupt : Interrupt) : Bus L :=
  if reason then bus.request interrupt.mask else bus

def acknowledge (bus : Bus) (interrupt : Interrupt) : Bus :=
  { bus with requested := bus.requested &&& ~~~interrupt.mask }

/-- The interrupts that are both requested and enabled. -/
def pending (bus : Bus) : Byte :=
  bus.enabled &&& bus.requested &&& Interrupt.allMask

def read (bus : Bus L) (addr : Word) : Byte :=
  match BusRegion.ofAddress addr with
  | .romLow | .romHigh | .externalRam =>
    match bus.slot with
    | some slot => slot.read addr
    | none => 0xFF
  | .vram | .oam | .lcd => bus.lcd.read addr
  | .workRam | .echo => bus.workRam.read addr
  | .unusable | .audio => 0
  | .joypad => bus.joypad.read
  | .serial => bus.serial.read addr
  | .timer => bus.timer.read addr
  | .interruptRequest => bus.requested ||| 0xE0
  | .oamTransfer => bus.transferPage
  | .highRam => bus.highRam.read addr
  | .interruptEnable => bus.enabled
  | .unmapped => 0xFF

def writeSerial [LinkPort L] (bus : Bus L) (addr : Word) (value : Byte) : Bus L :=
  let (serial, completed) := (bus.serial.write addr value).takeCompletion
  { bus with serial := serial }.requestIf completed .serial

def writeTimer (bus : Bus L) (addr : Word) (value : Byte) : Bus L :=
  let (timer, overflowed) := (bus.timer.write addr value).takeOverflow
  { bus with timer := timer }.requestIf overflowed .timer

/-- Fills the sprite memory from the start of a page, all at once. -/
def transferOam (bus : Bus L) (page : Byte) : Bus L :=
  let bus := { bus with transferPage := page }
  let oam : Oam := Vector.ofFn fun i => bus.read (Word.ofBytes page (UInt8.ofNat i.val))
  { bus with lcd := { bus.lcd with oam := oam } }

def write [LinkPort L] (bus : Bus L) (addr : Word) (value : Byte) : Bus L :=
  match BusRegion.ofAddress addr with
  | .romLow | .romHigh | .externalRam =>
    { bus with slot := bus.slot.map (·.write bus.now addr value) }
  | .vram | .oam | .lcd => { bus with lcd := bus.lcd.write addr value }
  | .workRam | .echo => { bus with workRam := bus.workRam.write addr value }
  | .unusable | .audio | .unmapped => bus
  | .joypad => { bus with joypad := bus.joypad.write value }
  | .serial => bus.writeSerial addr value
  | .timer => bus.writeTimer addr value
  | .interruptRequest => { bus with requested := value &&& Interrupt.allMask }
  | .oamTransfer => bus.transferOam value
  | .highRam => { bus with highRam := bus.highRam.write addr value }
  | .interruptEnable => { bus with enabled := value }

/-- The word at an address, its low byte first. -/
def readWord (bus : Bus) (addr : Word) : Word :=
  .ofBytes (bus.read (addr + 1)) (bus.read addr)

/-- Writes a word, its low byte first. -/
def writeWord (bus : Bus) (addr : Word) (value : Word) : Bus :=
  (bus.write addr value.low).write (addr + 1) value.high

/-- Lets the LCD controller and the timer run for a number of machine cycles and requests the
interrupts they ask for. -/
def elapse (bus : Bus) (cycles : Nat) : Bus :=
  let (lcd, requests) := bus.lcd.step cycles
  let (timer, overflowed) := bus.timer.step cycles
  ({ bus with lcd := lcd, timer := timer }.request requests).requestIf overflowed .timer

end Bus

end DotMatrix
