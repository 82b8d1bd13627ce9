import DotMatrix.Interrupt
import DotMatrix.Lcd.Bitmap
import DotMatrix.Lcd.Sprite
import DotMatrix.Lcd.Tile

/-!
The LCD controller: its memories, its registers, where it is in the frame, and the two pictures,
one shown and one being drawn. Reads and writes take full addresses, as they come from the bus.

A line of the screen goes through three modes: the sprite memory is scanned, the line is drawn, and
there is a pause. After the last line comes a longer pause, the vertical blank. With the display
switched off the controller stays in it, at line zero.
-/

namespace DotMatrix

inductive Mode where
  | hblank | vblank | oamScan | drawing
  deriving DecidableEq, Repr

namespace Mode

/-- The mode's code in the status register. -/
def code : Mode → Byte
  | hblank => 0
  | vblank => 1
  | oamScan => 2
  | drawing => 3

/-- The mode whose code is in the low bits of a status byte. -/
def ofStatus (status : Byte) : Mode :=
  match status.toNat % 4 with
  | 0 => hblank
  | 1 => vblank
  | 2 => oamScan
  | _ => drawing

/-- How many machine cycles the mode lasts; in the vertical blank, how many a line of it lasts. -/
def duration : Mode → Nat
  | oamScan => 20
  | drawing => 43
  | hblank => 51
  | vblank => 114

theorem duration_pos (m : Mode) : 0 < m.duration := by
  cases m <;> decide

end Mode

namespace Screen

def width : Nat := 160

def height : Nat := 144

def lastLine : Nat := 153

def lineCycles : Nat := 114

def frameCycles : Nat := lineCycles * (lastLine + 1)

end Screen

abbrev Frame := Bitmap Screen.width Screen.height

structure Lcd where
  vram : Vram
  oam : Oam
  /-- LCDC: what is drawn, and how. -/
  control : Byte
  /-- The four interrupt enables of STAT; its other bits are not stored. -/
  enables : Byte
  scrollY : Byte
  scrollX : Byte
  /-- LY: the line at hand. -/
  line : Byte
  /-- LYC: the line that is looked out for. -/
  compare : Byte
  bgPalette : Byte
  objPalette0 : Byte
  objPalette1 : Byte
  windowY : Byte
  windowX : Byte
  mode : Mode
  /-- How many cycles of the mode have passed. -/
  modeClock : Nat
  /-- The last complete frame. -/
  shown : Frame
  /-- The frame being drawn. -/
  drawn : Frame
  /-- Was a frame completed by the last step? -/
  flushed : Bool
  frames : Nat

namespace Lcd

def initial : Lcd :=
  { vram := .zeros _
    oam := .zeros _
    control := 0
    enables := 0
    scrollY := 0
    scrollX := 0
    line := 0
    compare := 0
    bgPalette := 0
    objPalette0 := 0
    objPalette1 := 0
    windowY := 0
    windowX := 0
    mode := .vblank
    modeClock := 0
    shown := .filled _ _ .blank
    drawn := .filled _ _ .blank
    flushed := false
    frames := 0 }

def enabled (lcd : Lcd) : Bool := lcd.control.bit 7

def windowMapHigh (lcd : Lcd) : Bool := lcd.control.bit 6

def windowEnabled (lcd : Lcd) : Bool := lcd.control.bit 5

def addressing (lcd : Lcd) : TileAddressing :=
  if lcd.control.bit 4 then .unsigned else .signed

def bgMapHigh (lcd : Lcd) : Bool := lcd.control.bit 3

def spriteHeight (lcd : Lcd) : Nat :=
  if lcd.control.bit 2 then 16 else 8

def spritesEnabled (lcd : Lcd) : Bool := lcd.control.bit 1

def bgEnabled (lcd : Lcd) : Bool := lcd.control.bit 0

/-- The bits of STAT that can be written. -/
def enablesMask : Byte := 0x78

/-- STAT as it is read: the enables, the mode, and whether the line is the one looked out for. -/
def status (lcd : Lcd) : Byte :=
  0x80 ||| lcd.enables ||| lcd.mode.code ||| (if lcd.line = lcd.compare then 0x04 else 0)

/-- Puts the controller at the start of line zero in a mode. -/
def restart (lcd : Lcd) (mode : Mode) : Lcd :=
  { lcd with line := 0, modeClock := 0, mode := mode }

/-- Clears the registers, both memories and the count of the frames, blanks both pictures, and puts
the controller where it stays while the display is off. -/
def reset (lcd : Lcd) : Lcd :=
  { lcd.restart .vblank with
    control := 0
    enables := 0
    scrollY := 0
    scrollX := 0
    compare := 0
    bgPalette := 0
    objPalette0 := 0
    objPalette1 := 0
    windowY := 0
    windowX := 0
    vram := .zeros _
    oam := .zeros _
    shown := .filled _ _ .blank
    drawn := .filled _ _ .blank
    flushed := false
    frames := 0 }

/-- Writes the control register. Switching the display on or off starts over. -/
def setControl (lcd : Lcd) (value : Byte) : Lcd :=
  let next := { lcd with control := value }
  match lcd.enabled, value.bit 7 with
  | false, true => next.restart .oamScan
  | true, false => next.restart .vblank
  | _, _ => next

def readRegister (lcd : Lcd) (addr : Word) : Byte :=
  match addr.toNat with
  | 0xFF40 => lcd.control
  | 0xFF41 => lcd.status
  | 0xFF42 => lcd.scrollY
  | 0xFF43 => lcd.scrollX
  | 0xFF44 => lcd.line
  | 0xFF45 => lcd.compare
  | 0xFF47 => lcd.bgPalette
  | 0xFF48 => lcd.objPalette0
  | 0xFF49 => lcd.objPalette1
  | 0xFF4A => lcd.windowY
  | 0xFF4B => lcd.windowX
  | _ => 0xFF

/-- Writes a register; the line cannot be written. -/
def writeRegister (lcd : Lcd) (addr : Word) (value : Byte) : Lcd :=
  match addr.toNat with
  | 0xFF40 => lcd.setControl value
  | 0xFF41 => { lcd with enables := value &&& enablesMask }
  | 0xFF42 => { lcd with scrollY := value }
  | 0xFF43 => { lcd with scrollX := value }
  | 0xFF45 => { lcd with compare := value }
  | 0xFF47 => { lcd with bgPalette := value }
  | 0xFF48 => { lcd with objPalette0 := value }
  | 0xFF49 => { lcd with objPalette1 := value }
  | 0xFF4A => { lcd with windowY := value }
  | 0xFF4B => { lcd with windowX := value }
  | _ => lcd

def inVram (addr : Word) : Bool :=
  decide (0x8000 ≤ addr.toNat ∧ addr.toNat < 0xA000)

def inOam (addr : Word) : Bool :=
  decide (0xFE00 ≤ addr.toNat ∧ addr.toNat < 0xFEA0)

def read (lcd : Lcd) (addr : Word) : Byte :=
  if inVram addr then Memory.read lcd.vram addr.toNat
  else if inOam addr then Memory.read lcd.oam (addr.toNat - 0xFE00)
  else lcd.readRegister addr

def write (lcd : Lcd) (addr : Word) (value : Byte) : Lcd :=
  if inVram addr then { lcd with vram := Memory.write lcd.vram addr.toNat value }
  else if inOam addr then { lcd with oam := Memory.write lcd.oam (addr.toNat - 0xFE00) value }
  else lcd.writeRegister addr value

/-- Stores a byte of the sprite memory by its index; past the end there is nothing to store. -/
def setOam (lcd : Lcd) (index : Nat) (value : Byte) : Lcd :=
  { lcd with oam := lcd.oam.setIfInBounds index value }

end Lcd

end DotMatrix
