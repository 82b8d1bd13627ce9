import DotMatrix.Bus.Basic
import DotMatrix.Failure
import DotMatrix.Registers

/-!
Snapshots: the registers, the state of the LCD controller and the external RAM, as much as is
needed to tell two consoles apart or to put one back where it was. Timer, serial port and joypad
are left out, and so is the point inside a mode of the LCD controller.

A snapshot may come from outside, so its buffers are of any size and its numbers of any value.
-/

namespace DotMatrix

/-- The registers as a snapshot holds them. -/
structure CpuImage where
  a : Byte
  b : Byte
  c : Byte
  d : Byte
  e : Byte
  f : Byte
  h : Byte
  l : Byte
  sp : Word
  pc : Word
  ime : Bool
  deriving DecidableEq, Repr

namespace CpuImage

def ofRegisters (r : Registers) : CpuImage :=
  ⟨r.a, r.b, r.c, r.d, r.e, r.f, r.h, r.l, r.sp, r.pc, r.ime⟩

def registers (i : CpuImage) : Registers :=
  { a := i.a
    flags := .ofByte i.f
    b := i.b
    c := i.c
    d := i.d
    e := i.e
    h := i.h
    l := i.l
    sp := i.sp
    pc := i.pc
    ime := i.ime }

end CpuImage

/-- The LCD controller as a snapshot holds it. `status` is what a read of the status register
gives, mode included. -/
structure LcdImage where
  control : Byte
  status : Byte
  scrollX : Byte
  scrollY : Byte
  windowX : Byte
  windowY : Byte
  compare : Byte
  line : Byte
  bgPalette : Byte
  objPalette0 : Byte
  objPalette1 : Byte
  oam : Array Byte
  vram : Array Byte
  deriving DecidableEq, Repr

structure Snapshot where
  cpu : CpuImage
  lcd : LcdImage
  /-- The external RAM, one array to a bank. -/
  ramBanks : Array (Array Byte)
  deriving DecidableEq, Repr

namespace Lcd

def image (lcd : Lcd) : LcdImage :=
  { control := lcd.control
    status := lcd.status
    scrollX := lcd.scrollX
    scrollY := lcd.scrollY
    windowX := lcd.windowX
    windowY := lcd.windowY
    compare := lcd.compare
    line := lcd.line
    bgPalette := lcd.bgPalette
    objPalette0 := lcd.objPalette0
    objPalette1 := lcd.objPalette1
    oam := lcd.oam.toArray
    vram := lcd.vram.toArray }

/-- Puts the controller at the start of a mode of a line. Lines below the screen are only reached in
the vertical blank. -/
def restore (lcd : Lcd) (image : LcdImage) : Except Failure Lcd := do
  if hOam : image.oam.size = 0xA0 then
    if hVram : image.vram.size = 0x2000 then
      let mode := Mode.ofStatus image.status
      if Screen.lastLine < image.line.toNat then
        throw (.badSnapshot .lineTooLarge)
      if Screen.height ≤ image.line.toNat ∧ mode ≠ .vblank then
        throw (.badSnapshot .lineOutsideVBlank)
      return { lcd with
        vram := ⟨image.vram, hVram⟩
        oam := ⟨image.oam, hOam⟩
        control := image.control
        enables := image.status &&& enablesMask
        scrollY := image.scrollY
        scrollX := image.scrollX
        line := image.line
        compare := image.compare
        bgPalette := image.bgPalette
        objPalette0 := image.objPalette0
        objPalette1 := image.objPalette1
        windowY := image.windowY
        windowX := image.windowX
        mode := mode
        modeClock := 0 }
    else throw (.badSnapshot .vramSize)
  else throw (.badSnapshot .oamSize)

end Lcd

namespace Snapshot

/-- What is wrong with the RAM banks of a snapshot for a slot, if anything. -/
def bankFlaw? (slot : Option Slot) (given : Array (Array Byte)) : Option SnapshotFlaw :=
  match slot with
  | none => if given.isEmpty then none else some .bankWithoutCartridge
  | some slot =>
    if given.size ≠ slot.ram.bankCount then some .bankCount
    else if given.any (·.size != slot.ram.bankSize) then some .bankSize
    else none

end Snapshot

end DotMatrix
