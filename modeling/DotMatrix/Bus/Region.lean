import DotMatrix.Word

/-!
The address map: which device answers at an address.
-/

namespace DotMatrix

inductive BusRegion where
  | romLow
  | romHigh
  | vram
  | externalRam
  | workRam
  /-- The work RAM again. -/
  | echo
  | oam
  /-- Addresses that read as zero and hold nothing. -/
  | unusable
  | joypad
  | serial
  | timer
  | interruptRequest
  | audio
  | lcd
  | oamTransfer
  | highRam
  | interruptEnable
  /-- Addresses that nothing answers. -/
  | unmapped
  deriving DecidableEq, Repr

namespace BusRegion

/-- The regions of the last page below the high RAM: the registers of the devices. -/
def ofRegister (low : Nat) : BusRegion :=
  if low = 0x00 then joypad
  else if low = 0x01 ∨ low = 0x02 then serial
  else if 0x04 ≤ low ∧ low ≤ 0x07 then timer
  else if low = 0x0F then interruptRequest
  else if 0x10 ≤ low ∧ low ≤ 0x3F then audio
  else if low = 0x46 then oamTransfer
  else if 0x40 ≤ low ∧ low ≤ 0x4B then lcd
  else unmapped

def ofAddress (addr : Word) : BusRegion :=
  let a := addr.toNat
  if a < 0x4000 then romLow
  else if a < 0x8000 then romHigh
  else if a < 0xA000 then vram
  else if a < 0xC000 then externalRam
  else if a < 0xE000 then workRam
  else if a < 0xFE00 then echo
  else if a < 0xFEA0 then oam
  else if a < 0xFF00 then unusable
  else if a < 0xFF80 then ofRegister (a - 0xFF00)
  else if a < 0xFFFF then highRam
  else interruptEnable

end BusRegion

end DotMatrix
