import DotMatrix.Word

/-!
The five interrupts. Each has a bit in the request and enable registers and an address at which
its service begins; of several that are pending, the one with the lowest bit goes first.
-/

namespace DotMatrix

inductive Interrupt where
  | vblank
  | lcd
  | timer
  | serial
  | joypad
  deriving DecidableEq, Repr

namespace Interrupt

/-- The interrupt's bit in the request and enable registers. -/
def mask : Interrupt → Byte
  | vblank => 0x01
  | lcd => 0x02
  | timer => 0x04
  | serial => 0x08
  | joypad => 0x10

/-- Where the service of the interrupt begins. -/
def vector : Interrupt → Word
  | vblank => 0x40
  | lcd => 0x48
  | timer => 0x50
  | serial => 0x58
  | joypad => 0x60

def allMask : Byte := 0x1F

/-- The interrupt that goes first among the pending ones. -/
def first (pending : Byte) : Interrupt :=
  if pending.bit 0 then vblank
  else if pending.bit 1 then lcd
  else if pending.bit 2 then timer
  else if pending.bit 3 then serial
  else joypad

end Interrupt

end DotMatrix
