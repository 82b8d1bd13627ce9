import DotMatrix.Console

/-!
Battery files: the external RAM of a cartridge with a battery, kept between runs as one file with
the banks one after the other.
-/

namespace DotMatrix

/-- The pieces of `size` bytes that some bytes fall into; the last one may be shorter. -/
def chunks (size : Nat) (data : Array Byte) : Array (Array Byte) :=
  (Array.range ((data.size + size - 1) / size)).map fun i =>
    data.extract (i * size) ((i + 1) * size)

namespace Slot

/-- Is there a RAM that a battery keeps? -/
def keepsRam (slot : Slot) : Bool :=
  slot.cartridge.header.board.battery && slot.ram.bankCount != 0

def batteryData (slot : Slot) : Array Byte :=
  slot.ram.contents.flatten

def loadBattery (slot : Slot) (data : Array Byte) : Slot :=
  { slot with ram := slot.ram.fill (chunks slot.ram.bankSize data) }

end Slot

namespace Console

/-- What goes into the battery file, if there is anything to keep. -/
def batteryData? (c : Console) : Option (Array Byte) :=
  match c.bus.slot with
  | some slot => if slot.keepsRam then some slot.batteryData else none
  | none => none

/-- Fills the RAM from a battery file, if there is anything to keep. -/
def loadBattery (c : Console) (data : Array Byte) : Console :=
  match c.bus.slot with
  | some slot => if slot.keepsRam then { c with bus.slot := some (slot.loadBattery data) } else c
  | none => c

end Console

end DotMatrix
