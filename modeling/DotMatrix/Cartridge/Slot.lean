import DotMatrix.Cartridge.Banking
import DotMatrix.Cartridge.Clock
import DotMatrix.Cartridge.Ram

/-!
A cartridge in the slot: the image with what is on its board, a memory controller, perhaps RAM and
perhaps a clock chip. It answers below `0x8000` with the ROM and from `0xA000` to `0xBFFF` with
whatever the controller puts there.
-/

namespace DotMatrix

structure Slot where
  cartridge : Cartridge
  banking : Banking
  ram : ExternalRam
  clock : Option ClockChip

namespace Slot

/-- A cartridge that is put in at a wall time. -/
def insert (cartridge : Cartridge) (now : UInt64) : Slot :=
  { cartridge := cartridge
    banking := .initial cartridge.header.board
    ram := .blank cartridge.header
    clock := if cartridge.header.board.clock then some (.start now) else none }

/-- Power off and on again, RAM and clock chip included. -/
def reset (slot : Slot) (now : UInt64) : Slot :=
  { slot with
    banking := slot.banking.reset
    ram := slot.ram.clear
    clock := slot.clock.map (·.reset now) }

/-- How many ROM banks can be told apart: the banks of the cartridge, two at least, rounded up to
a power of two. Bank numbers wrap there. -/
def romSpan (header : Header) : Nat :=
  1 <<< ((max header.romBanks 2 - 1).log2 + 1)

/-- A byte of a ROM bank; the open bus past the end of the image. -/
def readRom (slot : Slot) (bank : Nat) (addr : Word) : Byte :=
  let offset := bank % romSpan slot.cartridge.header * Board.romBankSize
    + addr.toNat % Board.romBankSize
  slot.cartridge.image.getD offset 0xFF

def read (slot : Slot) (addr : Word) : Byte :=
  let a := addr.toNat
  if a < 0x4000 then slot.readRom slot.banking.lowBank addr
  else if a < 0x8000 then slot.readRom slot.banking.highBank addr
  else if 0xA000 ≤ a ∧ a < 0xC000 then
    match slot.banking.external with
    | .closed => 0xFF
    | .bank n => slot.ram.read n addr
    | .clock register =>
      match slot.clock with
      | some chip => chip.read register
      | none => 0xFF
  else 0xFF

def write (slot : Slot) (now : UInt64) (addr : Word) (value : Byte) : Slot :=
  let a := addr.toNat
  if a < 0x8000 then
    let clock :=
      if slot.banking.latches addr value then slot.clock.map (·.latch now) else slot.clock
    { slot with banking := slot.banking.write addr value, clock := clock }
  else if 0xA000 ≤ a ∧ a < 0xC000 then
    match slot.banking.external with
    | .closed => slot
    | .bank n => { slot with ram := slot.ram.write n addr value }
    | .clock register => { slot with clock := slot.clock.map (·.write now register value) }
  else slot

end Slot

end DotMatrix
