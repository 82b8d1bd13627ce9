import DotMatrix.Word
import DotMatrix.Text.Hex

/-!
The ways an operation on the console can fail, each with its cause, and the one place where a
cause becomes a sentence.

Addresses that nothing answers and bank numbers that do not exist are no failures: they read as
the open bus, or wrap around.
-/

namespace DotMatrix

inductive SnapshotFlaw where
  | oamSize
  | vramSize
  | lineTooLarge
  | lineOutsideVBlank
  | bankWithoutCartridge
  | bankCount
  | bankSize
  deriving DecidableEq, Repr

inductive Failure where
  /-- The processor met a byte that encodes no instruction. -/
  | undefinedOpcode (opcode : Byte) (pc : Word)
  | unknownCartridgeType (code : Byte)
  | unknownRomSize (code : Byte)
  | unknownRamSize (code : Byte)
  /-- The image ends before its header does. -/
  | imageTooShort (length : Nat)
  | emptySlot
  /-- The processor met an undefined opcode earlier and has been stuck since. -/
  | stuck (opcode : Byte) (pc : Word)
  | badSnapshot (flaw : SnapshotFlaw)
  deriving DecidableEq, Repr

namespace SnapshotFlaw

def message : SnapshotFlaw → String
  | oamSize => "OAM must be 160 bytes"
  | vramSize => "VRAM must be 8192 bytes"
  | lineTooLarge => "LY must be at most 153"
  | lineOutsideVBlank => "LY is past the screen outside VBlank"
  | bankWithoutCartridge => "no cartridge to receive RAM banks"
  | bankCount => "RAM bank count mismatch"
  | bankSize => "RAM bank size mismatch"

end SnapshotFlaw

namespace Failure

def message : Failure → String
  | undefinedOpcode opcode pc =>
    s!"unsupported opcode 0x{Hex.byte opcode} at 0x{Hex.word pc}"
  | unknownCartridgeType code => s!"unrecognized cartridge type 0x{Hex.byte code}"
  | unknownRomSize code => s!"unsupported ROM size code 0x{Hex.byte code}"
  | unknownRamSize code => s!"unsupported RAM size code 0x{Hex.byte code}"
  | imageTooShort length =>
    s!"ROM image is {length} bytes, too short to contain a cartridge header"
  | emptySlot => "no cartridge loaded"
  | stuck opcode pc =>
    s!"console halted after unsupported opcode 0x{Hex.byte opcode} at 0x{Hex.word pc}; " ++
      "load a cartridge to continue"
  | badSnapshot flaw => "invalid console state: " ++ flaw.message

end Failure

/-- What has a result known to it has succeeded. -/
theorem exists_ok_of_map {ε α β : Type} {outcome : Except ε α} {f : α → β} {known : β}
    (h : outcome.toOption.map f = some known) : ∃ a, outcome = .ok a ∧ f a = known := by
  cases outcome with
  | error failure => cases h
  | ok a => exact ⟨a, rfl, Option.some.inj h⟩

end DotMatrix
