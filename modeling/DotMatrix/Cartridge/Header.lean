import DotMatrix.Failure

/-!
The header of a cartridge, the bytes from `0x0134` to `0x014F` of its image: who made it, what is on
the board, and a checksum over itself. Reading it fails where the image is too short or where the
board, the ROM size or the RAM size has no meaning, in this order.
-/

namespace DotMatrix

/-- The family of the memory controller. -/
inductive ControllerKind where
  /-- No controller: two fixed banks. -/
  | plain
  | mbc1
  | mbc2
  | mbc3
  | mbc5
  deriving DecidableEq, Repr

/-- How far a cartridge makes use of the colour model. -/
inductive ColourSupport where
  | absent
  | allowed
  | required
  deriving DecidableEq, Repr

inductive Region where
  | japanese
  | overseas
  deriving DecidableEq, Repr

/-- What the type byte says is on the board. -/
structure Board where
  kind : ControllerKind
  ram : Bool
  battery : Bool
  clock : Bool
  rumble : Bool
  deriving DecidableEq, Repr

namespace Board

def romBankSize : Nat := 0x4000

def ramBankSize : Nat := 0x2000

/-- The number of half-byte cells on an MBC2. -/
def nibbleCount : Nat := 0x200

private def bare (kind : ControllerKind) : Board :=
  ⟨kind, false, false, false, false⟩

/-- The board for a type byte, if the byte stands for one. -/
def ofType? (code : Byte) : Option Board :=
  match code.toNat with
  | 0x00 => some (bare .plain)
  | 0x01 => some (bare .mbc1)
  | 0x02 => some { bare .mbc1 with ram := true }
  | 0x03 => some { bare .mbc1 with ram := true, battery := true }
  | 0x05 => some { bare .mbc2 with ram := true }
  | 0x06 => some { bare .mbc2 with ram := true, battery := true }
  | 0x08 => some { bare .plain with ram := true }
  | 0x09 => some { bare .plain with ram := true, battery := true }
  | 0x0F => some { bare .mbc3 with clock := true, battery := true }
  | 0x10 => some { bare .mbc3 with clock := true, ram := true, battery := true }
  | 0x11 => some (bare .mbc3)
  | 0x12 => some { bare .mbc3 with ram := true }
  | 0x13 => some { bare .mbc3 with ram := true, battery := true }
  | 0x19 => some (bare .mbc5)
  | 0x1A => some { bare .mbc5 with ram := true }
  | 0x1B => some { bare .mbc5 with ram := true, battery := true }
  | 0x1C => some { bare .mbc5 with rumble := true }
  | 0x1D => some { bare .mbc5 with rumble := true, ram := true }
  | 0x1E => some { bare .mbc5 with rumble := true, ram := true, battery := true }
  | _ => none

end Board

/-- How much external RAM there is. -/
structure RamSize where
  bytes : Nat
  banks : Nat
  deriving DecidableEq, Repr

namespace RamSize

/-- The size for a size byte, if the byte stands for one. -/
def ofCode? (code : Byte) : Option RamSize :=
  match code.toNat with
  | 0x00 => some ⟨0, 0⟩
  | 0x01 => some ⟨0x800, 1⟩
  | 0x02 => some ⟨0x2000, 1⟩
  | 0x03 => some ⟨0x8000, 4⟩
  | 0x04 => some ⟨0x20000, 16⟩
  | 0x05 => some ⟨0x10000, 8⟩
  | _ => none

/-- What is fitted on a board whose header states `stated`: an MBC2 carries its own cells, a board
without a controller has one bank, and a board without RAM has none, whatever is stated. -/
def fitted (stated : RamSize) (board : Board) : RamSize :=
  match board.kind with
  | .mbc2 => ⟨Board.nibbleCount, 1⟩
  | .plain => if board.ram then ⟨Board.ramBankSize, 1⟩ else ⟨0, 0⟩
  | _ => if board.ram then stated else ⟨0, 0⟩

end RamSize

/-- The number of ROM banks for a size byte, if the byte stands for one. -/
def romBanks? (code : Byte) : Option Nat :=
  match code.toNat with
  | 0x52 => some 72
  | 0x53 => some 80
  | 0x54 => some 96
  | n => if n ≤ 8 then some (2 <<< n) else none

structure Header where
  title : String
  manufacturer : String
  colour : ColourSupport
  newLicensee : String
  /-- Does the cartridge make use of the television adapter? -/
  sgb : Bool
  typeCode : Byte
  board : Board
  romBanks : Nat
  ram : RamSize
  region : Region
  version : Byte
  checksum : Byte
  globalChecksum : Word
  /-- The checksum that the header has. -/
  computedChecksum : Byte
  deriving DecidableEq, Repr

namespace Header

/-- The least size of an image that has a header. -/
def minImageSize : Nat := 0x0150

def slice (image : Array Byte) (start stop : Nat) : List Byte :=
  (image.extract start stop).toList

/-- A text field ends at its first byte that is no printable character; blanks at its end are
padding. -/
def text (field : List Byte) : String :=
  let printable := field.takeWhile fun b => 0x20 ≤ b.toNat && b.toNat ≤ 0x7E
  let kept := printable.reverse.dropWhile (· == 0x20)
  String.ofList (kept.reverse.map fun b => Char.ofNat b.toNat)

/-- The checksum over some bytes: each is taken off, and one more. -/
def checksumOf (bytes : List Byte) : Byte :=
  bytes.foldl (fun sum b => sum - b - 1) 0

def romSize (header : Header) : Nat :=
  header.romBanks * Board.romBankSize

def checksumOk (header : Header) : Bool :=
  header.computedChecksum == header.checksum

/-- Does the cartridge ask for the colour model at all? -/
def wantsColour (header : Header) : Bool :=
  header.colour != .absent

def ofImage (image : Array Byte) : Except Failure Header := do
  if image.size < minImageSize then
    throw (.imageTooShort image.size)
  let byte (offset : Nat) : Byte := image.getD offset 0
  let some board := Board.ofType? (byte 0x0147)
    | throw (.unknownCartridgeType (byte 0x0147))
  let some romBanks := romBanks? (byte 0x0148)
    | throw (.unknownRomSize (byte 0x0148))
  let some stated := RamSize.ofCode? (byte 0x0149)
    | throw (.unknownRamSize (byte 0x0149))
  return {
    title := text (slice image 0x0134 0x0144)
    manufacturer := text (slice image 0x013F 0x0143)
    colour :=
      match (byte 0x0143).toNat with
      | 0xC0 => .required
      | 0x80 => .allowed
      | _ => .absent
    newLicensee := text (slice image 0x0144 0x0146)
    sgb := byte 0x0146 == 0x03
    typeCode := byte 0x0147
    board := board
    romBanks := romBanks
    ram := stated.fitted board
    region := if byte 0x014A == 0x00 then .japanese else .overseas
    version := byte 0x014C
    checksum := byte 0x014D
    globalChecksum := .ofBytes (byte 0x014E) (byte 0x014F)
    computedChecksum := checksumOf (slice image 0x0134 0x014D) }

end Header

/-- The image of a cartridge with its header. -/
structure Cartridge where
  image : Array Byte
  header : Header
  deriving DecidableEq, Repr

namespace Cartridge

/-- An image is a cartridge if it has a header that can be read. -/
def ofImage (image : Array Byte) : Except Failure Cartridge := do
  return ⟨image, ← Header.ofImage image⟩

end Cartridge

end DotMatrix
