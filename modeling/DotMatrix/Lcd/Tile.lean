import DotMatrix.Lcd.Pixel
import DotMatrix.Memory

/-!
What is in the video memory: 384 tiles of eight by eight colours, and two maps of 32 by 32 tile
numbers. A row of a tile is two bytes, one for each bit of the colours, with the leftmost column
in the topmost bit.
-/

namespace DotMatrix

abbrev Vram := Memory 0x2000

/-- How the number in a map chooses its tile: counted from the first tile, or signed around
tile 256. -/
inductive TileAddressing where
  | unsigned | signed
  deriving DecidableEq, Repr

namespace TileAddressing

def tileNumber (mode : TileAddressing) (index : Byte) : Nat :=
  match mode with
  | unsigned => index.toNat
  | signed => if index.toNat < 0x80 then 0x100 + index.toNat else index.toNat

end TileAddressing

namespace Vram

def tileCount : Nat := 384

def byteAt (vram : Vram) (offset : Nat) : Byte :=
  Memory.read vram offset

def colourOfBits (high low : Bool) : ColourId :=
  match high, low with
  | false, false => 0
  | false, true => 1
  | true, false => 2
  | true, true => 3

/-- The colour of a tile at a column and a row, each taken modulo eight. Tile numbers wrap at the
number of tiles. -/
def colour (vram : Vram) (tile x y : Nat) : ColourId :=
  let start := tile % tileCount * 16 + y % 8 * 2
  let bit := 7 - x % 8
  colourOfBits ((vram.byteAt (start + 1)).bit bit) ((vram.byteAt start).bit bit)

/-- Where a map begins: there is a lower and a higher one. -/
def mapStart (high : Bool) : Nat :=
  if high then 0x1C00 else 0x1800

/-- The entry of a map at a column and a row, each taken modulo 32. -/
def mapEntry (vram : Vram) (high : Bool) (column row : Nat) : Byte :=
  vram.byteAt (mapStart high + row % 32 * 32 + column % 32)

/-- The colour of a map at a point, counted in pixels. -/
def mapColour (vram : Vram) (addressing : TileAddressing) (high : Bool) (x y : Nat) : ColourId :=
  vram.colour (addressing.tileNumber (vram.mapEntry high (x / 8) (y / 8))) x y

end Vram

end DotMatrix
