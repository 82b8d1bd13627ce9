import DotMatrix.Lcd.Basic

/-!
Drawing a line of the screen. It is laid down in three layers: the background, the window over it
from some column on, and the sprites. Since a sprite may give way to the background by the number
of the colour there, the line carries the numbers along with the shades until the end.
-/

namespace DotMatrix

/-- A pixel of the background or the window with the number of its colour. -/
structure BackDot where
  colour : ColourId
  pixel : Pixel
  deriving DecidableEq, Repr

/-- The sprite pixel that has a column. -/
structure ObjectDot where
  /-- The sprite's horizontal coordinate, by which it wins or loses the column. -/
  x : Byte
  colour : ColourId
  second : Bool
  below : Bool
  deriving DecidableEq, Repr

namespace Lcd

/-- A line of the screen, column by column. -/
abbrev Line (α : Type) := Vector α Screen.width

/-- A dot of a colour under the background palette. -/
def backDot (lcd : Lcd) (colour : ColourId) : BackDot :=
  ⟨colour, ⟨.background, shadeOf lcd.bgPalette colour⟩⟩

/-- The background: a view into its map, which wraps around in both directions. -/
def backgroundLine (lcd : Lcd) : Line BackDot :=
  if lcd.bgEnabled then
    let y := (lcd.line + lcd.scrollY).toNat
    Vector.ofFn fun x =>
      let bx := (x.val + lcd.scrollX.toNat) % 0x100
      lcd.backDot (lcd.vram.mapColour lcd.addressing lcd.bgMapHigh bx y)
  else
    Vector.replicate _ ⟨.mk 0 (by decide), .blank⟩

/-- The window over a line: from its left edge on, a view into its map that begins at its corner.
The window's coordinate is seven columns to the right of the edge. -/
def overlayWindow (lcd : Lcd) (line : Line BackDot) : Line BackDot :=
  if lcd.windowEnabled && decide (lcd.windowY ≤ lcd.line) then
    let y := (lcd.line - lcd.windowY).toNat
    let left := lcd.windowX.toNat
    line.mapFinIdx fun x dot _ =>
      if left ≤ x + 7 then
        let wx := (x + 7 - left) % 0x100
        lcd.backDot (lcd.vram.mapColour lcd.addressing lcd.windowMapHigh wx y)
      else dot
  else line

/-- The row of a sprite that lies on the line at hand, if one does. -/
def spriteRow? (lcd : Lcd) (sprite : Sprite) : Option Nat :=
  let below := lcd.line.toNat + 16
  if sprite.y.toNat ≤ below ∧ below - sprite.y.toNat < lcd.spriteHeight then
    let row := below - sprite.y.toNat
    some (if sprite.flipY then lcd.spriteHeight - 1 - row else row)
  else none

/-- The tile that a row of a sprite is in: a tall sprite is two tiles, an even one and the next. -/
def spriteTile (lcd : Lcd) (sprite : Sprite) (row : Nat) : Nat :=
  if lcd.spriteHeight = 16 then sprite.tile.toNat / 2 * 2 + (if 8 ≤ row then 1 else 0)
  else sprite.tile.toNat

/-- Lets a pixel of a sprite have its column, unless it is off the screen or transparent, or a
sprite further to the left, or as far and earlier in the memory, has the column already. -/
def claimColumn (lcd : Lcd) (sprite : Sprite) (row : Nat) (owners : Line (Option ObjectDot))
    (px : Nat) : Line (Option ObjectDot) :=
  let column := sprite.x.toNat + px - 8
  if h : 8 ≤ sprite.x.toNat + px ∧ column < Screen.width then
    let tx := if sprite.flipX then 7 - px else px
    let colour := lcd.vram.colour (lcd.spriteTile sprite row) tx row
    let taken :=
      match owners.get ⟨column, h.2⟩ with
      | some owner => decide (owner.x ≤ sprite.x)
      | none => false
    if colour.val = 0 || taken then owners
    else owners.set column (some ⟨sprite.x, colour, sprite.secondPalette, sprite.below⟩) h.2
  else owners

def claimSprite (lcd : Lcd) (owners : Line (Option ObjectDot)) (sprite : Sprite) :
    Line (Option ObjectDot) :=
  match lcd.spriteRow? sprite with
  | some row => (List.range 8).foldl (lcd.claimColumn sprite row) owners
  | none => owners

/-- For each column the sprite pixel that has it. -/
def columnOwners (lcd : Lcd) : Line (Option ObjectDot) :=
  lcd.oam.sprites.foldl lcd.claimSprite (Vector.replicate _ none)

/-- The pixel of a column, from the background and the sprite pixel that has it. -/
def mergeDot (lcd : Lcd) (dot : BackDot) (owner : Option ObjectDot) : Pixel :=
  match owner with
  | none => dot.pixel
  | some object =>
    if object.below && dot.colour.val != 0 then dot.pixel
    else if object.second then ⟨.object1, shadeOf lcd.objPalette1 object.colour⟩
    else ⟨.object0, shadeOf lcd.objPalette0 object.colour⟩

def composeLine (lcd : Lcd) : Line Pixel :=
  let back := lcd.overlayWindow lcd.backgroundLine
  if lcd.spritesEnabled then Vector.zipWith lcd.mergeDot back lcd.columnOwners
  else back.map (·.pixel)

/-- Draws the line at hand, if the screen has it. -/
def drawLine (lcd : Lcd) : Lcd :=
  if lcd.line.toNat < Screen.height then
    let line := lcd.composeLine
    { lcd with drawn := lcd.drawn.setRow lcd.line.toNat line }
  else lcd

end Lcd

end DotMatrix
