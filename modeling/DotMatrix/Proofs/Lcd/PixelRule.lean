import DotMatrix.Lcd.Scanline

/-!
What each pixel of the line at hand is, said for one column at a time. The background and the window
give the colour and the pixel on the ground, and of all sprites that are opaque at the column the one
furthest to the left, and of these the first in the memory, lies over it or under it.

Memory is looked at byte by byte here and a byte bit by bit, and coordinates are integers that can be off
the screen.
-/

namespace DotMatrix

namespace PixelRule

/-- The colour that is transparent in a sprite. -/
def clear : ColourId :=
  ⟨0, Nat.succ_pos 3⟩

theorem val_eq_zero_iff {colour : ColourId} : colour.val = 0 ↔ colour = clear :=
  Fin.val_eq_zero_iff

theorem twoBits_lt (high low : Bool) : 2 * high.toNat + low.toNat < 4 := by
  cases high <;> cases low <;> decide

/-- The colour at a column of eight pixels in a row: the bytes give a bit each, and the leftmost column
is in the topmost bit. -/
def rowColour (low high : Byte) (column : Nat) : ColourId :=
  ⟨2 * (high.toNat.testBit (7 - column)).toNat + (low.toNat.testBit (7 - column)).toNat, twoBits_lt _ _⟩

/-- The shade of a colour under a palette, which has two bits for each colour, those of the first colour
lowest. -/
def shade (palette : Byte) (colour : ColourId) : Shade :=
  match palette.toNat.testBit (2 * colour.val + 1), palette.toNat.testBit (2 * colour.val) with
  | false, false => .white
  | false, true => .light
  | true, false => .medium
  | true, true => .dark

section Ground

variable (lcd : Lcd)

def vramByte (offset : Nat) : Byte :=
  lcd.vram[offset]?.getD 0

/-- Is a bit of the control register set? -/
def controlBit (i : Nat) : Bool :=
  lcd.control.toNat.testBit i

/-- The colour at a column of the row of eight pixels that begins at an offset. -/
def rowColourAt (offset column : Nat) : ColourId :=
  rowColour (vramByte lcd offset) (vramByte lcd (offset + 1)) column

/-- Where the tile of a map entry begins: the entry counts tiles of sixteen bytes from the first one, or
it is a signed number and counts them from the tile in the middle. -/
def tileStart (entry : Byte) : Nat :=
  if controlBit lcd 4 then 16 * entry.toNat else (0x1000 + 16 * entry.toInt8.toInt).toNat

/-- The colour of the lower or the higher map at a point. -/
def mapColour (high : Bool) (x y : Nat) : ColourId :=
  let entry := vramByte lcd ((if high then 0x1C00 else 0x1800) + 32 * (y / 8) + x / 8)
  rowColourAt lcd (tileStart lcd entry + 2 * (y % 8)) (x % 8)

def backgroundColour (x : Nat) : ColourId :=
  mapColour lcd (controlBit lcd 3) ((x + lcd.scrollX.toNat) % 0x100)
    ((lcd.line.toNat + lcd.scrollY.toNat) % 0x100)

/-- The column of the window's left edge. -/
def windowLeft : Int := lcd.windowX.toNat - 7

/-- Does the window lie over a column? -/
def InWindow (x : Nat) : Prop :=
  controlBit lcd 5 = true ∧ lcd.windowY.toNat ≤ lcd.line.toNat ∧ windowLeft lcd ≤ x

instance (x : Nat) : Decidable (InWindow lcd x) :=
  inferInstanceAs (Decidable (_ ∧ _ ∧ _))

def windowColour (x : Nat) : ColourId :=
  mapColour lcd (controlBit lcd 6) (x - windowLeft lcd).toNat (lcd.line.toNat - lcd.windowY.toNat)

/-- The colour on the ground of a column, by which a sprite may give way to it. -/
def groundColour (x : Nat) : ColourId :=
  if InWindow lcd x then windowColour lcd x
  else if controlBit lcd 0 then backgroundColour lcd x
  else clear

/-- The pixel on the ground of a column. -/
def groundPixel (x : Nat) : Pixel :=
  if InWindow lcd x ∨ controlBit lcd 0 = true then
    ⟨.background, shade lcd.bgPalette (groundColour lcd x)⟩
  else ⟨.background, .white⟩

end Ground

section Sprites

variable (lcd : Lcd)

def oamByte (offset : Nat) : Byte :=
  lcd.oam[offset]?.getD 0

/-- A sprite by its number: four bytes of the sprite memory. -/
def spriteAt (i : Nat) : Sprite :=
  { y := oamByte lcd (4 * i)
    x := oamByte lcd (4 * i + 1)
    tile := oamByte lcd (4 * i + 2)
    flags := oamByte lcd (4 * i + 3) }

/-- The line of a sprite's top row. -/
def spriteTop (s : Sprite) : Int := s.y.toNat - 16

/-- The column of a sprite's leftmost pixel. -/
def spriteLeft (s : Sprite) : Int := s.x.toNat - 8

/-- Is a bit of a sprite's flags set? Bit 7 puts the sprite under the background, bits 6 and 5 mirror it
from top to bottom and from left to right, and bit 4 chooses its palette. -/
def flag (s : Sprite) (i : Nat) : Bool :=
  s.flags.toNat.testBit i

/-- The colour of a sprite at a column of the line at hand. Where the sprite is not, it is transparent.
A tall sprite is two tiles one below the other, the upper one with an even number. -/
def spriteColour (s : Sprite) (x : Nat) : ColourId :=
  let height : Int := if controlBit lcd 2 then 16 else 8
  let row : Int := lcd.line.toNat - spriteTop s
  let column : Int := x - spriteLeft s
  if 0 ≤ row ∧ row < height ∧ 0 ≤ column ∧ column < 8 then
    let row := if flag s 6 then height - 1 - row else row
    let column := if flag s 5 then 7 - column else column
    let tile := if controlBit lcd 2 then s.tile.toNat - s.tile.toNat % 2 else s.tile.toNat
    rowColourAt lcd (16 * tile + 2 * row.toNat) column.toNat
  else clear

/-- Does a sprite hide what is under it at a column? -/
def Opaque (x i : Nat) : Prop :=
  spriteColour lcd (spriteAt lcd i) x ≠ clear

instance (x i : Nat) : Decidable (Opaque lcd x i) :=
  inferInstanceAs (Decidable (_ ≠ _))

/-- Does a sprite go before another one, by its coordinate and then by its number? -/
def Before (i j : Nat) : Prop :=
  (spriteAt lcd i).x.toNat < (spriteAt lcd j).x.toNat ∨
    ((spriteAt lcd i).x = (spriteAt lcd j).x ∧ i ≤ j)

instance (i j : Nat) : Decidable (Before lcd i j) :=
  inferInstanceAs (Decidable (_ ∨ _))

/-- Of the first so many sprites, is one the opaque one at a column that goes before all others? -/
def Leads (count x i : Nat) : Prop :=
  i < count ∧ Opaque lcd x i ∧ ∀ j < count, Opaque lcd x j → Before lcd i j

instance (count x i : Nat) : Decidable (Leads lcd count x i) :=
  inferInstanceAs (Decidable (_ ∧ _ ∧ _))

/-- The sprite that has a column. -/
def leader? (x : Nat) : Option Nat :=
  (List.range 40).find? fun i => decide (Leads lcd 40 x i)

def spritePixel (s : Sprite) (x : Nat) : Pixel :=
  if flag s 4 then ⟨.object1, shade lcd.objPalette1 (spriteColour lcd s x)⟩
  else ⟨.object0, shade lcd.objPalette0 (spriteColour lcd s x)⟩

/-- The pixel at a column of the line at hand. -/
def pixel (x : Nat) : Pixel :=
  if controlBit lcd 1 then
    match leader? lcd x with
    | none => groundPixel lcd x
    | some i =>
      let s := spriteAt lcd i
      if flag s 7 = true ∧ groundColour lcd x ≠ clear then groundPixel lcd x else spritePixel lcd s x
  else groundPixel lcd x

theorem Before.antisymm {i j : Nat} (h : Before lcd i j) (h' : Before lcd j i) : i = j := by
  rcases h with less | ⟨same, le⟩ <;> rcases h' with less' | ⟨same', le'⟩
  · omega
  · rw [same'] at less
    exact absurd less (Nat.lt_irrefl _)
  · rw [same] at less'
    exact absurd less' (Nat.lt_irrefl _)
  · exact Nat.le_antisymm le le'

theorem Leads.unique {count x i j : Nat} (h : Leads lcd count x i) (h' : Leads lcd count x j) :
    i = j :=
  (h.2.2 j h'.1 h'.2.1).antisymm lcd (h'.2.2 i h.1 h.2.1)

section Among

variable {lcd} {count x : Nat}

theorem before_of_le {i j : Nat} (le : (spriteAt lcd i).x ≤ (spriteAt lcd j).x) (h : i ≤ j) :
    Before lcd i j := by
  rw [UInt8.le_iff_toNat_le] at le
  rcases Nat.lt_or_eq_of_le le with less | same
  · exact Or.inl less
  · exact Or.inr ⟨UInt8.toNat_inj.mp same, h⟩

/-- A sprite leads also among one more if it goes before that one. -/
theorem Leads.succ {i : Nat} (h : Leads lcd count x i)
    (next : Opaque lcd x count → Before lcd i count) : Leads lcd (count + 1) x i := by
  obtain ⟨inside, visible, first⟩ := h
  refine ⟨Nat.lt_succ_of_lt inside, visible, ?_⟩
  intro j earlier visible'
  rcases Nat.lt_succ_iff_lt_or_eq.mp earlier with earlier | rfl
  · exact first j earlier visible'
  · exact next visible'

/-- The next sprite leads if it goes before all others. -/
theorem leads_next (visible : Opaque lcd x count)
    (first : ∀ j < count, Opaque lcd x j → Before lcd count j) :
    Leads lcd (count + 1) x count := by
  refine ⟨count.lt_succ_self, visible, ?_⟩
  intro j earlier visible'
  rcases Nat.lt_succ_iff_lt_or_eq.mp earlier with earlier | rfl
  · exact first j earlier visible'
  · exact Or.inr ⟨rfl, Nat.le_refl _⟩

end Among

/-- The sprite that has a column is the one that goes before all others there. -/
theorem leader?_eq_some_iff {x i : Nat} :
    leader? lcd x = some i ↔ Leads lcd 40 x i := by
  constructor
  · intro found
    simpa using List.find?_some found
  · intro leads
    cases found : leader? lcd x with
    | none =>
        have none := List.find?_eq_none.mp found i (List.mem_range.mpr leads.1)
        exact absurd (decide_eq_true leads) none
    | some j =>
        have leads' : Leads lcd 40 x j := by simpa using List.find?_some found
        rw [leads'.unique lcd leads]

end Sprites

end PixelRule

end DotMatrix
