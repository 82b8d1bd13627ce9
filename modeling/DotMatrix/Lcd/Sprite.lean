import DotMatrix.Memory

/-!
Sprites. The sprite memory (OAM) holds forty of them, four bytes each. Their coordinates are those
of a point sixteen lines below and eight columns to the right of the sprite's corner, so that a
sprite can stick out at the top and on the left.
-/

namespace DotMatrix

abbrev Oam := Memory 0xA0

structure Sprite where
  y : Byte
  x : Byte
  tile : Byte
  flags : Byte
  deriving DecidableEq, Repr

namespace Sprite

/-- The line of the sprite's top row. -/
def top (s : Sprite) : Int := s.y.toNat - 16

/-- The column of the sprite's leftmost pixel. -/
def left (s : Sprite) : Int := s.x.toNat - 8

/-- Does the sprite give way to colours 1 to 3 of the background? -/
def below (s : Sprite) : Bool := s.flags.bit 7

def flipY (s : Sprite) : Bool := s.flags.bit 6

def flipX (s : Sprite) : Bool := s.flags.bit 5

def secondPalette (s : Sprite) : Bool := s.flags.bit 4

end Sprite

namespace Oam

def spriteCount : Nat := 40

/-- A sprite by its number, which wraps at the number of sprites. -/
def sprite (oam : Oam) (index : Nat) : Sprite :=
  let start := index % spriteCount * 4
  ⟨Memory.read oam start, Memory.read oam (start + 1), Memory.read oam (start + 2),
    Memory.read oam (start + 3)⟩

def sprites (oam : Oam) : List Sprite :=
  (List.range spriteCount).map oam.sprite

end Oam

end DotMatrix
