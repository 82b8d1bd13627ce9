import DotMatrix.Lcd.Pixel

/-!
Pictures of a fixed size. Outside of a picture there is a fixed pixel to read and nothing to
write.
-/

namespace DotMatrix

structure Bitmap (width height : Nat) where
  /-- The pixels, row by row. -/
  pixels : Vector Pixel (width * height)
  deriving DecidableEq

namespace Bitmap

variable {width height : Nat}

def filled (width height : Nat) (p : Pixel) : Bitmap width height :=
  ⟨Vector.replicate (width * height) p⟩

theorem index_lt {x y : Nat} (hx : x < width) (hy : y < height) :
    y * width + x < width * height := by
  have : (y + 1) * width ≤ height * width := Nat.mul_le_mul_right width hy
  rw [Nat.mul_comm width height]
  rw [Nat.add_mul] at this
  omega

def get (b : Bitmap width height) (x y : Nat) : Pixel :=
  if h : x < width ∧ y < height then
    have := index_lt h.1 h.2
    b.pixels[y * width + x]
  else .outside

def set (b : Bitmap width height) (x y : Nat) (p : Pixel) : Bitmap width height :=
  if h : x < width ∧ y < height then ⟨b.pixels.set (y * width + x) p (index_lt h.1 h.2)⟩
  else b

/-- A row from left to right; past the bottom there is none. -/
def row (b : Bitmap width height) (y : Nat) : Array Pixel :=
  b.pixels.toArray.extract (y * width) ((y + 1) * width)

def setRow (b : Bitmap width height) (y : Nat) (line : Vector Pixel width) :
    Bitmap width height :=
  ⟨Fin.foldl width (fun pixels x => pixels.setIfInBounds (y * width + x.val) (line.get x))
    b.pixels⟩

end Bitmap

end DotMatrix
