import DotMatrix.Word

/-!
Pixels. A pixel is one of four shades of grey together with the layer it was drawn in, so that a
host can give each layer its own colours.
-/

namespace DotMatrix

/-- The four shades, darkest first. -/
inductive Shade where
  | dark | medium | light | white
  deriving DecidableEq, Repr

namespace Shade

/-- The shade for a two-bit entry of a palette; zero is the lightest. -/
def ofEntry (entry : Nat) : Shade :=
  match entry % 4 with
  | 0 => white
  | 1 => light
  | 2 => medium
  | _ => dark

/-- The place in the order from dark to white. -/
def rank : Shade → Nat
  | dark => 0
  | medium => 1
  | light => 2
  | white => 3

def luminance (s : Shade) : Byte :=
  UInt8.ofNat (s.rank * 0x55)

end Shade

/-- What a pixel was drawn for: the background and the window, or a sprite with one of the two
sprite palettes. -/
inductive Layer where
  | background | object0 | object1
  deriving DecidableEq, Repr

def Layer.rank : Layer → Nat
  | background => 0
  | object0 => 1
  | object1 => 2

structure Pixel where
  layer : Layer
  shade : Shade
  deriving DecidableEq, Repr

namespace Pixel

def blank : Pixel := ⟨.background, .white⟩

def outside : Pixel := ⟨.background, .dark⟩

/-- The byte form: the layer above the two bits of the shade. -/
def toByte (p : Pixel) : Byte :=
  UInt8.ofNat (p.layer.rank * 4 + p.shade.rank)

end Pixel

/-- The number of a colour in a tile, before a palette turns it into a shade. -/
abbrev ColourId := Fin 4

/-- The shade that a palette register gives a colour: two bits for each of the four. -/
def shadeOf (palette : Byte) (colour : ColourId) : Shade :=
  .ofEntry (palette.toNat >>> (2 * colour.val))

end DotMatrix
