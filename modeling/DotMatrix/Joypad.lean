import DotMatrix.Word

/-!
The joypad register. The eight keys are two rows of four; a program selects rows and reads the
four columns. A pressed key and a selected row both read as zero.
-/

namespace DotMatrix

inductive Key where
  | right | left | up | down | a | b | select | start
  deriving DecidableEq, Repr

namespace Key

def column : Key → Byte
  | right | a => 0x01
  | left | b => 0x02
  | up | select => 0x04
  | down | start => 0x08

def isDirection : Key → Bool
  | right | left | up | down => true
  | _ => false

end Key

structure Joypad where
  /-- The row of the directions, a bit for a key that is up. -/
  directions : Byte
  /-- The row of the buttons, likewise. -/
  buttons : Byte
  /-- The two select bits as last written. -/
  selected : Byte
  deriving DecidableEq, Repr

namespace Joypad

def initial : Joypad := ⟨0x0F, 0x0F, 0x30⟩

def row (pad : Joypad) (key : Key) : Byte :=
  if key.isDirection then pad.directions else pad.buttons

def setRow (pad : Joypad) (key : Key) (row : Byte) : Joypad :=
  if key.isDirection then { pad with directions := row } else { pad with buttons := row }

def isPressed (pad : Joypad) (key : Key) : Bool :=
  pad.row key &&& key.column == 0

/-- Presses a key. The answer says whether it was up before; only then is there an interrupt. -/
def press (pad : Joypad) (key : Key) : Joypad × Bool :=
  (pad.setRow key (pad.row key &&& ~~~key.column), !pad.isPressed key)

def release (pad : Joypad) (key : Key) : Joypad :=
  pad.setRow key (pad.row key ||| key.column)

/-- The register: the columns are zero where a selected row holds a pressed key. -/
def read (pad : Joypad) : Byte :=
  let directions := if pad.selected.bit 4 then 0x0F else pad.directions
  let buttons := if pad.selected.bit 5 then 0x0F else pad.buttons
  0xC0 ||| pad.selected ||| (0x0F &&& directions &&& buttons)

/-- Only the two select bits are kept. -/
def write (pad : Joypad) (value : Byte) : Joypad :=
  { pad with selected := value &&& 0x30 }

end Joypad

end DotMatrix
