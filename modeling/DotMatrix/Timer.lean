import DotMatrix.Word

/-!
The divider and the programmable timer. A 16-bit divider counts clock ticks, four to a machine
cycle. One of its bits, chosen by the control register and let through by the enable bit, is the
signal; whenever the signal falls the counter goes up. A write that makes the signal fall counts
just as a tick does.
-/

namespace DotMatrix

structure Timer where
  /-- The divider; its register shows the high byte. -/
  divider : Word
  /-- Counts falling edges of the signal. -/
  counter : Byte
  /-- What the counter starts again from when it overflows. -/
  modulo : Byte
  /-- The enable bit and the choice of the rate; three bits. -/
  control : Byte
  /-- The signal when it was last looked at. -/
  signal : Bool
  /-- Has the counter overflowed since the overflow was last taken? -/
  overflowed : Bool
  deriving DecidableEq, Repr

namespace Timer

def initial : Timer := ⟨0, 0, 0, 0, false, false⟩

/-- The divider's bit that the control register chooses. -/
def selectedBit (control : Byte) : Nat :=
  match control.toNat % 4 with
  | 0 => 9
  | 1 => 3
  | 2 => 5
  | _ => 7

/-- The signal for a divider and a control register. -/
def signalOf (divider : Word) (control : Byte) : Bool :=
  control.bit 2 && divider.toNat.testBit (selectedBit control)

/-- One count: an overflow reloads the counter. -/
def count (t : Timer) : Timer :=
  if t.counter = 0xFF then { t with counter := t.modulo, overflowed := true }
  else { t with counter := t.counter + 1 }

/-- Looks at the signal, and counts if it has fallen. -/
def sample (t : Timer) : Timer :=
  let now := signalOf t.divider t.control
  let counted := if t.signal && !now then t.count else t
  { counted with signal := now }

def tick (t : Timer) : Timer :=
  sample { t with divider := t.divider + 1 }

def ticks : Nat → Timer → Timer
  | 0, t => t
  | n + 1, t => ticks n t.tick

/-- Takes the overflow: was there one since the last time? -/
def takeOverflow (t : Timer) : Timer × Bool :=
  ({ t with overflowed := false }, t.overflowed)

/-- Runs for a number of machine cycles and takes the overflow. -/
def step (t : Timer) (cycles : Nat) : Timer × Bool :=
  (ticks (4 * cycles) t).takeOverflow

def read (t : Timer) (addr : Word) : Byte :=
  match addr.toNat with
  | 0xFF04 => t.divider.high
  | 0xFF05 => t.counter
  | 0xFF06 => t.modulo
  | 0xFF07 => t.control ||| 0xF8
  | _ => 0xFF

/-- A write to the divider clears it, whatever is written. -/
def write (t : Timer) (addr : Word) (value : Byte) : Timer :=
  match addr.toNat with
  | 0xFF04 => sample { t with divider := 0 }
  | 0xFF05 => { t with counter := value }
  | 0xFF06 => { t with modulo := value }
  | 0xFF07 => sample { t with control := value &&& 0x07 }
  | _ => t

end Timer

end DotMatrix
