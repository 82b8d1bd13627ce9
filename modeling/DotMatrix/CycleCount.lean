/-!
Machine cycles spent so far. The cycles of the instruction at hand are pending until it is done;
they are then committed to the total once, or dropped.
-/

namespace DotMatrix

structure CycleCount where
  pending : Nat
  total : Nat
  deriving DecidableEq, Repr

namespace CycleCount

def zero : CycleCount := ⟨0, 0⟩

def add (count : CycleCount) (cycles : Nat) : CycleCount :=
  { count with pending := count.pending + cycles }

/-- Moves the pending cycles to the total. The number moved is `count.pending`. -/
def commit (count : CycleCount) : CycleCount :=
  ⟨0, count.total + count.pending⟩

def drop (count : CycleCount) : CycleCount :=
  { count with pending := 0 }

end CycleCount

end DotMatrix
