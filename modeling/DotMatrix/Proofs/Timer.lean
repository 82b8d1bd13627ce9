import DotMatrix.Timer

/-!
The divider counts every tick of the timer and is cleared by a write of its own only; and the counter
overflows exactly where the signal falls while it is full, by a tick or by a write.
-/

namespace DotMatrix

namespace Timer

@[simp] theorem sample_divider (t : Timer) : t.sample.divider = t.divider := by
  unfold sample count
  simp only
  split
  · split <;> rfl
  · rfl

theorem write_divider (t : Timer) {addr : Word} (h : addr ≠ 0xFF04) (value : Byte) :
    (t.write addr value).divider = t.divider := by
  unfold write
  split
  · next hdivider => exact absurd (UInt16.toNat_inj.mp hdivider) h
  · rfl
  · rfl
  · exact sample_divider _
  · rfl

/-- The divider counts every tick. -/
theorem ticks_divider (n : Nat) (t : Timer) :
    (ticks n t).divider = t.divider + UInt16.ofNat n := by
  induction n generalizing t with
  | zero => simp [ticks]
  | succ n ih =>
      rw [ticks, ih, tick, sample_divider]
      apply UInt16.toNat_inj.mp
      simp only [UInt16.toNat_add, UInt16.toNat_ofNat', UInt16.toNat_one]
      omega

theorem step_divider (t : Timer) (cycles : Nat) :
    (t.step cycles).1.divider = t.divider + UInt16.ofNat (4 * cycles) :=
  ticks_divider _ t

section Overflow

/-- Would the counter overflow if the signal changed to the given one? -/
def overflowsAt (t : Timer) (signal : Bool) : Bool :=
  t.signal && !signal && t.counter == 0xFF

/-- Does the counter overflow in the next ticks? -/
def overflowsWithin : Nat → Timer → Bool
  | 0, _ => false
  | n + 1, t => t.overflowsAt t.tick.signal || overflowsWithin n t.tick

@[simp] theorem sample_signal (t : Timer) : t.sample.signal = signalOf t.divider t.control := rfl

theorem sample_overflowed (t : Timer) :
    t.sample.overflowed = (t.overflowed || t.overflowsAt t.sample.signal) := by
  rw [sample_signal]
  unfold sample count overflowsAt
  dsimp only
  by_cases falls : (t.signal && !signalOf t.divider t.control) = true
  · rw [falls, if_pos rfl, Bool.true_and]
    by_cases full : t.counter = 0xFF
    · simp [full]
    · simp [full]
  · rw [if_neg falls, Bool.eq_false_iff.mpr falls, Bool.false_and, Bool.or_false]

theorem tick_overflowed (t : Timer) :
    t.tick.overflowed = (t.overflowed || t.overflowsAt t.tick.signal) :=
  sample_overflowed { t with divider := t.divider + 1 }

theorem ticks_overflowed (n : Nat) (t : Timer) :
    (ticks n t).overflowed = (t.overflowed || overflowsWithin n t) := by
  induction n generalizing t with
  | zero => simp [ticks, overflowsWithin]
  | succ n ih => rw [ticks, ih, tick_overflowed, overflowsWithin, Bool.or_assoc]

/-- A run reports an overflow exactly if the counter overflows in it. -/
theorem step_overflow {t : Timer} (taken : t.overflowed = false) (cycles : Nat) :
    (t.step cycles).2 = overflowsWithin (4 * cycles) t := by
  change (ticks (4 * cycles) t).overflowed = _
  rw [ticks_overflowed, taken, Bool.false_or]

theorem write_overflowed (t : Timer) (addr : Word) (value : Byte) :
    (t.write addr value).overflowed =
      (t.overflowed || t.overflowsAt (t.write addr value).signal) := by
  have still : t.overflowsAt t.signal = false := by
    unfold overflowsAt
    cases t.signal <;> rfl
  unfold write
  split
  case h_1 => exact sample_overflowed { t with divider := 0 }
  case h_4 => exact sample_overflowed { t with control := value &&& 0x07 }
  all_goals
    change t.overflowed = (t.overflowed || t.overflowsAt t.signal)
    rw [still, Bool.or_false]

end Overflow

end Timer

end DotMatrix
