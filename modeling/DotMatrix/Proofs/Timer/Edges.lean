import DotMatrix.Proofs.Timer

/-!
The counter in closed form. The selected bit of the divider falls once in every period, so in any
number of ticks the counter counts the multiples of the period that the divider passes; and from its
first overflow on it goes round between the modulo and the top. A write to the divider or to the control
register counts as one more fall if it takes the signal from high to low.
-/

namespace DotMatrix

namespace Timer

/-- What a counter shows that has come to a sum: past the top it goes round from the modulo on. -/
def shown (modulo sum : Nat) : Nat :=
  if sum < 256 then sum else modulo + (sum - 256) % (256 - modulo)

section Shown

variable {modulo sum : Nat}

theorem shown_of_lt (within : sum < 256) : shown modulo sum = sum := if_pos within

theorem shown_of_le (near : sum ≤ 256) :
    shown modulo sum = if sum < 256 then sum else modulo := by
  have first : sum - 256 = 0 := by omega
  rw [shown, first, Nat.zero_mod, Nat.add_zero]

theorem shown_lt (valid : modulo < 256) (sum : Nat) : shown modulo sum < 256 := by
  unfold shown
  split
  · assumption
  · have := Nat.mod_lt (sum - 256) (show 0 < 256 - modulo by omega)
    omega

/-- After the top comes the modulo. -/
theorem shown_succ (valid : modulo < 256) (sum : Nat) :
    shown modulo (sum + 1) = if shown modulo sum = 255 then modulo else shown modulo sum + 1 := by
  rcases Nat.lt_trichotomy sum 255 with below | top | past
  · rw [shown_of_lt (show sum + 1 < 256 by omega), shown_of_lt (show sum < 256 by omega),
      if_neg (by omega)]
  · subst top
    simp [shown]
  · have later : sum + 1 - 256 = sum - 256 + 1 := by omega
    rw [shown, shown, if_neg (show ¬ sum + 1 < 256 by omega),
      if_neg (show ¬ sum < 256 by omega), later, ← Nat.mod_add_mod]
    have inside := Nat.mod_lt (sum - 256) (show 0 < 256 - modulo by omega)
    rcases Nat.lt_or_ge ((sum - 256) % (256 - modulo) + 1) (256 - modulo) with further | around
    · rw [Nat.mod_eq_of_lt further, if_neg (by omega), Nat.add_assoc]
    · have last : (sum - 256) % (256 - modulo) + 1 = 256 - modulo := by omega
      rw [last, Nat.mod_self, if_pos (by omega), Nat.add_zero]

end Shown

/-- The timer after a number of counts. -/
def counted (t : Timer) (counts : Nat) : Timer :=
  { t with
    counter := UInt8.ofNat (shown t.modulo.toNat (t.counter.toNat + counts))
    overflowed := t.overflowed || decide (256 ≤ t.counter.toNat + counts) }

section Counting

variable (t : Timer)

theorem counted_counter (counts : Nat) :
    (t.counted counts).counter.toNat = shown t.modulo.toNat (t.counter.toNat + counts) :=
  UInt8.toNat_ofNat_of_lt (shown_lt t.modulo.toNat_lt _)

theorem counted_zero : t.counted 0 = t := by
  have within := t.counter.toNat_lt
  have early : ¬ 256 ≤ t.counter.toNat := by omega
  simp only [counted, Nat.add_zero, shown_of_lt within, UInt8.ofNat_toNat, early, decide_false,
    Bool.or_false]

theorem count_counted (counts : Nat) : (t.counted counts).count = t.counted (counts + 1) := by
  have full : (t.counted counts).counter = 0xFF ↔
      shown t.modulo.toNat (t.counter.toNat + counts) = 255 := by
    rw [← UInt8.toNat_inj, counted_counter]
    rfl
  have next := shown_succ t.modulo.toNat_lt (t.counter.toNat + counts)
  by_cases top : shown t.modulo.toNat (t.counter.toNat + counts) = 255
  · have wraps : 256 ≤ t.counter.toNat + (counts + 1) := by
      unfold shown at top
      split at top <;> omega
    rw [if_pos top] at next
    rw [count, if_pos (full.mpr top)]
    rw [counted, counted, decide_eq_true wraps, Bool.or_true, ← Nat.add_assoc, next, UInt8.ofNat_toNat]
  · have same : (256 ≤ t.counter.toNat + counts) = (256 ≤ t.counter.toNat + (counts + 1)) := by
      have early : t.counter.toNat + counts ≠ 255 := by
        rintro last
        rw [last] at top
        exact top rfl
      exact propext (by omega)
    rw [if_neg top] at next
    rw [count, if_neg (mt full.mp top)]
    simp only [counted, same, ← Nat.add_assoc, next, UInt8.ofNat_add]
    rfl

theorem counted_add (counts more : Nat) :
    (t.counted counts).counted more = t.counted (counts + more) := by
  induction more with
  | zero => exact counted_zero _
  | succ more ih => rw [← count_counted, ih, count_counted, Nat.add_assoc]

/-- Looking at the signal counts its fall, if it has fallen. -/
theorem sample_counted :
    t.sample =
      { t.counted (if t.signal && !signalOf t.divider t.control then 1 else 0) with
        signal := signalOf t.divider t.control } := by
  have counts (fallen : Bool) :
      (if fallen then t.count else t) = t.counted (if fallen then 1 else 0) := by
    cases fallen with
    | false => exact t.counted_zero.symm
    | true =>
        have once := t.count_counted 0
        rwa [counted_zero] at once
  rw [← counts]
  rfl

end Counting

/-- The ticks from one fall of the selected bit to the next. -/
def period (control : Byte) : Nat :=
  match control.toNat % 4 with
  | 0 => 1024
  | 1 => 16
  | 2 => 64
  | _ => 256

/-- How often the signal falls while the divider goes on for a number of ticks. -/
def falls (t : Timer) (n : Nat) : Nat :=
  if t.control.bit 2 then
    (t.divider.toNat + n) / period t.control - t.divider.toNat / period t.control
  else 0

section Falling

theorem selectedBit_cases (control : Byte) :
    (selectedBit control = 9 ∧ period control = 1024) ∨
    (selectedBit control = 3 ∧ period control = 16) ∨
    (selectedBit control = 5 ∧ period control = 64) ∨
    (selectedBit control = 7 ∧ period control = 256) := by
  have code : control.toNat % 4 = 0 ∨ control.toNat % 4 = 1 ∨ control.toNat % 4 = 2 ∨
      control.toNat % 4 = 3 := by omega
  rcases code with code | code | code | code <;> simp [selectedBit, period, code]

/-- The selected bit falls where the divider comes to a multiple of the period. -/
theorem selectedBit_falls (divider : Word) (control : Byte) :
    (divider.toNat.testBit (selectedBit control) &&
        !(divider + 1).toNat.testBit (selectedBit control)) =
      decide (period control ∣ divider.toNat + 1) := by
  have small := divider.toNat_lt
  rw [UInt16.toNat_add, UInt16.toNat_one, Bool.eq_iff_iff]
  simp only [Nat.testBit_eq_decide_div_mod_eq, Bool.and_eq_true, Bool.not_eq_true',
    decide_eq_true_eq, decide_eq_false_iff_not]
  rcases selectedBit_cases control with ⟨bit, period⟩ | ⟨bit, period⟩ | ⟨bit, period⟩ | ⟨bit, period⟩
  all_goals
    rw [bit, period]
    omega

theorem signalOf_falls (divider : Word) (control : Byte) :
    (signalOf divider control && !signalOf (divider + 1) control) =
      (control.bit 2 && decide (period control ∣ divider.toNat + 1)) := by
  rw [← selectedBit_falls, signalOf, signalOf]
  cases control.bit 2 <;> rfl

/-- One more tick is one more fall exactly if the divider comes to a multiple of the period. -/
theorem falls_succ (t : Timer) (n : Nat) :
    t.falls (n + 1) =
      t.falls n +
        if t.control.bit 2 && decide (period t.control ∣ t.divider.toNat + n + 1) then 1 else 0 := by
  have grows : t.divider.toNat / period t.control ≤ (t.divider.toNat + n) / period t.control :=
    Nat.div_le_div_right (by omega)
  unfold falls
  cases t.control.bit 2 with
  | false => rfl
  | true =>
      simp only [if_true, Bool.true_and, decide_eq_true_eq, ← Nat.add_assoc, Nat.succ_div]
      omega

end Falling

/-- Has the signal not moved since it was last looked at? -/
def Settled (t : Timer) : Prop :=
  t.signal = signalOf t.divider t.control

/-- The timer after a number of ticks, from its divider alone. -/
def ran (t : Timer) (n : Nat) : Timer :=
  { t.counted (t.falls n) with
    divider := t.divider + UInt16.ofNat n
    signal := signalOf (t.divider + UInt16.ofNat n) t.control }

section Running

theorem ticks_succ (n : Nat) (t : Timer) : ticks (n + 1) t = (ticks n t).tick := by
  induction n generalizing t with
  | zero => rfl
  | succ n ih => rw [ticks, ih, ticks]

variable {t : Timer}

theorem ran_zero (settled : t.Settled) : t.ran 0 = t := by
  have none : t.falls 0 = 0 := by
    unfold falls
    split
    · rw [Nat.add_zero, Nat.sub_self]
    · rfl
  have here : t.divider + UInt16.ofNat 0 = t.divider := UInt16.add_zero _
  rw [ran, none, counted_zero, here, ← settled]

theorem ran_tick (t : Timer) (n : Nat) : (t.ran n).tick = t.ran (n + 1) := by
  have next : t.divider + UInt16.ofNat n + 1 = t.divider + UInt16.ofNat (n + 1) := by
    rw [UInt16.ofNat_add, ← UInt16.add_assoc]
    rfl
  -- every period divides the size of the divider
  have multiple : period t.control ∣ (t.divider + UInt16.ofNat n).toNat + 1 ↔
      period t.control ∣ t.divider.toNat + n + 1 := by
    rw [UInt16.toNat_add, UInt16.toNat_ofNat']
    rcases selectedBit_cases t.control with ⟨-, size⟩ | ⟨-, size⟩ | ⟨-, size⟩ | ⟨-, size⟩
    all_goals
      rw [size]
      omega
  have falling : (signalOf (t.divider + UInt16.ofNat n) t.control &&
      !signalOf (t.divider + UInt16.ofNat (n + 1)) t.control) =
        (t.control.bit 2 && decide (period t.control ∣ t.divider.toNat + n + 1)) := by
    rw [← next, signalOf_falls, decide_eq_decide.mpr multiple]
  rw [tick, sample_counted]
  change
    { (t.counted (t.falls n)).counted
        (if signalOf (t.divider + UInt16.ofNat n) t.control &&
          !signalOf (t.divider + UInt16.ofNat n + 1) t.control then 1 else 0) with
      divider := t.divider + UInt16.ofNat n + 1
      signal := signalOf (t.divider + UInt16.ofNat n + 1) t.control } = _
  rw [next, falling, counted_add, ← falls_succ, ran]

/-- The ticks of a timer, all at once. -/
theorem ticks_eq_ran (settled : t.Settled) (n : Nat) : ticks n t = t.ran n := by
  induction n with
  | zero => exact (ran_zero settled).symm
  | succ n ih => rw [ticks_succ, ih, ran_tick]

/-- A run of a timer that has no overflow to report. -/
theorem step_ran (settled : t.Settled) (taken : t.overflowed = false) (cycles : Nat) :
    t.step cycles =
      ({ t.ran (4 * cycles) with overflowed := false },
        decide (256 ≤ t.counter.toNat + t.falls (4 * cycles))) := by
  have reported : (t.ran (4 * cycles)).overflowed =
      decide (256 ≤ t.counter.toNat + t.falls (4 * cycles)) := by
    simp only [ran, counted, taken, Bool.false_or]
  rw [step, ticks_eq_ran settled, takeOverflow, reported]

theorem ran_divider (t : Timer) (n : Nat) :
    (t.ran n).divider.toNat = (t.divider.toNat + n) % 65536 := by
  simp only [ran, UInt16.toNat_add, UInt16.toNat_ofNat']
  omega

end Running

section Writing

variable (t : Timer)

/-- A write to the divider or to the control register counts if it makes the signal fall. -/
theorem write_counted {addr : Word} (written : addr = 0xFF04 ∨ addr = 0xFF07) (value : Byte) :
    t.write addr value =
      { t.counted (if t.signal && !(t.write addr value).signal then 1 else 0) with
        divider := if addr = 0xFF04 then 0 else t.divider
        control := if addr = 0xFF04 then t.control else value &&& 0x07
        signal := (t.write addr value).signal } := by
  rcases written with rfl | rfl
  · exact sample_counted { t with divider := 0 }
  · exact sample_counted { t with control := value &&& 0x07 }

theorem sample_settled : t.sample.Settled := by
  rw [sample_counted]
  rfl

theorem write_settled {t : Timer} (settled : t.Settled) (addr : Word) (value : Byte) :
    (t.write addr value).Settled := by
  unfold write
  split
  case h_1 => exact sample_settled { t with divider := 0 }
  case h_4 => exact sample_settled { t with control := value &&& 0x07 }
  all_goals exact settled

end Writing

/-- The timers that runs, writes and resets lead to. -/
inductive Reachable : Timer → Prop where
  | reset : Reachable .initial
  | step {t : Timer} (before : Reachable t) (cycles : Nat) : Reachable (t.step cycles).1
  | write {t : Timer} (before : Reachable t) (addr : Word) (value : Byte) :
      Reachable (t.write addr value)
  | take {t : Timer} (before : Reachable t) : Reachable t.takeOverflow.1

theorem Reachable.settled {t : Timer} (h : t.Reachable) : t.Settled := by
  induction h with
  | reset => rfl
  | @step t before cycles ih =>
      change (ticks (4 * cycles) t).Settled
      rw [ticks_eq_ran ih]
      rfl
  | write before addr value ih => exact write_settled ih addr value
  | take before ih => exact ih

/-- The counter in closed form. A timer always remembers its signal as it is. A run of any number of
cycles counts the multiples of the period that the divider passes, if the timer is enabled, and reports
an overflow if the counts go past the top. A write to the divider or to the control register is one
count if the signal was high before it and is low after it, and none otherwise. -/
theorem counter_closed {t : Timer} (h : t.Reachable) :
    t.signal = (t.control.bit 2 && t.divider.toNat.testBit (selectedBit t.control)) ∧
    (t.overflowed = false → ∀ cycles,
      let reached := t.divider.toNat + 4 * cycles
      let counts :=
        if t.control.bit 2 then reached / period t.control - t.divider.toNat / period t.control else 0
      let sum := t.counter.toNat + counts
      let after := (t.step cycles).1
      after.divider.toNat = reached % 65536 ∧
      after.counter.toNat =
        (if sum < 256 then sum else t.modulo.toNat + (sum - 256) % (256 - t.modulo.toNat)) ∧
      (t.step cycles).2 = decide (256 ≤ sum) ∧
      after.modulo = t.modulo ∧ after.control = t.control ∧ after.overflowed = false) ∧
    ∀ addr value, addr = 0xFF04 ∨ addr = 0xFF07 →
      let after := t.write addr value
      let counts := if t.signal && !after.signal then 1 else 0
      let sum := t.counter.toNat + counts
      after.divider = (if addr = 0xFF04 then 0 else t.divider) ∧
      after.control = (if addr = 0xFF04 then t.control else value &&& 0x07) ∧
      after.signal = (after.control.bit 2 && after.divider.toNat.testBit (selectedBit after.control)) ∧
      after.counter.toNat = (if sum < 256 then sum else t.modulo.toNat) ∧
      after.overflowed = (t.overflowed || decide (256 ≤ sum)) ∧
      after.modulo = t.modulo := by
  refine ⟨h.settled, ?_, ?_⟩
  · intro taken cycles
    dsimp only
    rw [step_ran h.settled taken cycles]
    exact ⟨ran_divider t _, counted_counter t _, rfl, rfl, rfl, rfl⟩
  · intro addr value written
    have counted := t.write_counted written value
    have near (fallen : Bool) : t.counter.toNat + (if fallen then 1 else 0) ≤ 256 := by
      have := t.counter.toNat_lt
      cases fallen <;> simp only [Bool.false_eq_true, if_true, if_false] <;> omega
    have counter := (congrArg (fun after => after.counter.toNat) counted).trans (t.counted_counter _)
    rw [shown_of_le (near _)] at counter
    exact ⟨congrArg Timer.divider counted, congrArg Timer.control counted,
      write_settled h.settled addr value, counter, congrArg Timer.overflowed counted,
      (congrArg Timer.modulo counted :)⟩

/-- A timer that counts every sixteenth tick and goes round in three counts. -/
def brisk : Timer :=
  ((initial.write 0xFF06 0xFD).write 0xFF05 0xF0).write 0xFF07 0x05

theorem counter_closed_brisk :
    brisk.Reachable ∧ brisk.overflowed = false ∧
      (brisk.step 16390).1.counter = 0xFE ∧ (brisk.step 16390).2 = true ∧
      (brisk.step 16390).1.signal = true ∧
      ((brisk.step 16390).1.write 0xFF04 0x00).counter = 0xFF := by
  have reachable : brisk.Reachable := (((Reachable.reset.write _ _).write _ _).write _ _)
  have taken : brisk.overflowed = false := rfl
  obtain ⟨divider, counter, reported, modulo, control, -⟩ := (counter_closed reachable).2.1 taken 16390
  have counter : (brisk.step 16390).1.counter.toNat = 0xFE := counter.trans (by decide +kernel)
  have divider : (brisk.step 16390).1.divider.toNat = 24 := divider.trans (by decide +kernel)
  have reported : (brisk.step 16390).2 = true := reported.trans (by decide +kernel)
  obtain ⟨signal, -, written⟩ := counter_closed (reachable.step 16390)
  have signal : (brisk.step 16390).1.signal = true := by
    rw [signal, control, divider]
    decide
  obtain ⟨cleared, -, low, bumped, -⟩ := written 0xFF04 0x00 (Or.inl rfl)
  have low : ((brisk.step 16390).1.write 0xFF04 0x00).signal = false := by
    rw [low, cleared]
    exact Bool.and_eq_false_imp.mpr fun _ => Nat.zero_testBit _
  rw [low, signal, counter] at bumped
  refine ⟨reachable, taken, UInt8.toNat_inj.mp counter, reported, signal, UInt8.toNat_inj.mp bumped⟩

end Timer

end DotMatrix
