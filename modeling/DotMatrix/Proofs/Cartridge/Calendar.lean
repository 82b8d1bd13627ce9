import DotMatrix.Proofs.Cartridge.ClockTicks

/-!
The time on the clock chip. Counters in their ordinary range stand for a number of seconds, and the time
that passes is added to it. When 512 days are full they start again and leave their mark. What a program
reads after a latch is that number and the two flags.
-/

namespace DotMatrix

namespace TickingClock

/-- The seconds after which the days come round. -/
def cycle : Nat := 512 * 86400

/-- The seconds since the days were zero. -/
def total (c : TickingClock) : Nat :=
  ((c.days * 24 + c.hours) * 60 + c.minutes) * 60 + c.seconds

/-- Every counter is at an ordinary count. -/
structure InRange (c : TickingClock) : Prop where
  seconds : c.seconds < 60
  minutes : c.minutes < 60
  hours : c.hours < 24
  days : c.days < 512

section Tick

variable {c : TickingClock}

theorem InRange.total_lt (h : c.InRange) : c.total < cycle := by
  obtain ⟨seconds, minutes, hours, days⟩ := h
  unfold total cycle
  omega

/-- An ordinary count goes on to the next one, and the last one to zero. -/
theorem next_of_le (bits : Nat) {last count : Nat} (h : count ≤ last) (fits : last < 2 ^ bits) :
    next last bits count = if count = last then 0 else count + 1 := by
  unfold next
  split
  · rfl
  · rw [Nat.mod_eq_of_lt (by omega)]

/-- A clock in its range, one second on. -/
theorem tick_of_inRange (h : c.InRange) (running : c.halted = false) :
    c.tick =
      if c.seconds ≠ 59 then { c with seconds := c.seconds + 1 }
      else if c.minutes ≠ 59 then { c with seconds := 0, minutes := c.minutes + 1 }
      else if c.hours ≠ 23 then { c with seconds := 0, minutes := 0, hours := c.hours + 1 }
      else if c.days ≠ 511 then
        { c with seconds := 0, minutes := 0, hours := 0, days := c.days + 1 }
      else ⟨0, 0, 0, 0, false, true⟩ := by
  obtain ⟨seconds, minutes, hours, days⟩ := h
  have second := next_of_le 6 (Nat.le_of_lt_succ seconds) (by decide)
  have minute := next_of_le 6 (Nat.le_of_lt_succ minutes) (by decide)
  have hour := next_of_le 5 (Nat.le_of_lt_succ hours) (by decide)
  have day := next_of_le 9 (Nat.le_of_lt_succ days) (by decide)
  unfold tick
  rw [second, minute, hour, day]
  by_cases hs : c.seconds = 59
  case neg => simp [running, hs]
  by_cases hm : c.minutes = 59
  case neg => simp [running, hs, hm]
  by_cases hh : c.hours = 23
  case neg => simp [running, hs, hm, hh]
  by_cases hd : c.days = 511
  case neg => simp [running, hs, hm, hh, hd]
  simp [running, hs, hm, hh, hd]

/-- What a clock shows some seconds after another one. -/
structure After (start : TickingClock) (seconds : Nat) (c : TickingClock) : Prop where
  inRange : c.InRange
  total : c.total = (start.total + seconds) % cycle
  overflow : c.overflow = true ↔ start.overflow = true ∨ cycle ≤ start.total + seconds
  running : c.halted = false

theorem After.refl (h : c.InRange) (running : c.halted = false) : c.After 0 c where
  inRange := h
  total := (Nat.mod_eq_of_lt h.total_lt).symm
  overflow := (or_iff_left (Nat.not_le.mpr h.total_lt)).symm
  running := running

/-- Within the cycle the number of seconds goes up, and the mark stays as it is. -/
theorem After.of_total {c' : TickingClock} (h : c'.InRange) (total : c'.total = c.total + 1)
    (overflow : c'.overflow = c.overflow) (running : c'.halted = false) : c.After 1 c' where
  inRange := h
  total := by
    rw [← total, Nat.mod_eq_of_lt h.total_lt]
  overflow := by
    have inside := h.total_lt
    rw [total] at inside
    rw [overflow]
    exact (or_iff_left (Nat.not_le.mpr inside)).symm
  running := running

theorem tick_after (h : c.InRange) (running : c.halted = false) : c.After 1 c.tick := by
  obtain ⟨seconds, minutes, hours, days⟩ := id h
  rw [tick_of_inRange h running]
  split
  · refine .of_total ⟨?_, minutes, hours, days⟩ ?_ rfl running <;> simp only [total] <;> omega
  split
  · refine .of_total ⟨?_, ?_, hours, days⟩ ?_ rfl running <;> simp only [total] <;> omega
  split
  · refine .of_total ⟨?_, ?_, ?_, days⟩ ?_ rfl running <;> simp only [total] <;> omega
  split
  · refine .of_total ⟨?_, ?_, ?_, ?_⟩ ?_ rfl running <;> simp only [total] <;> omega
  -- the last second of the last day
  · have full : c.total + 1 = cycle := by
      unfold total cycle
      omega
    refine ⟨⟨by decide, by decide, by decide, by decide⟩, ?_, ?_, rfl⟩
    · rw [full, Nat.mod_self]
      rfl
    · exact ⟨fun _ => Or.inr (Nat.le_of_eq full.symm), fun _ => rfl⟩

/-- Seconds after seconds are the seconds in all. The mark of a cycle that was full before stays. -/
theorem After.trans {start c' : TickingClock} {n m : Nat} (before : start.After n c)
    (after : c.After m c') (h : start.InRange) : start.After (n + m) c' where
  inRange := after.inRange
  total := by
    rw [after.total, before.total, Nat.mod_add_mod, Nat.add_assoc]
  overflow := by
    have inside := h.total_lt
    rw [after.overflow, before.overflow, before.total, or_assoc]
    apply or_congr_right
    by_cases full : cycle ≤ start.total + n
    · have still : cycle ≤ start.total + (n + m) := by omega
      exact iff_of_true (Or.inl full) still
    · rw [Nat.mod_eq_of_lt (Nat.not_le.mp full), or_iff_right full, Nat.add_assoc]
  running := after.running

theorem tick_iterate_after (h : c.InRange) (running : c.halted = false) (seconds : Nat) :
    c.After seconds (tick^[seconds] c) := by
  induction seconds with
  | zero => exact .refl h running
  | succ n ih =>
      rw [Function.iterate_succ_apply']
      exact ih.trans (tick_after ih.inRange ih.running) h

end Tick

/-- The time that the registers of the chip show. The days are in two of them. -/
def ofRegisters (register : Byte → Byte) : TickingClock where
  seconds := (register 0x08).toNat
  minutes := (register 0x09).toNat
  hours := (register 0x0A).toNat
  days := (register 0x0C).toNat % 2 * 0x100 + (register 0x0B).toNat
  halted := (register 0x0C).bit 6
  overflow := (register 0x0C).bit 7

end TickingClock

namespace ClockCounters

/-- The flags and the ninth bit of the days are apart in their register. -/
theorem flagByte_parts (c : ClockCounters) :
    c.flagByte.toNat % 2 = c.days.val / 0x100 ∧ c.flagByte.bit 6 = c.halted ∧
      c.flagByte.bit 7 = c.overflow := by
  have ninth : c.days.val / 0x100 = 0 ∨ c.days.val / 0x100 = 1 := by omega
  unfold flagByte
  rcases ninth with clear | set
  · rw [clear]
    cases c.halted <;> cases c.overflow <;> decide
  · rw [set]
    cases c.halted <;> cases c.overflow <;> decide

/-- The registers show the counters, whatever these are. -/
theorem ofRegisters_read (c : ClockCounters) : TickingClock.ofRegisters c.read = c.ticking := by
  obtain ⟨ninth, halted, overflow⟩ := c.flagByte_parts
  have seconds := c.seconds.isLt
  have minutes := c.minutes.isLt
  have hours := c.hours.isLt
  have byte : ∀ n < 0x100, (UInt8.ofNat n).toNat = n := fun n small => Nat.mod_eq_of_lt small
  have days : c.flagByte.toNat % 2 * 0x100 + (UInt8.ofNat c.days.val).toNat = c.days.val := by
    rw [ninth, UInt8.toNat_ofNat']
    omega
  change TickingClock.mk (UInt8.ofNat c.seconds.val).toNat (UInt8.ofNat c.minutes.val).toNat
    (UInt8.ofNat c.hours.val).toNat
    (c.flagByte.toNat % 2 * 0x100 + (UInt8.ofNat c.days.val).toNat) (c.flagByte.bit 6)
    (c.flagByte.bit 7) = _
  rw [days, halted, overflow, byte _ (by omega), byte _ (by omega), byte _ (by omega)]
  rfl

end ClockCounters

namespace ClockChip

/-- The time that passes is added exactly. Counters in their range that run are, any number of seconds
later, in their range again and that many seconds on, modulo the 512 days that the chip can count; the mark
is set if it was, or if the days have come round; and the counters still run. A latch shows just that in
the registers, for the seconds since the chip was last used. -/
theorem elapsed_exact (chip : ClockChip) (inRange : chip.counters.ticking.InRange)
    (running : chip.counters.halted = false) :
    (∀ seconds, chip.counters.ticking.After seconds (chip.counters.advance seconds).ticking) ∧
    ∀ now : UInt64,
      chip.counters.ticking.After (now.toNat - chip.syncedAt.toNat)
        (.ofRegisters (chip.latch now).read) := by
  constructor
  · intro seconds
    rw [ClockCounters.advance_ticking running]
    exact TickingClock.tick_iterate_after inRange running seconds
  · intro now
    have shown : TickingClock.ofRegisters (chip.latch now).read = (chip.sync now).counters.ticking :=
      (chip.sync now).counters.ofRegisters_read
    rw [shown, chip.sync_ticking]
    exact TickingClock.tick_iterate_after inRange running _

/-- A chip whose registers are set to two seconds before the end of its last day. -/
def lateChip : ClockChip :=
  { start 100 with
    counters := [(0x08, 58), (0x09, 59), (0x0A, 23), (0x0B, 0xFF), (0x0C, 0x01)].foldl
      (fun counters (register, value) => counters.write register value) .zero }

/-- The days come round once within two seconds, and many times until the wall time ends. -/
theorem elapsed_exact_late :
    lateChip.counters.ticking.InRange ∧ lateChip.counters.halted = false ∧
      (lateChip.counters.advance 2).ticking.total = 0 ∧
      (lateChip.counters.advance 2).overflow = true ∧
      (TickingClock.ofRegisters (lateChip.latch 0xFFFFFFFFFFFFFFFF).read).total = 11861913 := by
  have inRange : lateChip.counters.ticking.InRange :=
    ⟨by decide, by decide, by decide, by decide⟩
  obtain ⟨advanced, latched⟩ := elapsed_exact lateChip inRange rfl
  refine ⟨inRange, rfl, (advanced 2).total, ?_, ?_⟩
  · exact (advanced 2).overflow.mpr (Or.inr (by decide))
  · exact (latched _).total.trans (by decide)

end ClockChip

end DotMatrix
