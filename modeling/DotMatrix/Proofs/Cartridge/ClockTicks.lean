import Mathlib.Algebra.Group.Nat.Defs
import Mathlib.Logic.Function.Iterate
import DotMatrix.Cartridge.Clock

/-!
The clock chip against one that ticks. The chip of a cartridge lets time pass only when it is used, a
minute at a time; the one it is compared with counts every second at its second. Whatever is done to the
two, at whatever times, as long as the wall time does not go back, they show the same counters.
-/

namespace DotMatrix

/-- The counters of a chip that counts every second, and its two flags. -/
structure TickingClock where
  seconds : Nat
  minutes : Nat
  hours : Nat
  days : Nat
  halted : Bool
  overflow : Bool
  deriving DecidableEq, Repr

namespace TickingClock

def zero : TickingClock := ⟨0, 0, 0, 0, false, false⟩

/-- The next count of a counter of some bits. After its last ordinary count it is at zero; past that, it
goes on to the end of its bits. -/
def next (last bits count : Nat) : Nat :=
  if count = last then 0 else (count + 1) % 2 ^ bits

/-- One second passes. A counter ticks when the one before it comes to its last ordinary count, and not
when that comes to the end of its bits. -/
def tick (c : TickingClock) : TickingClock :=
  let minute := c.seconds = 59
  let hour := minute ∧ c.minutes = 59
  let day := hour ∧ c.hours = 23
  if c.halted then c
  else
    { c with
      seconds := next 59 6 c.seconds
      minutes := if minute then next 59 6 c.minutes else c.minutes
      hours := if hour then next 23 5 c.hours else c.hours
      days := if day then next 511 9 c.days else c.days
      overflow := c.overflow || decide (day ∧ c.days = 511) }

/-- Sets a register, each to the bits it has. The days are in two registers. -/
def write (c : TickingClock) (register value : Byte) : TickingClock :=
  match register.toNat with
  | 0x08 => { c with seconds := value.toNat % 2 ^ 6 }
  | 0x09 => { c with minutes := value.toNat % 2 ^ 6 }
  | 0x0A => { c with hours := value.toNat % 2 ^ 5 }
  | 0x0B => { c with days := c.days / 0x100 * 0x100 + value.toNat }
  | 0x0C =>
    { c with
      days := value.toNat % 2 * 0x100 + c.days % 0x100
      halted := value.bit 6
      overflow := value.bit 7 }
  | _ => c

theorem tick_iterate_halted {c : TickingClock} (halted : c.halted = true) (n : Nat) :
    tick^[n] c = c := by
  apply Function.iterate_fixed
  exact if_pos halted

end TickingClock

namespace ClockCounters

/-- The counters as numbers. -/
def ticking (c : ClockCounters) : TickingClock :=
  ⟨c.seconds.val, c.minutes.val, c.hours.val, c.days.val, c.halted, c.overflow⟩

theorem write_ticking (c : ClockCounters) (register value : Byte) :
    (c.write register value).ticking = c.ticking.write register value := by
  have days := c.days.isLt
  have byte := value.toNat_lt
  unfold write TickingClock.write
  generalize register.toNat = r
  split
  case h_4 =>
    have fits : c.days.val / 0x100 * 0x100 + value.toNat < 512 := by omega
    simp only [ticking, Fin.ofNat, Nat.mod_eq_of_lt fits]
  case h_5 =>
    have fits : c.days.val % 0x100 + value.toNat % 2 * 0x100 < 512 := by omega
    simp only [ticking, Fin.ofNat, Nat.mod_eq_of_lt fits, Nat.add_comm]
  case h_6 => simp_all
  all_goals rfl

section Advance

variable {c : ClockCounters}

theorem dayTick_halted (c : ClockCounters) : c.dayTick.halted = c.halted := by
  unfold dayTick
  split <;> rfl

theorem minuteTick_halted (c : ClockCounters) : c.minuteTick.halted = c.halted := by
  unfold minuteTick hourTick
  split
  · split
    · exact dayTick_halted _
    · rfl
  · rfl

/-- A second that does not complete the minute is only counted. -/
theorem tick_count (running : c.halted = false) {count : Nat} (inside : count % 64 ≠ 59) :
    ({ c with seconds := Fin.ofNat 64 count } : ClockCounters).ticking.tick =
      ({ c with seconds := Fin.ofNat 64 (count + 1) } : ClockCounters).ticking := by
  have counted : (count % 64 + 1) % 64 = (count + 1) % 64 := by omega
  simp [ticking, TickingClock.tick, TickingClock.next, running, inside, counted]

/-- The second that completes the minute lets the minutes tick. -/
theorem tick_carry (running : c.halted = false) :
    ({ c with seconds := 59 } : ClockCounters).ticking.tick =
      ({ c with seconds := 0 } : ClockCounters).minuteTick.ticking := by
  have minutes : c.minutes = 59 ↔ c.minutes.val = 59 := Fin.ext_iff
  have hours : c.hours = 23 ↔ c.hours.val = 23 := Fin.ext_iff
  have days : c.days = 511 ↔ c.days.val = 511 := Fin.ext_iff
  have second : ((59 : Fin 64) : Nat) = 59 := rfl
  simp only [minuteTick, hourTick, dayTick, TickingClock.tick, TickingClock.next, ticking, minutes,
    hours, days, second, running]
  by_cases hour : c.minutes.val = 59
  case neg => simp [hour, Fin.val_add]
  by_cases day : c.hours.val = 23
  case neg => simp [hour, day, Fin.val_add]
  by_cases around : c.days.val = 511
  case neg => simp [hour, day, around, Fin.val_add]
  simp [hour, day, around]

/-- Before the minute is complete, only the seconds count. -/
theorem tick_iterate_count (running : c.halted = false) {n : Nat} (inside : n < c.untilMinute) :
    TickingClock.tick^[n] c.ticking =
      ({ c with seconds := Fin.ofNat 64 (c.seconds.val + n) } : ClockCounters).ticking := by
  have range := c.seconds.isLt
  induction n with
  | zero =>
      simp [ticking]
  | succ n ih =>
      have before : (c.seconds.val + n) % 64 ≠ 59 := by
        unfold untilMinute at inside
        split at inside <;> omega
      rw [Function.iterate_succ_apply', ih (by omega)]
      exact tick_count running before

theorem tick_iterate_minute (running : c.halted = false) :
    TickingClock.tick^[c.untilMinute] c.ticking =
      ({ c with seconds := 0 } : ClockCounters).minuteTick.ticking := by
  have range := c.seconds.isLt
  have pos := c.untilMinute_pos
  have last : Fin.ofNat 64 (c.seconds.val + (c.untilMinute - 1)) = 59 := by
    apply Fin.ext
    unfold untilMinute
    simp only [Fin.ofNat]
    split <;> omega
  obtain ⟨n, hn⟩ : ∃ n, c.untilMinute = n + 1 := ⟨c.untilMinute - 1, by omega⟩
  rw [hn, Nat.add_sub_cancel] at last
  rw [hn, Function.iterate_succ_apply', tick_iterate_count running (by omega), last]
  exact tick_carry running

/-- The seconds that pass at once are counted as if they passed one by one. -/
theorem advance_ticking (running : c.halted = false) (elapsed : Nat) :
    (c.advance elapsed).ticking = TickingClock.tick^[elapsed] c.ticking := by
  induction elapsed using Nat.strongRecOn generalizing c with
  | ind elapsed ih =>
      rw [advance]
      split
      · next inside => exact (tick_iterate_count running inside).symm
      · next enough =>
          have pos := c.untilMinute_pos
          have running' : ({ c with seconds := 0 } : ClockCounters).minuteTick.halted = false :=
            (minuteTick_halted _).trans running
          have rest := ih (elapsed - c.untilMinute) (by omega) running'
          rw [rest, ← tick_iterate_minute running, ← Function.iterate_add_apply]
          congr 2
          omega

end Advance

end ClockCounters

/-- What happens to a clock chip. -/
inductive ClockEvent where
  /-- The wall time is this from now on. -/
  | time (now : UInt64)
  | latch
  | write (register value : Byte)
  | reset
  deriving DecidableEq, Repr

namespace ClockEvent

/-- The wall times that are seen, in their order. -/
def readings (events : List ClockEvent) : List UInt64 :=
  events.filterMap fun
    | time now => some now
    | _ => none

end ClockEvent

/-- A clock chip at a wall time. -/
structure TimedChip where
  chip : ClockChip
  now : UInt64

namespace TimedChip

def apply (c : TimedChip) : ClockEvent → TimedChip
  | .time now => { c with now := now }
  | .latch => { c with chip := c.chip.latch c.now }
  | .write register value => { c with chip := c.chip.write c.now register value }
  | .reset => { c with chip := c.chip.reset c.now }

/-- A chip that has just been brought up to date, after some events. -/
def run (chip : ClockChip) (events : List ClockEvent) : TimedChip :=
  events.foldl apply ⟨chip, chip.syncedAt⟩

/-- The counters at the wall time. -/
def live (c : TimedChip) : ClockCounters :=
  (c.chip.sync c.now).counters

end TimedChip

/-- A clock that ticks, at a wall time. -/
structure TimedClock where
  clock : TickingClock
  now : UInt64

namespace TimedClock

def apply (c : TimedClock) : ClockEvent → TimedClock
  | .time now => ⟨TickingClock.tick^[now.toNat - c.now.toNat] c.clock, now⟩
  | .latch => c
  | .write register value => { c with clock := c.clock.write register value }
  | .reset => { c with clock := .zero }

/-- A clock with the counters of a chip that has just been brought up to date, after some events. -/
def run (chip : ClockChip) (events : List ClockEvent) : TimedClock :=
  events.foldl apply ⟨chip.counters.ticking, chip.syncedAt⟩

end TimedClock

namespace ClockChip

/-- Bringing the counters up to date lets every second since the last time tick. -/
theorem sync_ticking (chip : ClockChip) (now : UInt64) :
    (chip.sync now).counters.ticking =
      TickingClock.tick^[now.toNat - chip.syncedAt.toNat] chip.counters.ticking := by
  unfold sync
  cases halted : chip.counters.halted with
  | true => exact (TickingClock.tick_iterate_halted halted _).symm
  | false => exact ClockCounters.advance_ticking halted _

end ClockChip

namespace TimedChip

/-- The clock is where the chip will be when it is brought up to date. -/
structure Tracks (lazy : TimedChip) (eager : TimedClock) : Prop where
  now : eager.now = lazy.now
  synced : lazy.chip.syncedAt ≤ lazy.now
  clock : eager.clock =
    TickingClock.tick^[lazy.now.toNat - lazy.chip.syncedAt.toNat] lazy.chip.counters.ticking

section Tracks

variable {lazy : TimedChip} {eager : TimedClock}

theorem Tracks.live_eq (h : lazy.Tracks eager) : lazy.live.ticking = eager.clock := by
  rw [h.clock]
  exact lazy.chip.sync_ticking lazy.now

/-- A chip that is up to date is where the clock is. -/
theorem Tracks.counters_eq (h : lazy.Tracks eager) (synced : lazy.chip.syncedAt = lazy.now) :
    lazy.chip.counters.ticking = eager.clock := by
  rw [h.clock, synced, Nat.sub_self]
  rfl

theorem Tracks.of_synced {chip : ClockChip} {clock : TickingClock} {now : UInt64}
    (synced : chip.syncedAt = now) (same : chip.counters.ticking = clock) :
    Tracks ⟨chip, now⟩ ⟨clock, now⟩ := by
  subst synced
  refine ⟨rfl, UInt64.le_refl _, ?_⟩
  rw [Nat.sub_self, same]
  rfl

/-- Everything but time that passes brings the chip up to date. -/
theorem apply_syncedAt (lazy : TimedChip) {event : ClockEvent} (still : ∀ now, event ≠ .time now) :
    (lazy.apply event).chip.syncedAt = (lazy.apply event).now := by
  cases event with
  | time now => exact absurd rfl (still now)
  | latch | write | reset => rfl

theorem Tracks.apply (h : lazy.Tracks eager) {event : ClockEvent}
    (forward : ∀ now, event = .time now → lazy.now ≤ now) :
    (lazy.apply event).Tracks (eager.apply event) := by
  obtain ⟨clock, now⟩ := eager
  obtain rfl : now = lazy.now := h.now
  cases event with
  | time later =>
      have onwards := forward later rfl
      refine ⟨rfl, UInt64.le_trans h.synced onwards, ?_⟩
      -- the seconds up to now and those from now on are the seconds in all
      have before := UInt64.le_iff_toNat_le.mp h.synced
      have after := UInt64.le_iff_toNat_le.mp onwards
      have seconds : later.toNat - lazy.chip.syncedAt.toNat =
          later.toNat - lazy.now.toNat + (lazy.now.toNat - lazy.chip.syncedAt.toNat) := by
        omega
      change TickingClock.tick^[later.toNat - lazy.now.toNat] clock =
        TickingClock.tick^[later.toNat - lazy.chip.syncedAt.toNat] lazy.chip.counters.ticking
      rw [seconds, Function.iterate_add_apply, ← h.clock]
  | latch => exact .of_synced rfl h.live_eq
  | write register value =>
      apply Tracks.of_synced rfl
      change (lazy.live.write register value).ticking = clock.write register value
      rw [ClockCounters.write_ticking, h.live_eq]
  | reset => exact .of_synced rfl rfl

theorem Tracks.foldl (h : lazy.Tracks eager) {events : List ClockEvent}
    (forward : (lazy.now :: ClockEvent.readings events).Pairwise (· ≤ ·)) :
    (events.foldl TimedChip.apply lazy).Tracks (events.foldl TimedClock.apply eager) := by
  induction events generalizing lazy eager with
  | nil => exact h
  | cons event rest ih =>
      cases event with
      | time now =>
          obtain ⟨least, onwards⟩ := List.pairwise_cons.mp forward
          have next : ∀ later, ClockEvent.time now = .time later → lazy.now ≤ later := by
            rintro later ⟨⟩
            exact least now List.mem_cons_self
          exact ih (h.apply next) onwards
      | latch | write | reset => exact ih (h.apply (by rintro _ ⟨⟩)) forward

end Tracks

theorem run_tracks (chip : ClockChip) {events : List ClockEvent}
    (forward : (chip.syncedAt :: ClockEvent.readings events).Pairwise (· ≤ ·)) :
    (run chip events).Tracks (TimedClock.run chip events) :=
  Tracks.foldl (Tracks.of_synced rfl rfl) forward

end TimedChip

namespace ClockCounters

theorem ticking_injective : Function.Injective ticking := by
  rintro ⟨seconds, minutes, hours, days, halted, overflow⟩ ⟨_, _, _, _, _, _⟩ same
  injection same with hs hm hh hd hhalt hover
  cases Fin.ext hs
  cases Fin.ext hm
  cases Fin.ext hh
  cases Fin.ext hd
  cases hhalt
  cases hover
  rfl

end ClockCounters

namespace TimedClock

/-- A latch does nothing to a clock that ticks. -/
theorem run_filter (chip : ClockChip) (events : List ClockEvent) :
    run chip (events.filter (· != .latch)) = run chip events := by
  unfold run
  generalize (⟨chip.counters.ticking, chip.syncedAt⟩ : TimedClock) = start
  induction events generalizing start with
  | nil => rfl
  | cons event rest ih =>
      cases event with
      | latch => exact ih start
      | time | write | reset => exact ih _

end TimedClock

namespace ClockEvent

theorem readings_filter (events : List ClockEvent) :
    readings (events.filter (· != .latch)) = readings events := by
  induction events with
  | nil => rfl
  | cons event rest ih =>
      cases event with
      | latch => exact ih
      | write | reset => exact ih
      | time now => exact congrArg (now :: ·) ih

end ClockEvent

namespace TimedChip

/-- If the wall time does not go back, the counters of a chip are those of a clock that ticks every
second: as they are read off at any time, and as they are stored after a latch, a write or a reset. It
makes no difference how often they are latched. -/
theorem run_ticks (chip : ClockChip) {events : List ClockEvent}
    (forward : (chip.syncedAt :: ClockEvent.readings events).Pairwise (· ≤ ·)) :
    (run chip events).live.ticking = (TimedClock.run chip events).clock ∧
    ((∀ now, events.getLast? ≠ some (.time now)) →
      (run chip events).chip.counters.ticking = (TimedClock.run chip events).clock) ∧
    ∀ others : List ClockEvent, others.filter (· != .latch) = events.filter (· != .latch) →
      (run chip others).live = (run chip events).live := by
  have tracks := run_tracks chip forward
  refine ⟨tracks.live_eq, ?_, ?_⟩
  · intro still
    apply tracks.counters_eq
    rcases List.eq_nil_or_concat events with rfl | ⟨before, event, rfl⟩
    · rfl
    · rw [List.concat_eq_append] at still ⊢
      rw [run, List.foldl_append, List.foldl_cons, List.foldl_nil]
      apply apply_syncedAt
      rintro now rfl
      exact still now (by simp)
  · intro others same
    have forward' : (chip.syncedAt :: ClockEvent.readings others).Pairwise (· ≤ ·) := by
      rw [← ClockEvent.readings_filter others, same, ClockEvent.readings_filter]
      exact forward
    apply ClockCounters.ticking_injective
    rw [(run_tracks chip forward').live_eq, tracks.live_eq, ← TimedClock.run_filter chip others,
      same, TimedClock.run_filter]

/-- The counters are set close before the days overflow, with seconds out of their range; they are
halted for a while, and once latched. -/
def rollover : List ClockEvent :=
  [.write 0x0C 0x01, .write 0x0B 0xFF, .write 0x0A 23, .write 0x09 59, .write 0x08 61, .time 55,
    .write 0x0C 0x41, .time 90, .write 0x0C 0x01, .time 120, .latch, .time 153]

/-- 61 seconds wrap to zero without a carry, so the minute is complete only 63 seconds later. -/
theorem run_ticks_rollover :
    ((ClockChip.start 50).syncedAt :: ClockEvent.readings rollover).Pairwise (· ≤ ·) ∧
      (run (.start 50) rollover).live.ticking = ⟨5, 0, 0, 0, false, true⟩ := by
  have forward :
      ((ClockChip.start 50).syncedAt :: ClockEvent.readings rollover).Pairwise (· ≤ ·) := by
    decide
  have ticks : (TimedClock.run (.start 50) rollover).clock = ⟨5, 0, 0, 0, false, true⟩ := by
    decide +kernel
  exact ⟨forward, (run_ticks (.start 50) forward).1.trans ticks⟩

end TimedChip

end DotMatrix
