import DotMatrix.Word

/-!
The clock chip of some cartridges. It counts seconds, minutes, hours and days in counters of six,
six, five and nine bits, and has two flags: a halt switch, and a mark that the days have
overflowed. A program sees a snapshot of the counters, taken by a latch.

The counters are brought up to date only when the chip is used, by the wall time that has passed
since. A counter that was set past its ordinary range counts on to its bit width and wraps there
without a carry into the next.
-/

namespace DotMatrix

structure ClockCounters where
  seconds : Fin 64
  minutes : Fin 64
  hours : Fin 32
  days : Fin 512
  halted : Bool
  /-- Have the days overflowed? It stays set until it is cleared by a write. -/
  overflow : Bool
  deriving DecidableEq, Repr

namespace ClockCounters

def zero : ClockCounters := ⟨0, 0, 0, 0, false, false⟩

/-- The byte with the ninth bit of the days and the flags. -/
def flagByte (c : ClockCounters) : Byte :=
  UInt8.ofNat (c.days.val / 0x100 + c.halted.toNat * 0x40 + c.overflow.toNat * 0x80)

/-- A register of the chip; `0xFF` where there is none. -/
def read (c : ClockCounters) (register : Byte) : Byte :=
  match register.toNat with
  | 0x08 => UInt8.ofNat c.seconds.val
  | 0x09 => UInt8.ofNat c.minutes.val
  | 0x0A => UInt8.ofNat c.hours.val
  | 0x0B => UInt8.ofNat c.days.val
  | 0x0C => c.flagByte
  | _ => 0xFF

/-- Sets a register; bits that a counter does not have are dropped. -/
def write (c : ClockCounters) (register value : Byte) : ClockCounters :=
  match register.toNat with
  | 0x08 => { c with seconds := Fin.ofNat 64 value.toNat }
  | 0x09 => { c with minutes := Fin.ofNat 64 value.toNat }
  | 0x0A => { c with hours := Fin.ofNat 32 value.toNat }
  | 0x0B => { c with days := Fin.ofNat 512 (c.days.val / 0x100 * 0x100 + value.toNat) }
  | 0x0C =>
    { c with
      days := Fin.ofNat 512 (c.days.val % 0x100 + value.toNat % 2 * 0x100)
      halted := value.bit 6
      overflow := value.bit 7 }
  | _ => c

def dayTick (c : ClockCounters) : ClockCounters :=
  if c.days = 511 then { c with days := 0, overflow := true }
  else { c with days := c.days + 1 }

def hourTick (c : ClockCounters) : ClockCounters :=
  if c.hours = 23 then { c with hours := 0 }.dayTick
  else { c with hours := c.hours + 1 }

def minuteTick (c : ClockCounters) : ClockCounters :=
  if c.minutes = 59 then { c with minutes := 0 }.hourTick
  else { c with minutes := c.minutes + 1 }

/-- How many seconds pass until the seconds come round with a carry. A count past 59 first has to
wrap at its bit width. -/
def untilMinute (c : ClockCounters) : Nat :=
  if c.seconds.val ≤ 59 then 60 - c.seconds.val else 64 - c.seconds.val + 60

theorem untilMinute_pos (c : ClockCounters) : 0 < c.untilMinute := by
  have := c.seconds.isLt
  unfold untilMinute
  split <;> omega

/-- Lets a number of seconds pass, minute by minute. -/
def advance (c : ClockCounters) (elapsed : Nat) : ClockCounters :=
  if elapsed < c.untilMinute then
    { c with seconds := Fin.ofNat 64 (c.seconds.val + elapsed) }
  else
    advance { c with seconds := 0 }.minuteTick (elapsed - c.untilMinute)
termination_by elapsed
decreasing_by
  have := c.untilMinute_pos
  omega

end ClockCounters

/-- The chip: its counters, the snapshot a program sees, and when the counters were last brought up
to date. -/
structure ClockChip where
  counters : ClockCounters
  latched : ClockCounters
  /-- The wall time, in seconds, that the counters stand for. -/
  syncedAt : UInt64
  deriving DecidableEq, Repr

namespace ClockChip

/-- A chip that starts at zero at a wall time. -/
def start (now : UInt64) : ClockChip :=
  ⟨.zero, .zero, now⟩

/-- Clears the counters and the snapshot and counts on from a wall time. -/
def reset (chip : ClockChip) (now : UInt64) : ClockChip :=
  { chip with counters := .zero, latched := .zero, syncedAt := now }

/-- Brings the counters up to date. A wall time that went back lets no time pass. -/
def sync (chip : ClockChip) (now : UInt64) : ClockChip :=
  { chip with
    counters :=
      if chip.counters.halted then chip.counters
      else chip.counters.advance (now.toNat - chip.syncedAt.toNat)
    syncedAt := now }

def latch (chip : ClockChip) (now : UInt64) : ClockChip :=
  let chip := chip.sync now
  { chip with latched := chip.counters }

/-- A register of the snapshot. -/
def read (chip : ClockChip) (register : Byte) : Byte :=
  chip.latched.read register

/-- Sets a register at a wall time. The snapshot is taken anew. -/
def write (chip : ClockChip) (now : UInt64) (register value : Byte) : ClockChip :=
  let counters := (chip.sync now).counters.write register value
  { counters := counters, latched := counters, syncedAt := now }

end ClockChip

end DotMatrix
