import DotMatrix.Headless.Battery
import DotMatrix.Headless.Settings

/-!
A run of the console without a screen, frame by frame, while the wall clock goes on. After each frame new
serial output is echoed, and the run ends if the output contains the marker or a limit is reached. The
limits are looked at between frames only.
-/

namespace DotMatrix

/-- How a run ends when nothing goes wrong. -/
inductive Verdict where
  | limitReached
  | markerSeen
  | markerMissing
  deriving DecidableEq, Repr

inductive Ending where
  | verdict (verdict : Verdict)
  | failed (failure : Failure)
  /-- The steps or frames that were allowed are used up. -/
  | unfinished
  deriving DecidableEq, Repr

/-- Does a list of bytes begin somewhere in another? -/
def occursIn (needle : List Byte) : List Byte → Bool
  | [] => needle.isEmpty
  | hay@(_ :: rest) => needle.isPrefixOf hay || occursIn needle rest

/-- Does some text contain another? An empty one is in none. -/
def containsBytes (hay needle : Array Byte) : Bool :=
  !needle.isEmpty && occursIn needle.toList hay.toList

structure Session where
  console : Console
  frames : Nat
  /-- How much of the serial output has been echoed. -/
  echoed : Nat

namespace Session

def start (console : Console) : Session :=
  ⟨console, 0, 0⟩

/-- The serial output that is still to be echoed, if any is wanted. -/
def newOutput (s : Session) (settings : Settings) : Array Byte :=
  let log := s.console.bus.serial.log
  if settings.echoSerial then log.extract s.echoed log.size else #[]

/-- The verdict after a frame, if there is one. The marker counts before the limits. -/
def verdict? (s : Session) (settings : Settings) : Option Verdict :=
  let marker := settings.marker.map fun text => text.toUTF8.data
  if marker.any (containsBytes s.console.bus.serial.log) then some .markerSeen
  else if settings.frames.any (· ≤ s.frames) ∨
      settings.maxCycles.any (· ≤ s.console.cpu.cycles.total) then
    some (if marker.isSome then .markerMissing else .limitReached)
  else none

/-- One frame of at most `patience` steps, each at the time that the clock shows then: the session after
it, what is echoed, and the ending if the run ends here. A frame that fails echoes nothing. -/
def frame (s : Session) (settings : Settings) (clock : Nat → UInt64) (patience : Nat) :
    Session × Array Byte × Option Ending :=
  match s.console.runFrameAt clock patience 0 with
  | (c, .failed failure) => ({ s with console := c }, #[], some (.failed failure))
  | (c, .unfinished) => ({ s with console := c }, #[], some .unfinished)
  | (c, _) =>
    let s := { s with console := c, frames := s.frames + 1 }
    let echo := s.newOutput settings
    let s := { s with echoed := s.echoed + echo.size }
    (s, echo, (s.verdict? settings).map .verdict)

/-- Frame after frame, at most `limit` of them: the session at the end, all that was echoed, and the
ending. -/
def run (settings : Settings) (clock : Nat → UInt64) (patience : Nat) :
    Nat → Session → Array Byte → Session × Array Byte × Ending
  | 0, s, echo => (s, echo, .unfinished)
  | limit + 1, s, echo =>
    match s.frame settings clock patience with
    | (s, more, some ending) => (s, echo ++ more, ending)
    | (s, more, none) => run settings clock patience limit s (echo ++ more)

end Session

end DotMatrix
