import DotMatrix.Headless.Files
import DotMatrix.Headless.Location
import DotMatrix.Headless.Session
import DotMatrix.Snapshot.Text

/-!
A headless run from beginning to end: the image and perhaps a battery file are read, the session is
run, and the battery file and the state are written, also after a session that failed.
-/

namespace DotMatrix.Headless

inductive Result where
  | verdict (verdict : Verdict)
  | failed (failure : Failure)
  | fileTrouble (name : String)
  | unfinished
  deriving DecidableEq, Repr

def Result.ofEnding : Ending → Result
  | .verdict v => .verdict v
  | .failed failure => .failed failure
  | .unfinished => .unfinished

abbrev ReadResult := Except ReadFault (Array Byte)

def batteryFile (rom : String) : String :=
  Location.withExtension rom "sav"

/-- Fills the RAM from the battery file, if there is a RAM to keep and a file. -/
def loadBattery (rom : String) (battery : ReadResult) (c : Console) : Except Result Console :=
  if c.batteryData?.isNone then .ok c
  else
    match battery with
    | .ok data => .ok (c.loadBattery data)
    | .error .missing => .ok c
    | .error .unreadable => .error (.fileTrouble (batteryFile rom))

/-- The console with the image, and with the battery file if that is wanted. -/
def prepare (rom : String) (image battery : ReadResult) (settings : Settings) (now : UInt64) :
    Except Result Console := do
  let image ←
    match image with
    | .ok image => pure image
    | .error _ => throw (.fileTrouble rom)
  let c ←
    match (Console.initial now).load image with
    | .ok c => pure c
    | .error failure => throw (.failed failure)
  if settings.saveRam then loadBattery rom battery c else return c

/-- The files that a session leaves, in the order in which they are written: the battery file, if
there is a RAM to keep and that is wanted, and the state, if that is wanted. -/
def outputs (rom : String) (settings : Settings) (c : Console) : List (String × Array Byte) :=
  let battery := if settings.saveRam then c.batteryData? else none
  let state := settings.stateOut.map fun name => (name, c.snapshot.json.toUTF8.data)
  (battery.map fun data => (batteryFile rom, data)).toList ++ state.toList

/-- Writes files one after the other, up to the first that cannot be written; that one is
trouble. -/
def writeAll (files : Files) : List (String × Array Byte) → Files × Option Result
  | [] => (files, none)
  | (name, data) :: rest =>
    match files.write name data with
    | some files => writeAll files rest
    | none => (files, some (.fileTrouble name))

structure Report where
  result : Result
  /-- The serial output that was echoed. -/
  echo : Array Byte
  files : Files

/-- A run of at most `patience` frames of at most `patience` steps each. It begins at the time that the
clock shows at first. -/
def run (patience : Nat) (files : Files) (rom : String) (settings : Settings)
    (clock : Nat → UInt64) : Report :=
  match prepare rom (files.read rom) (files.read (batteryFile rom)) settings (clock 0) with
  | .error result => ⟨result, #[], files⟩
  | .ok c =>
    let (s, echo, ending) := Session.run settings clock patience patience (.start c) #[]
    let (files, trouble) := writeAll files (outputs rom settings s.console)
    ⟨trouble.getD (.ofEnding ending), echo, files⟩

end DotMatrix.Headless
