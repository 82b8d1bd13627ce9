import DotMatrix.Headless.Run
import DotMatrix.Notice

/-!
The headless runner as a program. It reads the settings and the files, lets the session run frame by
frame with its serial output echoed as it comes, and writes what the session leaves. Its exit code
is zero if the run ended as it should, two if the marker never came or the command line is not in
order, and one if something went wrong.
-/

namespace DotMatrix.Headless

def usage : String :=
  "usage: ROM [--config FILE] [--frames N] [--max-cycles N] [--until TEXT] " ++
    "[--echo-serial] [--save-ram] [--state-out FILE] [--verbose]"

def Result.exitCode : Result → UInt32
  | .verdict .limitReached | .verdict .markerSeen => 0
  | .verdict .markerMissing => 2
  | .failed _ | .fileTrouble _ | .unfinished => 1

def Result.complaint? : Result → Option String
  | .verdict .limitReached | .verdict .markerSeen => none
  | .verdict .markerMissing => some "the serial marker never appeared"
  | .failed failure => some failure.message
  | .fileTrouble name => some (name ++ ": cannot be read or written")
  | .unfinished => some "a frame took too long"

/-- More steps than any frame takes. -/
def framePatience : Nat := 1 <<< 60

/-- Whole seconds since some moment in the past. -/
def secondsNow : IO UInt64 := do
  return UInt64.ofNat ((← IO.monoMsNow) / 1000)

def readDisk (name : String) : IO ReadResult := do
  match ← (IO.FS.readBinFile name).toBaseIO with
  | .ok bytes => return .ok bytes.data
  | .error (.noFileOrDirectory ..) => return .error .missing
  | .error _ => return .error .unreadable

/-- Writes files one after the other, up to the first that cannot be written; that one is
trouble. -/
def writeDisk : List (String × Array Byte) → IO (Option Result)
  | [] => return none
  | (name, data) :: rest => do
    match ← (IO.FS.writeBinFile name ⟨data⟩).toBaseIO with
    | .ok _ => writeDisk rest
    | .error _ => return some (.fileTrouble name)

/-- The settings from their file with the command line laid over them. -/
def readSettings (args : Arguments) : IO Settings := do
  let settingsHome ← IO.getEnv "XDG_CONFIG_HOME"
  let home ← IO.getEnv "HOME"
  let file ← readDisk (args.config.getD (Location.defaultSettings settingsHome home))
  return (Settings.ofFile file.toOption).override args

/-- Prints bytes at once. A failure to print them is no reason to end the run. -/
def echoBytes (bytes : Array Byte) : IO Unit := do
  if !bytes.isEmpty then
    let out ← IO.getStdout
    try
      out.write ⟨bytes⟩
      out.flush
    catch _ => return

partial def drive (settings : Settings) (s : Session) : IO (Session × Ending) := do
  let now ← secondsNow
  let (s, echo, ending) := s.frame settings (fun _ => now) framePatience
  echoBytes echo
  match ending with
  | some ending => return (s, ending)
  | none => drive settings s

/-- Tells what the cartridge gives rise to; minor notices only if they are wanted. -/
def announce (verbose : Bool) (c : Console) : IO Unit := do
  for cartridge in c.cartridge do
    for notice in Notice.ofCartridge cartridge ++ Notice.ofInsert cartridge do
      if verbose || notice.severity != .debug then
        IO.eprintln notice.line

def runOnDisk (args : Arguments) : IO Result := do
  let settings ← readSettings args
  let image ← readDisk args.rom
  let battery ←
    if settings.saveRam then readDisk (batteryFile args.rom) else pure (.error .missing)
  match prepare args.rom image battery settings (← secondsNow) with
  | .error result => return result
  | .ok c =>
    announce args.verbose c
    let (s, ending) ← drive settings (.start c)
    return (← writeDisk (outputs args.rom settings s.console)).getD (.ofEnding ending)

/-- The program: its exit code for the words of a command line. -/
def program (words : List String) : IO UInt32 := do
  match Arguments.parse? words with
  | none =>
    IO.eprintln usage
    return 2
  | some args =>
    let result ← runOnDisk args
    for complaint in result.complaint? do
      IO.eprintln complaint
    return result.exitCode

end DotMatrix.Headless

def main (words : List String) : IO UInt32 :=
  DotMatrix.Headless.program words
