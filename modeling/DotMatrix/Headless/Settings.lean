import DotMatrix.Headless.Arguments
import DotMatrix.Toml.Document
import DotMatrix.Word

/-!
The settings of a headless run. They come from a file, in which each may be left out, and the
command line is laid over them. A file that cannot be read, or that gives a setting a value of the
wrong type, counts as empty.
-/

namespace DotMatrix

structure Settings where
  frames : Option Nat
  maxCycles : Option Nat
  /-- Stop once the serial output contains this text. -/
  marker : Option String
  echoSerial : Bool
  saveRam : Bool
  stateOut : Option String
  deriving DecidableEq, Repr

namespace Settings

def default : Settings :=
  ⟨none, none, none, false, false, none⟩

/-- A setting from the entries of a file: absent, or of the type that `decode` accepts. -/
def entry {α : Type} (entries : Toml.Entries) (key : String) (decode : Toml.Value → Option α) :
    Option (Option α) :=
  match entries.lookup key with
  | none => some none
  | some v => (decode v).map some

def decodeCount : Toml.Value → Option Nat
  | .integer n => if 0 ≤ n ∧ n < UInt64.size then some n.toNat else none
  | _ => none

def decodeText : Toml.Value → Option String
  | .string text => some text
  | _ => none

def decodeSwitch : Toml.Value → Option Bool
  | .boolean b => some b
  | _ => none

def ofEntries (entries : Toml.Entries) : Option Settings := do
  some {
    frames := ← entry entries "frames" decodeCount
    maxCycles := ← entry entries "max_cycles" decodeCount
    marker := ← entry entries "stop_on_serial" decodeText
    echoSerial := (← entry entries "echo_serial" decodeSwitch).getD false
    saveRam := (← entry entries "save_ram" decodeSwitch).getD false
    stateOut := ← entry entries "state_out" decodeText }

/-- The settings of a file with the given text, if there is one. -/
def ofText (text : Option String) : Settings :=
  ((text.bind Toml.parse?).bind ofEntries).getD default

/-- The settings of a file with the given bytes, if there is one. -/
def ofFile (data : Option (Array Byte)) : Settings :=
  ofText (data.bind fun bytes => String.fromUTF8? ⟨bytes⟩)

/-- The settings with the command line laid over them. -/
def override (s : Settings) (args : Arguments) : Settings :=
  { frames := args.frames <|> s.frames
    maxCycles := args.maxCycles <|> s.maxCycles
    marker := args.marker <|> s.marker
    echoSerial := s.echoSerial || args.echoSerial
    saveRam := s.saveRam || args.saveRam
    stateOut := args.stateOut <|> s.stateOut }

end Settings

end DotMatrix
