/-!
The command line of the headless runner. It names one image and may hold options, in any order and
each at most once. The value of an option follows it, or is joined to it by an equals sign; a value
that follows must not look like an option itself. After a bare `--` everything is a name.
-/

namespace DotMatrix

structure Arguments where
  rom : String
  config : Option String
  frames : Option Nat
  maxCycles : Option Nat
  marker : Option String
  echoSerial : Bool
  saveRam : Bool
  stateOut : Option String
  verbose : Bool
  deriving DecidableEq, Repr

namespace Arguments

/-- The arguments as far as they have been read. -/
structure Draft where
  rom : Option String
  config : Option String
  frames : Option Nat
  maxCycles : Option Nat
  marker : Option String
  echoSerial : Bool
  saveRam : Bool
  stateOut : Option String
  verbose : Bool

def Draft.empty : Draft :=
  ⟨none, none, none, none, none, false, false, none, false⟩

/-- A count: decimal digits, perhaps after a plus sign, of no more than 64 bits. -/
def count? (text : String) : Option Nat :=
  let digits :=
    match text.toList with
    | '+' :: rest => rest
    | chars => chars
  if digits.isEmpty ∨ !digits.all Char.isDigit then none
  else
    let n := digits.foldl (fun n c => n * 10 + (c.toNat - '0'.toNat)) 0
    if n < UInt64.size then some n else none

/-- A name of a file, which is not empty. -/
def name? (text : String) : Option String :=
  if text.isEmpty then none else some text

/-- Sets what is not set yet. -/
def once {α : Type} (current value : Option α) : Option (Option α) :=
  match current, value with
  | none, some v => some (some v)
  | _, _ => none

/-- Switches on what is not on yet. -/
def onceOn (current : Bool) : Option Bool :=
  if current then none else some true

namespace Draft

def setOption (d : Draft) (option value : String) : Option Draft :=
  match option with
  | "config" => (once d.config (name? value)).map ({ d with config := · })
  | "frames" => (once d.frames (count? value)).map ({ d with frames := · })
  | "max-cycles" => (once d.maxCycles (count? value)).map ({ d with maxCycles := · })
  | "until" => (once d.marker (some value)).map ({ d with marker := · })
  | "state-out" => (once d.stateOut (name? value)).map ({ d with stateOut := · })
  | _ => none

def takesValue (option : String) : Bool :=
  ["config", "frames", "max-cycles", "until", "state-out"].contains option

def setFlag (d : Draft) (option : String) : Option Draft :=
  match option with
  | "echo-serial" => (onceOn d.echoSerial).map ({ d with echoSerial := · })
  | "save-ram" => (onceOn d.saveRam).map ({ d with saveRam := · })
  | "verbose" => (onceOn d.verbose).map ({ d with verbose := · })
  | _ => none

def setRom (d : Draft) (text : String) : Option Draft :=
  (once d.rom (name? text)).map ({ d with rom := · })

def read (d : Draft) : List String → Option Draft
  | [] => some d
  | word :: rest =>
    if word = "--" then rest.foldlM setRom d
    else if word = "-v" then (d.setFlag "verbose").bind (·.read rest)
    else
      match word.toList with
      | '-' :: '-' :: long =>
        let (option, joined) := long.span (· != '=')
        let option := String.ofList option
        match joined with
        | _ :: value => (d.setOption option (String.ofList value)).bind (·.read rest)
        | [] =>
          if takesValue option then
            match rest with
            | value :: rest =>
              if value.startsWith "-" ∧ value ≠ "-" then none
              else (d.setOption option value).bind (·.read rest)
            | [] => none
          else (d.setFlag option).bind (·.read rest)
      | '-' :: _ :: _ => none
      | _ => (d.setRom word).bind (·.read rest)

end Draft

/-- The arguments that the words of a command line stand for, if they are in order. -/
def parse? (words : List String) : Option Arguments := do
  let d ← Draft.empty.read words
  let rom ← d.rom
  some {
    rom := rom
    config := d.config
    frames := d.frames
    maxCycles := d.maxCycles
    marker := d.marker
    echoSerial := d.echoSerial
    saveRam := d.saveRam
    stateOut := d.stateOut
    verbose := d.verbose }

end Arguments

end DotMatrix
