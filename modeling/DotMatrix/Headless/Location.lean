/-!
Names of files: joining them, changing an extension, and where the settings are looked for when no
file is named. The parts of a name are separated by slashes.
-/

namespace DotMatrix.Location

/-- A name below a folder. The empty name stands for the folder at hand. -/
def join (folder name : String) : String :=
  if folder.isEmpty ∨ folder.endsWith "/" then folder ++ name else folder ++ "/" ++ name

/-- The last part of a name, and what is before it. -/
def splitLast (location : List Char) : List Char × List Char :=
  let last := (location.reverse.takeWhile (· != '/')).reverse
  (location.take (location.length - last.length), last)

/-- A part of a name without its extension: what is after its last dot, unless that is where the
part begins. -/
def stem (part : List Char) : List Char :=
  match part.reverse.dropWhile (· != '.') with
  | _ :: before => if before.isEmpty then part else before.reverse
  | [] => part

/-- The same name with another extension. -/
def withExtension (location extension : String) : String :=
  let (folder, last) := splitLast location.toList
  String.ofList (folder ++ stem last) ++ "." ++ extension

/-- Where the settings are looked for, by the folder for settings and the home folder as far as they
are known. -/
def defaultSettings (settingsHome home : Option String) : String :=
  match settingsHome, home with
  | some folder, _ => join (join folder "dmg-emu") "run.toml"
  | none, some folder => join (join (join folder ".config") "dmg-emu") "run.toml"
  | none, none => "run.toml"

end DotMatrix.Location
