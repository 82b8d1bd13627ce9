import DotMatrix.Word

/-!
The files that a run can see, as a value: some folders, and some files with their contents. A name
is followed part by part from the folder at hand, or from the top if it begins with a slash; every
part before the last has to be a folder.
-/

namespace DotMatrix

/-- Where a folder or a file is: its name part by part from the top. -/
abbrev FilePath := List String

structure Files where
  here : FilePath
  folders : List FilePath
  contents : List (FilePath × Array Byte)

inductive ReadFault where
  | missing
  /-- There is something of that name, such as a folder, but nothing to read. -/
  | unreadable
  deriving DecidableEq, Repr

namespace Files

def isFolder (fs : Files) (path : FilePath) : Bool :=
  path.isEmpty || fs.folders.contains path

def follow (fs : Files) (path : FilePath) : List String → Option FilePath
  | [] => some path
  | part :: rest =>
    if !fs.isFolder path then none
    else if part = "" ∨ part = "." then fs.follow path rest
    else if part = ".." then fs.follow path.dropLast rest
    else fs.follow (path ++ [part]) rest

/-- The parts of a name, which slashes separate. -/
def parts (name : String) : List String :=
  (name.toList.splitOn '/').map String.ofList

/-- Where a name leads, if all folders on the way are there. -/
def locate (fs : Files) (name : String) : Option FilePath :=
  match parts name with
  | [""] => none
  | "" :: parts => fs.follow [] parts
  | parts => fs.follow fs.here parts

def read (fs : Files) (name : String) : Except ReadFault (Array Byte) :=
  match fs.locate name with
  | none => .error .missing
  | some path =>
    if fs.isFolder path then .error .unreadable
    else
      match fs.contents.lookup path with
      | some data => .ok data
      | none => .error .missing

/-- Writes a file, if its folder is there and no folder is in its place. -/
def write (fs : Files) (name : String) (data : Array Byte) : Option Files :=
  match fs.locate name with
  | none => none
  | some path =>
    if fs.isFolder path then none
    else
      some { fs with contents := (path, data) :: fs.contents.filter (·.1 != path) }

end Files

end DotMatrix
