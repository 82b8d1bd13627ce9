import DotMatrix.Snapshot

/-!
A snapshot as a JSON text: two blanks to a level, one entry of an object or an array to a line.
-/

namespace DotMatrix.Json

/-- The line break with the indentation of a level. -/
def lineBreak (level : Nat) : String :=
  "\n" ++ String.ofList (List.replicate (2 * level) ' ')

/-- Entries between brackets at a level, each on a line of its own. -/
def block (level : Nat) (opening closing : String) (entries : List String) : String :=
  if entries.isEmpty then opening ++ closing
  else
    opening ++ lineBreak (level + 1) ++
      String.intercalate ("," ++ lineBreak (level + 1)) entries ++
      lineBreak level ++ closing

def array (level : Nat) (items : List String) : String :=
  block level "[" "]" items

/-- An object at a level. The names need no escapes. -/
def object (level : Nat) (members : List (String × String)) : String :=
  block level "\x7b" "\x7d" (members.map fun (name, value) => "\"" ++ name ++ "\": " ++ value)

/-- Bytes as an array of numbers at a level. -/
def bytes (level : Nat) (data : Array Byte) : String :=
  array level (data.toList.map fun b => toString b.toNat)

end DotMatrix.Json

namespace DotMatrix

def CpuImage.json (i : CpuImage) (level : Nat) : String :=
  Json.object level [
    ("a", toString i.a.toNat), ("b", toString i.b.toNat), ("c", toString i.c.toNat),
    ("d", toString i.d.toNat), ("e", toString i.e.toNat), ("f", toString i.f.toNat),
    ("h", toString i.h.toNat), ("l", toString i.l.toNat), ("sp", toString i.sp.toNat),
    ("pc", toString i.pc.toNat), ("ime", if i.ime then "true" else "false")]

def LcdImage.json (i : LcdImage) (level : Nat) : String :=
  Json.object level [
    ("lcdc", toString i.control.toNat), ("stat", toString i.status.toNat),
    ("scx", toString i.scrollX.toNat), ("scy", toString i.scrollY.toNat),
    ("wx", toString i.windowX.toNat), ("wy", toString i.windowY.toNat),
    ("lyc", toString i.compare.toNat), ("ly", toString i.line.toNat),
    ("bgp", toString i.bgPalette.toNat), ("obp0", toString i.objPalette0.toNat),
    ("obp1", toString i.objPalette1.toNat), ("oam", Json.bytes (level + 1) i.oam),
    ("vram", Json.bytes (level + 1) i.vram)]

def Snapshot.json (s : Snapshot) : String :=
  Json.object 0 [
    ("cpu", s.cpu.json 1),
    ("ppu", s.lcd.json 1),
    ("cart", Json.object 1 [
      ("ram_banks", Json.array 2 (s.ramBanks.toList.map (Json.bytes 3)))])]

end DotMatrix
