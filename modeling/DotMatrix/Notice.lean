import DotMatrix.Cartridge.Slot
import DotMatrix.Serial.Link

/-!
What the console has to say about itself while it works: notices, each with its severity and its
wording. The operations do not collect them; for each there is a function that says which it gives
rise to, and a host that wants a log appends these.
-/

namespace DotMatrix

inductive Severity where
  | warning | info | debug
  deriving DecidableEq, Repr

inductive Notice where
  | headerChecksum (title : String) (stated computed : Byte)
  | imageTooSmall (length declared : Nat)
  | inserted (title : String) (kind : ControllerKind) (romBanks ramBanks : Nat) (battery : Bool)
  | consoleReset
  | busReset
  | gotStuck (failure : Failure)
  | restored (pc : Word)
  | ramBankCount (given fitted : Nat)
  | link (trouble : LinkTrouble)
  deriving DecidableEq, Repr

def ControllerKind.name : ControllerKind → String
  | plain => "RomOnly"
  | mbc1 => "Mbc1"
  | mbc2 => "Mbc2"
  | mbc3 => "Mbc3"
  | mbc5 => "Mbc5"

namespace Notice

def severity : Notice → Severity
  | headerChecksum .. | imageTooSmall .. | gotStuck _ | ramBankCount .. => .warning
  | inserted .. => .info
  | consoleReset | busReset | restored _ | link _ => .debug

def message : Notice → String
  | headerChecksum title stated computed =>
    s!"Header checksum mismatch for '{title}': header {Hex.byte stated}, " ++
      s!"computed {Hex.byte computed}"
  | imageTooSmall length declared =>
    s!"ROM image is {length} bytes but the header declares {declared}"
  | inserted title kind romBanks ramBanks battery =>
    s!"Loaded '{title}': {kind.name}, {romBanks} ROM banks, {ramBanks} RAM banks" ++
      (if battery then ", battery" else "")
  | consoleReset => "Resetting console"
  | busReset => "Resetting memory bus"
  | gotStuck failure => "Console faulted: " ++ failure.message
  | restored pc => s!"Restored console state at PC={Hex.word pc}"
  | ramBankCount given fitted => s!"RAM image has {given} banks, cartridge has {fitted}"
  | link (.sending reason) => "Serial writer failed: " ++ reason
  | link (.receiving reason) => "Serial reader failed: " ++ reason

def line (n : Notice) : String :=
  let level :=
    match n.severity with
    | .warning => "WARN "
    | .info => "INFO "
    | .debug => "DEBUG "
  level ++ n.message

/-- What there is to say about an image that is accepted as a cartridge. -/
def ofCartridge (cartridge : Cartridge) : List Notice :=
  let header := cartridge.header
  (if header.checksumOk then []
    else [headerChecksum header.title header.checksum header.computedChecksum]) ++
  (if cartridge.image.size < header.romSize
    then [imageTooSmall cartridge.image.size header.romSize] else [])

/-- Putting bytes back into an external RAM. -/
def ofFill (ram : ExternalRam) (given : Array (Array Byte)) : List Notice :=
  if given.size = ram.bankCount then [] else [ramBankCount given.size ram.bankCount]

/-- Resetting the console, which resets the bus. -/
def ofReset : List Notice :=
  [consoleReset, busReset]

def ofInsert (cartridge : Cartridge) : List Notice :=
  let header := cartridge.header
  inserted header.title header.board.kind header.romBanks
    (ExternalRam.blank header).bankCount header.board.battery :: ofReset

def ofFailure : Failure → List Notice
  | failure@(.undefinedOpcode ..) => [gotStuck failure]
  | _ => []

def ofLink (l : Link) : List Notice :=
  l.troubles.toList.map link

end Notice

end DotMatrix
