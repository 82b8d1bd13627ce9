import DotMatrix.Word

/-!
What is at the other end of the link port. A byte goes out and a byte comes in at the same time.
With nothing attached only ones come in; a looped port hears itself; a cable leads to a host, which
supplies the bytes that come in and keeps those that go out.

Either direction of a cable may be broken. The transfer then goes on as with nothing attached, and
the trouble is noted on the cable until the host asks for it.
-/

namespace DotMatrix

/-- A transfer that could not use one direction of the cable, with the reason the host gave. -/
inductive LinkTrouble where
  | sending (reason : String)
  | receiving (reason : String)
  deriving DecidableEq, Repr

structure Cable where
  /-- The bytes that will come in, in order. -/
  incoming : Array Byte
  /-- How many of them have come in. -/
  position : Nat
  /-- The bytes that went out, in order. -/
  outgoing : Array Byte
  /-- Why nothing goes out, if so. -/
  sendFault : Option String
  /-- Why nothing comes in, if so. -/
  receiveFault : Option String
  /-- The troubles so far, in order. -/
  troubles : Array LinkTrouble
  deriving DecidableEq, Repr

namespace Cable

/-- A sound cable to a host that will supply the given bytes. -/
def ofBytes (incoming : Array Byte) : Cable :=
  ⟨incoming, 0, #[], none, none, #[]⟩

def send (c : Cable) (byte : Byte) : Cable :=
  match c.sendFault with
  | none => { c with outgoing := c.outgoing.push byte }
  | some reason => { c with troubles := c.troubles.push (.sending reason) }

/-- The next byte that comes in; after the last one, as with nothing attached. -/
def receive (c : Cable) : Cable × Byte :=
  match c.receiveFault with
  | some reason => ({ c with troubles := c.troubles.push (.receiving reason) }, 0xFF)
  | none =>
    match c.incoming[c.position]? with
    | some byte => ({ c with position := c.position + 1 }, byte)
    | none => (c, 0xFF)

end Cable

/-- What can be at the other end: it is handed a byte and answers with the byte that comes in. -/
class LinkPort (L : Type) where
  transfer : L → Byte → L × Byte

inductive Link where
  | unplugged
  | looped
  | cable (cable : Cable)
  deriving DecidableEq, Repr

namespace Link

/-- Exchanges a byte: the answer is the byte that comes in. -/
def transfer (link : Link) (byte : Byte) : Link × Byte :=
  match link with
  | unplugged => (unplugged, 0xFF)
  | looped => (looped, byte)
  | cable c =>
    let (c, received) := (c.send byte).receive
    (cable c, received)

instance : LinkPort Link := ⟨transfer⟩

def sent : Link → Array Byte
  | cable c => c.outgoing
  | _ => #[]

def troubles : Link → Array LinkTrouble
  | cable c => c.troubles
  | _ => #[]

def clearTroubles : Link → Link
  | cable c => cable { c with troubles := #[] }
  | link => link

end Link

end DotMatrix
