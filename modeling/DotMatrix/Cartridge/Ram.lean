import DotMatrix.Cartridge.Header
import DotMatrix.Memory

/-!
The external RAM of a cartridge: banks of bytes, or the half-byte cells of an MBC2, whose upper
halves read as ones. The bytes can be taken out and put back, one array to a bank.
-/

namespace DotMatrix

inductive ExternalRam where
  | banks (banks : Array (Memory Board.ramBankSize))
  | nibbles (cells : Memory Board.nibbleCount)

namespace ExternalRam

/-- The RAM that is fitted to a cartridge, all zero. -/
def blank (header : Header) : ExternalRam :=
  match header.board.kind with
  | .mbc2 => nibbles (.zeros _)
  | _ => banks (Array.replicate header.ram.banks (.zeros _))

def clear : ExternalRam → ExternalRam
  | banks bs => banks (Array.replicate bs.size (.zeros _))
  | nibbles _ => nibbles (.zeros _)

def bankCount : ExternalRam → Nat
  | banks bs => bs.size
  | nibbles _ => 1

def bankSize : ExternalRam → Nat
  | banks _ => Board.ramBankSize
  | nibbles _ => Board.nibbleCount

/-- A byte of a bank, the bank number cut to the banks there are; the open bus if there are
none. -/
def read (ram : ExternalRam) (bank : Nat) (addr : Word) : Byte :=
  match ram with
  | banks bs =>
    match bs[bank % max bs.size 1]? with
    | some memory => memory.read addr.toNat
    | none => 0xFF
  | nibbles cells => 0xF0 ||| cells.read addr.toNat

def write (ram : ExternalRam) (bank : Nat) (addr : Word) (value : Byte) : ExternalRam :=
  match ram with
  | banks bs => banks (bs.modify (bank % max bs.size 1) (·.write addr.toNat value))
  | nibbles cells => nibbles (cells.write addr.toNat (value &&& 0x0F))

/-- The contents, one array to a bank. -/
def contents : ExternalRam → Array (Array Byte)
  | banks bs => bs.map (·.toArray)
  | nibbles cells => #[cells.toArray]

/-- Replaces the contents. Where too little is given the rest is zero; what is too much is
dropped. -/
def fill (ram : ExternalRam) (given : Array (Array Byte)) : ExternalRam :=
  match ram with
  | banks bs => banks (Array.ofFn fun i : Fin bs.size => .ofArray _ (given.getD i.val #[]))
  | nibbles _ => nibbles (.ofArray _ ((given.getD 0 #[]).map (· &&& 0x0F)))

end ExternalRam

end DotMatrix
