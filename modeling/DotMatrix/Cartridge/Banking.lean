import DotMatrix.Cartridge.Header

/-!
The registers of the memory controllers. A write below `0x8000` goes to one of them; together they
say which ROM banks are in the two windows and what is behind the window of the external RAM.
-/

namespace DotMatrix

/-- What is behind the window of the external RAM. -/
inductive External where
  | closed
  | bank (n : Nat)
  | clock (register : Byte)
  deriving DecidableEq, Repr

inductive Banking where
  | plain
  | mbc1 (ramEnabled : Bool) (low high : Byte) (advanced : Bool)
  | mbc2 (ramEnabled : Bool) (romBank : Byte)
  /-- `armed` holds after a write of zero to the latch register. -/
  | mbc3 (ramEnabled : Bool) (romBank select : Byte) (armed : Bool)
  | mbc5 (ramEnabled : Bool) (romBank : Word) (ramBank : Byte) (rumble : Bool)
  deriving DecidableEq, Repr

namespace Banking

/-- The registers when the power comes on. -/
def initial (board : Board) : Banking :=
  match board.kind with
  | .plain => plain
  | .mbc1 => mbc1 false 1 0 false
  | .mbc2 => mbc2 false 1
  | .mbc3 => mbc3 false 1 0 false
  | .mbc5 => mbc5 false 1 0 board.rumble

/-- The registers cleared to their values at power on. The motor of an MBC5 is a part of the board and
stays. -/
def reset : Banking → Banking
  | plain => plain
  | mbc1 _ _ _ _ => mbc1 false 1 0 false
  | mbc2 _ _ => mbc2 false 1
  | mbc3 _ _ _ _ => mbc3 false 1 0 false
  | mbc5 _ _ _ rumble => mbc5 false 1 0 rumble

/-- Does a value written to an enable register open the RAM? -/
def opens (value : Byte) : Bool :=
  value.toNat % 0x10 == 0x0A

/-- A bank register that cannot hold zero holds one instead. -/
def nonzero (bank : Byte) : Byte :=
  if bank = 0 then 1 else bank

/-- A write below `0x8000`. -/
def write (b : Banking) (addr : Word) (value : Byte) : Banking :=
  let a := addr.toNat
  match b with
  | plain => plain
  | mbc1 enabled low high advanced =>
    if a < 0x2000 then mbc1 (opens value) low high advanced
    else if a < 0x4000 then mbc1 enabled (nonzero (value &&& 0x1F)) high advanced
    else if a < 0x6000 then mbc1 enabled low (value &&& 0x03) advanced
    else mbc1 enabled low high (value.bit 0)
  | mbc2 enabled romBank =>
    -- bit 8 of the address tells the two registers apart
    if a < 0x4000 then
      if addr.high.bit 0 then mbc2 enabled (nonzero (value &&& 0x0F))
      else mbc2 (opens value) romBank
    else b
  | mbc3 enabled romBank select armed =>
    if a < 0x2000 then mbc3 (opens value) romBank select armed
    else if a < 0x4000 then mbc3 enabled (nonzero (value &&& 0x7F)) select armed
    else if a < 0x6000 then mbc3 enabled romBank value armed
    else mbc3 enabled romBank select (value == 0x00)
  | mbc5 enabled romBank ramBank rumble =>
    if a < 0x2000 then mbc5 (opens value) romBank ramBank rumble
    else if a < 0x3000 then
      mbc5 enabled (.ofBytes romBank.high value) ramBank rumble
    else if a < 0x4000 then
      mbc5 enabled (.ofBytes (value &&& 0x01) romBank.low) ramBank rumble
    else if a < 0x6000 then
      -- with a motor on the board, bit 3 drives it
      mbc5 enabled romBank (if rumble then value &&& 0x07 else value &&& 0x0F) rumble
    else b

/-- Does a write complete the sequence that latches the clock chip: a zero, then a one? -/
def latches (b : Banking) (addr : Word) (value : Byte) : Bool :=
  match b with
  | mbc3 _ _ _ armed => armed && decide (0x6000 ≤ addr.toNat) && value == 0x01
  | _ => false

/-- The ROM bank in the window below `0x4000`, before it is cut to the size of the ROM. -/
def lowBank : Banking → Nat
  | mbc1 _ _ high true => high.toNat * 0x20
  | _ => 0

/-- The ROM bank in the window from `0x4000` on, before it is cut to the size of the ROM. -/
def highBank : Banking → Nat
  | plain => 1
  | mbc1 _ low high _ => high.toNat * 0x20 + low.toNat
  | mbc2 _ romBank => romBank.toNat
  | mbc3 _ romBank _ _ => romBank.toNat
  | mbc5 _ romBank _ _ => romBank.toNat

/-- What is behind the window of the external RAM. -/
def external : Banking → External
  | plain => .bank 0
  | mbc1 true _ high advanced => .bank (if advanced then high.toNat else 0)
  | mbc2 true _ => .bank 0
  | mbc3 true _ select _ =>
    if select.toNat ≤ 0x03 then .bank select.toNat
    else if 0x08 ≤ select.toNat ∧ select.toNat ≤ 0x0C then .clock select
    else .closed
  | mbc5 true _ ramBank _ => .bank ramBank.toNat
  | _ => .closed

end Banking

end DotMatrix
