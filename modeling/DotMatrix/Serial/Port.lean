import DotMatrix.Serial.Link

/-!
The serial port: a data register and a control register. A transfer on the console's own clock is
over as soon as it is started. One on the partner's clock waits for a partner that never drives the
clock, so it stays pending.
-/

namespace DotMatrix

/-- The port, with what is plugged in: a link of the console's own, or anything else that answers
bytes. -/
structure SerialPort (L : Type := Link) where
  data : Byte
  control : Byte
  /-- The bytes sent and not yet collected, in order. -/
  log : Array Byte
  link : L
  /-- Has a transfer been completed since that was last taken? -/
  completed : Bool
  deriving DecidableEq, Repr

namespace SerialPort

def initial : SerialPort := ⟨0, 0, #[], .unplugged, false⟩

variable {L : Type}

/-- The registers and the log are cleared; what is plugged in stays. -/
def reset (port : SerialPort L) : SerialPort L :=
  { port with data := 0, control := 0, log := #[], completed := false }

def plug (port : SerialPort L) (link : L) : SerialPort L :=
  { port with link := link }

/-- Sends the data register and receives into it. -/
def exchange [LinkPort L] (port : SerialPort L) : SerialPort L :=
  let (link, received) := LinkPort.transfer port.link port.data
  { data := received
    control := port.control &&& 0x7F
    log := port.log.push port.data
    link := link
    completed := true }

/-- Takes the completion: was there one since the last time? -/
def takeCompletion (port : SerialPort L) : SerialPort L × Bool :=
  ({ port with completed := false }, port.completed)

/-- Collects the bytes sent since the last time. -/
def takeLog (port : SerialPort L) : SerialPort L × Array Byte :=
  ({ port with log := #[] }, port.log)

def read (port : SerialPort L) (addr : Word) : Byte :=
  match addr.toNat with
  | 0xFF01 => port.data
  | 0xFF02 => port.control ||| 0x7E
  | _ => 0xFF

/-- A write to the control register with its start bit and its clock bit set begins a transfer. -/
def write [LinkPort L] (port : SerialPort L) (addr : Word) (value : Byte) : SerialPort L :=
  match addr.toNat with
  | 0xFF01 => { port with data := value }
  | 0xFF02 =>
    let port := { port with control := value }
    if value.bit 7 && value.bit 0 then port.exchange else port
  | _ => port

end SerialPort

end DotMatrix
