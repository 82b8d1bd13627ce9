import DotMatrix.Console

/-!
What a host can do to a console, by the console's own operations and by those of its parts.

Putting a cartridge in and restoring a snapshot are calls here: they change the console in place, one
thing after the other, and a call that fails leaves whatever it has changed by then.
-/

namespace DotMatrix

/-- A call that changes the console in place and may fail. -/
abbrev HostCall := ExceptT Failure (StateM Console)

namespace HostCall

/-- The console after a call, with what went wrong. -/
def outcome (call : HostCall Unit) (c : Console) : Console × Option Failure :=
  match call.run.run c with
  | (.ok _, c) => (c, none)
  | (.error failure, c) => (c, some failure)

def setLcd (change : Lcd → Lcd) : HostCall Unit :=
  modify fun c => { c with bus.lcd := change c.bus.lcd }

/-- Reads an image as a cartridge, puts that in and starts over with it. -/
def load (image : Array Byte) : HostCall Unit := do
  match Cartridge.ofImage image with
  | .error failure => throw failure
  | .ok cartridge =>
    modify fun c => { c with bus.slot := some (.insert cartridge c.bus.now) }
    modify Console.reset

/-- Puts the LCD controller at the start of a mode of a line, if the image is of one. -/
def restoreLcd (image : LcdImage) : HostCall Unit := do
  let mode := Mode.ofStatus image.status
  unless image.oam.size = 0xA0 do throw (.badSnapshot .oamSize)
  unless image.vram.size = 0x2000 do throw (.badSnapshot .vramSize)
  unless image.line.toNat ≤ Screen.lastLine do throw (.badSnapshot .lineTooLarge)
  unless image.line.toNat < Screen.height ∨ mode = .vblank do
    throw (.badSnapshot .lineOutsideVBlank)
  setLcd ({ · with control := image.control })
  setLcd ({ · with enables := image.status &&& Lcd.enablesMask })
  setLcd ({ · with mode := mode, modeClock := 0 })
  setLcd ({ · with scrollX := image.scrollX, scrollY := image.scrollY })
  setLcd ({ · with windowX := image.windowX, windowY := image.windowY })
  setLcd ({ · with compare := image.compare })
  setLcd ({ · with line := image.line })
  setLcd ({ · with bgPalette := image.bgPalette })
  setLcd ({ · with objPalette0 := image.objPalette0, objPalette1 := image.objPalette1 })
  setLcd ({ · with oam := .ofArray _ image.oam })
  setLcd ({ · with vram := .ofArray _ image.vram })

/-- Puts the console where a snapshot was taken. -/
def restore (s : Snapshot) : HostCall Unit := do
  if let some flaw := Snapshot.bankFlaw? (← get).bus.slot s.ramBanks then
    throw (.badSnapshot flaw)
  restoreLcd s.lcd
  modify fun c => { c with cpu.regs := s.cpu.registers }
  modify fun c => { c with cpu := c.cpu.wake }
  modify fun c => { c with stuckAt := none }
  modify fun c =>
    { c with bus.slot := c.bus.slot.map fun slot => { slot with ram := slot.ram.fill s.ramBanks } }

end HostCall

inductive Operation where
  | reset
  | insert (cartridge : Cartridge)
  | load (image : Array Byte)
  | restore (s : Snapshot)
  | dispatch
  /-- Runs for a frame, or for as many dispatches if that is less. -/
  | frame (limit : Nat)
  | keyDown (key : Key)
  | keyUp (key : Key)
  | plug (link : Link)
  | collect
  | setNow (now : UInt64)
  /-- A step of the processor alone, in which no other device runs. -/
  | step
  | setRegisters (regs : Registers)
  | write (addr : Word) (value : Byte)
  | request (mask : Byte)
  | resetBus
  | stepLcd (cycles : Nat)
  | stepTimer (cycles : Nat)
  | setOam (index : Nat) (value : Byte)
  | fillRam (banks : Array (Array Byte))

namespace Console

/-- The console after an operation, with what went wrong. -/
def perform (c : Console) : Operation → Console × Option Failure
  | .reset => (c.reset, none)
  | .insert cartridge => (c.insert cartridge, none)
  | .load image => (HostCall.load image).outcome c
  | .restore s => (HostCall.restore s).outcome c
  | .dispatch =>
    match c.dispatch with
    | (c, .ok _) => (c, none)
    | (c, .error failure) => (c, some failure)
  | .frame limit =>
    match c.runFrame limit 0 with
    | (c, .failed failure) => (c, some failure)
    | (c, _) => (c, none)
  | .keyDown key => (c.keyDown key, none)
  | .keyUp key => (c.keyUp key, none)
  | .plug link => (c.plug link, none)
  | .collect => ({ c with bus.serial := c.bus.serial.takeLog.1 }, none)
  | .setNow now => (c.setNow now, none)
  | .step =>
    match c.toMachine.step with
    | (m, .ok _) => ({ c with toMachine := m }, none)
    | (m, .error failure) => ({ c with toMachine := m }, some failure)
  | .setRegisters regs => ({ c with cpu.regs := regs }, none)
  | .write addr value => ({ c with bus := c.bus.write addr value }, none)
  | .request mask => ({ c with bus := c.bus.request mask }, none)
  | .resetBus => ({ c with bus := c.bus.reset }, none)
  | .stepLcd cycles => ({ c with bus.lcd := (c.bus.lcd.step cycles).1 }, none)
  | .stepTimer cycles => ({ c with bus.timer := (c.bus.timer.step cycles).1 }, none)
  | .setOam index value => ({ c with bus.lcd := c.bus.lcd.setOam index value }, none)
  | .fillRam banks =>
    ({ c with bus.slot := c.bus.slot.map fun slot => { slot with ram := slot.ram.fill banks } },
      none)

def performAll (c : Console) (ops : List Operation) : Console :=
  ops.foldl (fun c op => (c.perform op).1) c

end Console

end DotMatrix
