import DotMatrix.Lcd.Scanline

/-!
The LCD controller in time. The modes follow one another as their durations run out; entering one
may request an interrupt, and leaving the drawing mode draws the line.
-/

namespace DotMatrix.Lcd

/-- The drawn frame is complete and changes places with the shown one. -/
def flush (lcd : Lcd) : Lcd :=
  { lcd with shown := lcd.drawn, drawn := lcd.shown, flushed := true, frames := lcd.frames + 1 }

/-- Is the display interrupt wanted on entering a mode? -/
def wantsInterrupt (lcd : Lcd) : Mode → Bool
  | .hblank => lcd.enables.bit 3
  | .vblank => lcd.enables.bit 4
  | .oamScan => lcd.enables.bit 5
  | .drawing => lcd.enables.bit 6 && lcd.line == lcd.compare

/-- Enters a mode: the controller in it and the interrupt requested on entering it. -/
def enter (lcd : Lcd) (mode : Mode) : Lcd × Byte :=
  ({ lcd with mode := mode },
    if lcd.wantsInterrupt mode then Interrupt.lcd.mask else 0)

/-- What happens when the time of a mode has run out. In the vertical blank that is the end of one
of its lines, and only the end of the last one leaves it. -/
def endMode (lcd : Lcd) : Lcd × Byte :=
  match lcd.mode with
  | .oamScan => lcd.enter .drawing
  | .drawing => lcd.drawLine.enter .hblank
  | .hblank =>
    if lcd.line.toNat = Screen.height - 1 then
      let (lcd, requests) := { lcd.flush with line := lcd.line + 1 }.enter .vblank
      (lcd, requests ||| Interrupt.vblank.mask)
    else { lcd with line := lcd.line + 1 }.enter .oamScan
  | .vblank =>
    if Screen.lastLine ≤ lcd.line.toNat then { lcd with line := 0 }.enter .oamScan
    else ({ lcd with line := lcd.line + 1 }, 0)

/-- Runs on while the time in hand, counted from the start of the mode, lasts: the controller with
the rest of the time, and the interrupts requested so far and on the way. -/
def run (lcd : Lcd) (time : Nat) (requests : Byte) : Lcd × Byte :=
  if lcd.mode.duration ≤ time then
    let (next, more) := lcd.endMode
    next.run (time - lcd.mode.duration) (requests ||| more)
  else ({ lcd with modeClock := time }, requests)
termination_by time
decreasing_by
  have := lcd.mode.duration_pos
  omega

/-- Runs for a number of machine cycles: the controller afterwards and the interrupts requested on
the way. With the display switched off nothing happens. -/
def step (lcd : Lcd) (cycles : Nat) : Lcd × Byte :=
  let lcd := { lcd with flushed := false }
  if lcd.enabled then run lcd (lcd.modeClock + cycles) 0
  else (lcd.restart .vblank, 0)

end DotMatrix.Lcd
