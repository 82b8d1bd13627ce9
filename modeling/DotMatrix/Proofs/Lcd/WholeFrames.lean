import Mathlib.Algebra.GroupWithZero.Nat
import DotMatrix.Proofs.Lcd.Write
import DotMatrix.Proofs.Snapshot.Restore

/-!
No frame is torn. What happens to the LCD controller leaves a log: when the display is switched, which
states draw a line, and which frames are completed. A frame that is completed without a break since it
began has for its rows the lines that were drawn since then, from the top to the bottom; and the frame
that is shown is the last one that was completed.
-/

namespace DotMatrix

namespace Bitmap

variable {width height : Nat}

/-- Pixels that are set one after the other from a place on. -/
theorem getElem_foldl_set {size : Nat} (start count : Nat) (line : Fin count → Pixel)
    (pixels : Vector Pixel size) {i : Nat} (inside : i < size) :
    (Fin.foldl count (fun pixels x => pixels.setIfInBounds (start + x.val) (line x)) pixels)[i] =
      if h : start ≤ i ∧ i < start + count then line ⟨i - start, by omega⟩ else pixels[i] := by
  induction count with
  | zero =>
      have empty : ¬ (start ≤ i ∧ i < start + 0) := by omega
      rw [Fin.foldl_zero, dif_neg empty]
  | succ count ih =>
      rw [Fin.foldl_succ_last, Vector.getElem_setIfInBounds inside, Fin.val_last]
      by_cases last : start + count = i
      · have here : start ≤ i ∧ i < start + (count + 1) := by omega
        have place : i - start = count := by omega
        rw [if_pos last, dif_pos here]
        simp only [place]
        rfl
      · rw [if_neg last]
        refine (ih fun x => line x.castSucc).trans ?_
        by_cases before : start ≤ i ∧ i < start + count
        · have here : start ≤ i ∧ i < start + (count + 1) := by omega
          rw [dif_pos before, dif_pos here]
          rfl
        · have past : ¬ (start ≤ i ∧ i < start + (count + 1)) := by omega
          rw [dif_neg before, dif_neg past]

theorem getElem_setRow (b : Bitmap width height) (y : Nat) (line : Vector Pixel width) {i : Nat}
    (inside : i < width * height) :
    (b.setRow y line).pixels[i] =
      if h : y * width ≤ i ∧ i < y * width + width then line.get ⟨i - y * width, by omega⟩
      else b.pixels[i] :=
  getElem_foldl_set (y * width) width line.get b.pixels inside

theorem size_row (b : Bitmap width height) {y : Nat} (inside : y < height) :
    (b.row y).size = width := by
  have bottom : (y + 1) * width ≤ width * height := by
    rw [Nat.mul_comm width height]
    exact Nat.mul_le_mul_right width inside
  rw [row, Array.size_extract, b.pixels.size_toArray, Nat.min_eq_left bottom, Nat.add_mul,
    Nat.one_mul, Nat.add_sub_cancel_left]

theorem row_setRow (b : Bitmap width height) {y : Nat} (inside : y < height)
    (line : Vector Pixel width) : (b.setRow y line).row y = line.toArray := by
  apply Array.ext
  · rw [size_row _ inside, line.size_toArray]
  · intro x _ hx
    have column : x < width := by rwa [line.size_toArray] at hx
    have here : y * width ≤ y * width + x ∧ y * width + x < y * width + width := by omega
    simp only [row, Array.getElem_extract, Vector.getElem_toArray]
    rw [getElem_setRow _ _ _ (index_lt column inside), dif_pos here]
    exact congrArg line.get (Fin.ext (Nat.add_sub_cancel_left (y * width) x))

theorem row_setRow_of_ne (b : Bitmap width height) {y other : Nat} (inside : other < height)
    (apart : other ≠ y) (line : Vector Pixel width) : (b.setRow y line).row other = b.row other := by
  apply Array.ext
  · rw [size_row _ inside, size_row _ inside]
  · intro x hx _
    have column : x < width := by rwa [size_row _ inside] at hx
    have elsewhere :
        ¬ (y * width ≤ other * width + x ∧ other * width + x < y * width + width) := by
      rintro ⟨below, above⟩
      rcases Nat.lt_or_gt_of_ne apart with less | more
      · have := Nat.mul_le_mul_right width (Nat.succ_le_of_lt less)
        rw [Nat.succ_mul] at this
        omega
      · have := Nat.mul_le_mul_right width (Nat.succ_le_of_lt more)
        rw [Nat.succ_mul] at this
        omega
    simp only [row, Array.getElem_extract, Vector.getElem_toArray]
    rw [getElem_setRow _ _ _ (index_lt column inside), dif_neg elsewhere]

end Bitmap

/-- What is done to the LCD controller. -/
inductive LcdEvent where
  | step (cycles : Nat)
  | write (addr : Word) (value : Byte)
  | setOam (index : Nat) (value : Byte)
  /-- The whole sprite memory is filled at once. -/
  | transfer (oam : Oam)
  | restore (image : LcdImage)
  | reset

/-- An entry of the log of the controller. -/
inductive Moment where
  | lit
  | dark
  /-- The drawing mode ends in a state. -/
  | drawn (lcd : Lcd)
  /-- A frame is completed, and is shown from now on. -/
  | flushed (frame : Frame)
  | restored
  | cleared

/-- How many rows of the frame at hand are drawn in a mode of a line. -/
def Mode.RowsDrawn (mode : Mode) (line count : Nat) : Prop :=
  match mode with
  | oamScan | drawing => line = count ∧ count < Screen.height
  | hblank => line + 1 = count ∧ count ≤ Screen.height
  | vblank => count = 0 ∧ line ≤ Screen.lastLine

namespace Lcd

def apply (lcd : Lcd) : LcdEvent → Lcd
  | .step cycles => (lcd.step cycles).1
  | .write addr value => lcd.write addr value
  | .setOam index value => lcd.setOam index value
  | .transfer oam => { lcd with oam := oam }
  | .restore image =>
    match lcd.restore image with
    | .ok next => next
    | .error _ => lcd
  | .reset => lcd.reset

def applyAll (lcd : Lcd) (events : List LcdEvent) : Lcd :=
  events.foldl apply lcd

/-- The entries for the end of a mode. -/
def endMoments (lcd : Lcd) : List Moment :=
  match lcd.mode with
  | .drawing => [.drawn lcd]
  | .hblank => if lcd.endMode.1.frames = lcd.frames then [] else [.flushed lcd.endMode.1.shown]
  | .oamScan | .vblank => []

/-- The entries for a run, the last one first. -/
def runMoments (lcd : Lcd) (time : Nat) : List Moment :=
  if lcd.mode.duration ≤ time then
    lcd.endMode.1.runMoments (time - lcd.mode.duration) ++ lcd.endMoments
  else []
termination_by time
decreasing_by
  have := lcd.mode.duration_pos
  omega

/-- The entries for an event, the last one first. -/
def moments (lcd : Lcd) : LcdEvent → List Moment
  | .step cycles =>
    if lcd.enabled then { lcd with flushed := false }.runMoments (lcd.modeClock + cycles) else []
  | .write addr value =>
    match lcd.enabled, (lcd.write addr value).enabled with
    | false, true => [.lit]
    | true, false => [.dark]
    | _, _ => []
  | .setOam _ _ | .transfer _ => []
  | .restore image =>
    match lcd.restore image with
    | .ok _ => [.restored]
    | .error _ => []
  | .reset => [.cleared]

/-- The log of some events, the last entry first. -/
def log (lcd : Lcd) : List LcdEvent → List Moment
  | [] => []
  | event :: rest => (lcd.apply event).log rest ++ lcd.moments event

/-- The states that have drawn a line since the frame at hand began, first to last. A frame begins when
the display is switched on and when the frame before it is complete, and it counts no longer once
something has come between. -/
def sinceBegun : List Moment → Option (List Lcd)
  | [] => none
  | .lit :: _ => some []
  | .flushed _ :: _ => some []
  | .drawn lcd :: earlier => (sinceBegun earlier).map (· ++ [lcd])
  | .dark :: _ => none
  | .restored :: _ => none
  | .cleared :: _ => none

/-- The frame that is shown after a log: the last one that was completed. -/
def shownBy (first : Frame) : List Moment → Frame
  | [] => first
  | .flushed frame :: _ => frame
  | .cleared :: _ => .filled _ _ .blank
  | .lit :: earlier | .dark :: earlier | .drawn _ :: earlier | .restored :: earlier =>
    shownBy first earlier

/-- The first rows of a frame are the lines that some states compose, each at its line. -/
def Draws (states : List Lcd) (frame : Frame) : Prop :=
  ∀ (row : Nat) (h : row < states.length),
    states[row].line.toNat = row ∧ frame.row row = states[row].composeLine.toArray

theorem Draws.nil (frame : Frame) : Draws [] frame :=
  fun row h => absurd h (Nat.not_lt_zero row)

theorem drawLine_drawn {lcd : Lcd} (inside : lcd.line.toNat < Screen.height) :
    lcd.drawLine.drawn = lcd.drawn.setRow lcd.line.toNat lcd.composeLine := by
  rw [drawLine, if_pos inside]

/-- The next state draws the next row and leaves those above it. -/
theorem Draws.concat {states : List Lcd} {lcd : Lcd} (h : Draws states lcd.drawn)
    (next : lcd.line.toNat = states.length) (inside : states.length < Screen.height) :
    Draws (states ++ [lcd]) lcd.drawLine.drawn := by
  have onScreen : lcd.line.toNat < Screen.height := next ▸ inside
  intro row hrow
  rw [drawLine_drawn onScreen]
  rw [List.length_append, List.length_singleton] at hrow
  rcases Nat.lt_succ_iff_lt_or_eq.mp hrow with above | rfl
  · obtain ⟨line, same⟩ := h row above
    rw [List.getElem_append_left above]
    refine ⟨line, ?_⟩
    have other : row ≠ lcd.line.toNat := by omega
    rw [Bitmap.row_setRow_of_ne _ (Nat.lt_trans above inside) other, same]
  · rw [List.getElem_concat_length rfl]
    refine ⟨next, ?_⟩
    rw [← next]
    exact Bitmap.row_setRow _ onScreen _

/-- Every frame in a log that was completed without a break since it began is made of the lines that
were drawn since. -/
def Whole (log : List Moment) : Prop :=
  ∀ later earlier frame states, log = later ++ .flushed frame :: earlier →
    sinceBegun earlier = some states → states.length = Screen.height ∧ Draws states frame

theorem Whole.cons {log : List Moment} {moment : Moment} (h : Whole log)
    (complete : ∀ frame states, moment = .flushed frame → sinceBegun log = some states →
      states.length = Screen.height ∧ Draws states frame) : Whole (moment :: log) := by
  intro later earlier frame states split since
  cases later with
  | nil =>
      obtain ⟨head, tail⟩ := List.cons.inj split
      exact complete frame states head (tail ▸ since)
  | cons first rest => exact h rest earlier frame states (List.cons.inj split).2 since

/-- The frame at hand is made of the lines that some states have drawn. -/
structure Drawing (states : List Lcd) (lcd : Lcd) : Prop where
  lit : lcd.enabled = true
  rows : lcd.mode.RowsDrawn lcd.line.toNat states.length
  drawn : Draws states lcd.drawn

/-- The log says what has come of the controller, which showed some frame at first. -/
structure Logged (first : Frame) (log : List Moment) (lcd : Lcd) : Prop where
  whole : Whole log
  drawing : ∀ states, sinceBegun log = some states → lcd.Drawing states
  shown : lcd.shown = shownBy first log

section Logged

variable {first : Frame} {log : List Moment} {lcd lcd' : Lcd} {states : List Lcd}

theorem Drawing.congr (h : lcd.Drawing states) (enabled : lcd'.enabled = lcd.enabled)
    (mode : lcd'.mode = lcd.mode) (line : lcd'.line = lcd.line) (drawn : lcd'.drawn = lcd.drawn) :
    lcd'.Drawing states := by
  refine ⟨enabled.trans h.lit, ?_, drawn ▸ h.drawn⟩
  rw [mode, line]
  exact h.rows

theorem Logged.congr (h : lcd.Logged first log) (enabled : lcd'.enabled = lcd.enabled)
    (mode : lcd'.mode = lcd.mode) (line : lcd'.line = lcd.line) (drawn : lcd'.drawn = lcd.drawn)
    (shown : lcd'.shown = lcd.shown) : lcd'.Logged first log :=
  ⟨h.whole, fun states since => (h.drawing states since).congr enabled mode line drawn,
    shown.trans h.shown⟩

theorem start_logged (lcd : Lcd) : lcd.Logged lcd.shown [] := by
  refine ⟨?_, fun states since => ?_, rfl⟩
  · intro later earlier frame states split
    exact absurd split (by simp)
  · cases since

theorem Drawing.rowsIn (h : lcd.Drawing states) {mode : Mode} (hmode : lcd.mode = mode) :
    mode.RowsDrawn lcd.line.toNat states.length :=
  hmode ▸ h.rows

/-- The end of a mode that leaves the log and both pictures alone. -/
theorem Logged.endMode (h : lcd.Logged first log) (silent : lcd.endMoments = [])
    (drawn : lcd.endMode.1.drawn = lcd.drawn) (shown : lcd.endMode.1.shown = lcd.shown)
    (rows : ∀ states, lcd.Drawing states →
      lcd.endMode.1.mode.RowsDrawn lcd.endMode.1.line.toNat states.length) :
    lcd.endMode.1.Logged first (lcd.endMoments ++ log) := by
  rw [silent, List.nil_append]
  refine ⟨h.whole, fun states since => ?_, shown.trans h.shown⟩
  have drawing := h.drawing states since
  refine ⟨?_, rows states drawing, drawn ▸ drawing.drawn⟩
  rw [enabled, endMode_control]
  exact drawing.lit

theorem scan_logged (h : lcd.Logged first log) (hmode : lcd.mode = .oamScan) :
    lcd.endMode.1.Logged first (lcd.endMoments ++ log) := by
  refine h.endMode ?_ ?_ ?_ ?_
  · simp only [endMoments, hmode]
  · simp only [Lcd.endMode, hmode, enter]
  · simp only [Lcd.endMode, hmode, enter]
  · intro states drawing
    have rows := drawing.rowsIn hmode
    simp only [Lcd.endMode, hmode, enter]
    exact rows

/-- The end of the drawing mode draws the next row. -/
theorem drawing_logged (h : lcd.Logged first log) (hmode : lcd.mode = .drawing) :
    lcd.endMode.1.Logged first (lcd.endMoments ++ log) := by
  have entry : lcd.endMoments = [.drawn lcd] := by simp only [endMoments, hmode]
  have next : lcd.endMode.1 = { lcd.drawLine with mode := .hblank } := by
    simp only [Lcd.endMode, hmode, enter]
  rw [entry, next]
  refine ⟨h.whole.cons ?_, ?_, ?_⟩
  · intro frame states other
    cases other
  · intro states since
    have appended : (sinceBegun log).map (· ++ [lcd]) = some states := since
    obtain ⟨before, begun, rfl⟩ := Option.map_eq_some_iff.mp appended
    have drawing := h.drawing before begun
    obtain ⟨place, inside⟩ := drawing.rowsIn hmode
    refine ⟨?_, ?_, drawing.drawn.concat place inside⟩
    · exact (congrArg (fun control : Byte => control.bit 7) (drawLine_control lcd)).trans drawing.lit
    · rw [List.length_append, List.length_singleton]
      refine ⟨?_, inside⟩
      change lcd.drawLine.line.toNat + 1 = before.length + 1
      rw [drawLine_line, place]
  · have same : lcd.drawLine.shown = lcd.shown := by
      unfold drawLine
      split <;> rfl
    exact same.trans h.shown

/-- The end of the last pause of the screen completes the frame; that of another one goes to the next
line. -/
theorem hblank_logged (h : lcd.Logged first log) (lit : lcd.enabled = true)
    (hmode : lcd.mode = .hblank) :
    lcd.endMode.1.Logged first (lcd.endMoments ++ log) := by
  by_cases last : lcd.line.toNat = Screen.height - 1
  · have next : lcd.endMode.1 = { lcd.flush with line := lcd.line + 1, mode := .vblank } := by
      simp only [Lcd.endMode, hmode, last, enter, if_true]
    have counted : lcd.frames + 1 ≠ lcd.frames := Nat.succ_ne_self _
    have entry : lcd.endMoments = [.flushed lcd.drawn] := by
      simp only [endMoments, hmode, next, flush, counted, if_false]
    rw [entry, next]
    refine ⟨h.whole.cons ?_, ?_, rfl⟩
    · intro frame states complete since
      obtain rfl := Moment.flushed.inj complete
      have drawing := h.drawing states since
      obtain ⟨place, -⟩ := drawing.rowsIn hmode
      rw [last] at place
      exact ⟨place.symm, drawing.drawn⟩
    · intro states since
      obtain rfl := Option.some.inj since
      refine ⟨lit, ⟨rfl, ?_⟩, Draws.nil _⟩
      change (lcd.line + 1).toNat ≤ Screen.lastLine
      rw [UInt8.toNat_add, last]
      decide
  · have next : lcd.endMode.1 = { lcd with line := lcd.line + 1, mode := .oamScan } := by
      simp only [Lcd.endMode, hmode, last, enter, if_false]
    refine h.endMode ?_ ?_ ?_ ?_
    · simp only [endMoments, hmode, next, if_true]
    · rw [next]
    · rw [next]
    · intro states drawing
      obtain ⟨place, most⟩ := drawing.rowsIn hmode
      unfold Screen.height at last most
      have small : lcd.line.toNat ≤ Screen.lastLine := by
        unfold Screen.lastLine
        omega
      rw [next]
      refine ⟨(toNat_line_succ small).trans place, ?_⟩
      unfold Screen.height
      omega

theorem vblank_logged (h : lcd.Logged first log) (hmode : lcd.mode = .vblank) :
    lcd.endMode.1.Logged first (lcd.endMoments ++ log) := by
  have silent : lcd.endMoments = [] := by simp only [endMoments, hmode]
  by_cases last : Screen.lastLine ≤ lcd.line.toNat
  · have next : lcd.endMode.1 = { lcd with line := 0, mode := .oamScan } := by
      simp only [Lcd.endMode, hmode, last, enter, if_true]
    refine h.endMode silent ?_ ?_ ?_
    · rw [next]
    · rw [next]
    · intro states drawing
      obtain ⟨none, -⟩ := drawing.rowsIn hmode
      rw [next, none]
      exact ⟨rfl, by decide⟩
  · have next : lcd.endMode.1 = { lcd with line := lcd.line + 1 } := by
      simp only [Lcd.endMode, hmode, last, if_false]
    refine h.endMode silent ?_ ?_ ?_
    · rw [next]
    · rw [next]
    · intro states drawing
      obtain ⟨none, below⟩ := drawing.rowsIn hmode
      rw [next]
      dsimp only
      rw [hmode, toNat_line_succ below]
      exact ⟨none, by omega⟩

theorem endMode_logged (h : lcd.Logged first log) (lit : lcd.enabled = true) :
    lcd.endMode.1.Logged first (lcd.endMoments ++ log) := by
  cases hmode : lcd.mode with
  | oamScan => exact scan_logged h hmode
  | drawing => exact drawing_logged h hmode
  | hblank => exact hblank_logged h lit hmode
  | vblank => exact vblank_logged h hmode

theorem run_logged (h : lcd.Logged first log) (lit : lcd.enabled = true) (time : Nat)
    (requests : Byte) :
    (lcd.run time requests).1.Logged first (lcd.runMoments time ++ log) := by
  induction time using Nat.strongRecOn generalizing lcd log requests with
  | ind time ih =>
      rw [run_eq, runMoments]
      split
      · next enough =>
          have shorter : time - lcd.mode.duration < time := by
            have := lcd.mode.duration_pos
            omega
          have still : lcd.endMode.1.enabled = true := by
            rw [enabled, endMode_control]
            exact lit
          rw [List.append_assoc]
          exact ih _ shorter (endMode_logged h lit) still _
      · next short => exact h.congr rfl rfl rfl rfl rfl

theorem write_pictures (lcd : Lcd) (addr : Word) (value : Byte) :
    (lcd.write addr value).drawn = lcd.drawn ∧ (lcd.write addr value).shown = lcd.shown := by
  unfold write
  split
  · exact ⟨rfl, rfl⟩
  · split
    · exact ⟨rfl, rfl⟩
    · unfold writeRegister
      split
      · unfold setControl
        split <;> exact ⟨rfl, rfl⟩
      all_goals exact ⟨rfl, rfl⟩

theorem write_cases (lcd : Lcd) (addr : Word) (value : Byte) :
    lcd.Abreast (lcd.write addr value) ∨ lcd.Switched (lcd.write addr value) := by
  by_cases control : addr = 0xFF40
  · subst control
    rcases lcd.setControl_cases value with ⟨-, abreast⟩ | ⟨-, switched⟩
    · exact Or.inl abreast
    · exact Or.inr switched
  · exact Or.inl (lcd.write_abreast control value)

/-- A write begins a frame, gives one up or leaves it at its place. -/
theorem write_logged (h : lcd.Logged first log) (addr : Word) (value : Byte) :
    (lcd.write addr value).Logged first (lcd.moments (.write addr value) ++ log) := by
  obtain ⟨drawn, shown⟩ := lcd.write_pictures addr value
  rcases lcd.write_cases addr value with abreast | switched
  · have silent : lcd.moments (.write addr value) = [] := by
      rw [moments, abreast.enabled]
      cases lcd.enabled <;> rfl
    rw [silent]
    exact h.congr abreast.enabled abreast.mode abreast.line drawn shown
  · have shows := shown.trans h.shown
    cases on : lcd.enabled with
    | true =>
        have off : (lcd.write addr value).enabled = false := by rw [switched.enabled, on]; rfl
        have entry : lcd.moments (.write addr value) = [.dark] := by rw [moments, on, off]
        rw [entry]
        refine ⟨h.whole.cons ?_, ?_, shows⟩
        · intro frame states other
          cases other
        · intro states since
          cases since
    | false =>
        have lit : (lcd.write addr value).enabled = true := by rw [switched.enabled, on]; rfl
        have entry : lcd.moments (.write addr value) = [.lit] := by rw [moments, on, lit]
        rw [entry]
        refine ⟨h.whole.cons ?_, ?_, shows⟩
        · intro frame states other
          cases other
        · intro states since
          obtain rfl := Option.some.inj since
          refine ⟨lit, ?_, Draws.nil _⟩
          rw [switched.mode, lit, switched.line]
          exact ⟨rfl, by decide⟩

theorem apply_logged (h : lcd.Logged first log) (event : LcdEvent) :
    (lcd.apply event).Logged first (lcd.moments event ++ log) := by
  cases event with
  | step cycles =>
      change (lcd.step cycles).1.Logged _ _
      rcases lcd.step_cases cycles with ⟨lit, hstep⟩ | ⟨off, hstep⟩
      · have ready : ({ lcd with flushed := false } : Lcd).Logged first log :=
          h.congr rfl rfl rfl rfl rfl
        rw [hstep, moments, if_pos lit]
        exact run_logged ready lit _ 0
      · rw [hstep, moments, if_neg (Bool.eq_false_iff.mp off), List.nil_append]
        refine ⟨h.whole, fun states since => ?_, h.shown⟩
        have lit := (h.drawing states since).lit
        exact absurd (off.symm.trans lit) Bool.false_ne_true
  | write addr value => exact write_logged h addr value
  | setOam index value => exact h.congr rfl rfl rfl rfl rfl
  | transfer oam => exact h.congr rfl rfl rfl rfl rfl
  | restore image =>
      cases hrestore : lcd.restore image with
      | error failure => simpa only [apply, moments, hrestore, List.nil_append] using h
      | ok next =>
          have pictures : next.shown = lcd.shown := by
            obtain ⟨-, rfl⟩ := restore_ok_iff.mp hrestore
            unfold restored
            rfl
          simp only [apply, moments, hrestore]
          refine ⟨h.whole.cons ?_, ?_, pictures.trans h.shown⟩
          · intro frame states other
            cases other
          · intro states since
            cases since
  | reset =>
      have blank : lcd.reset.shown = shownBy first (.cleared :: log) := by simp only [reset, shownBy]
      refine ⟨h.whole.cons ?_, ?_, blank⟩
      · intro frame states other
        cases other
      · intro states since
        cases since

theorem applyAll_logged (h : lcd.Logged first log) (events : List LcdEvent) :
    (lcd.applyAll events).Logged first (lcd.log events ++ log) := by
  induction events generalizing lcd log with
  | nil => exact h
  | cons event rest ih =>
      rw [Lcd.log, List.append_assoc]
      exact ih (apply_logged h event)

end Logged

/-- Whatever is done to the controller, a frame that is completed without a break since the display was
switched on or the frame before it was complete has the lines that were drawn since then for its rows, all
of them in order; and nothing but the completion of a frame and a reset changes what is shown. -/
theorem frames_whole (lcd : Lcd) (events : List LcdEvent) :
    (∀ later earlier frame states, lcd.log events = later ++ .flushed frame :: earlier →
      sinceBegun earlier = some states →
      states.length = Screen.height ∧
        ∀ (row : Nat) (h : row < states.length),
          states[row].line.toNat = row ∧ frame.row row = states[row].composeLine.toArray) ∧
    (lcd.applyAll events).shown = shownBy lcd.shown (lcd.log events) := by
  have logged := applyAll_logged (start_logged lcd) events
  rw [List.append_nil] at logged
  exact ⟨logged.whole, logged.shown⟩

/-- The display is switched on, the palette is changed in the middle of the frame, and the display is
switched off after it. -/
def repaint : List LcdEvent :=
  [.write 0xFF40 0x81, .step 5000, .write 0xFF47 0xE4, .step 11416, .write 0xFF40 0x01]

/-- Does a log end with the display switched off right after a whole frame? -/
def endsWhole : List Moment → Bool
  | .dark :: .flushed _ :: earlier => (sinceBegun earlier).isSome
  | _ => false

theorem frames_whole_repaint :
    ∃ earlier frame states, initial.log repaint = [.dark] ++ .flushed frame :: earlier ∧
      sinceBegun earlier = some states ∧ states.length = Screen.height ∧
      (∀ (row : Nat) (h : row < states.length),
        states[row].line.toNat = row ∧ frame.row row = states[row].composeLine.toArray) ∧
      (initial.applyAll repaint).shown = frame := by
  have ends : endsWhole (initial.log repaint) = true := by decide +kernel
  unfold endsWhole at ends
  split at ends
  · next frame earlier hlog =>
      obtain ⟨states, since⟩ := Option.isSome_iff_exists.mp ends
      obtain ⟨whole, shown⟩ := frames_whole initial repaint
      rw [hlog] at shown
      obtain ⟨count, rows⟩ := whole [.dark] earlier frame states hlog since
      exact ⟨earlier, frame, states, hlog, since, count, rows, shown⟩
  · cases ends

end Lcd

end DotMatrix
