import DotMatrix.Proofs.Console.FrameByFrame
import DotMatrix.Proofs.Headless.Ready

/-!
A session from its frames. It goes from frame to frame until the marker has been sent or a limit is
reached, and it ends with the first frame after which that is so, unless one fails before. What has been
echoed by then is the serial output as it was after the last frame that was complete.
-/

namespace DotMatrix

theorem occursIn_iff {needle hay : List Byte} : occursIn needle hay = true ↔ needle <:+: hay := by
  induction hay with
  | nil => rw [occursIn, List.isEmpty_iff, List.infix_nil]
  | cons b rest ih =>
      rw [occursIn, Bool.or_eq_true, List.isPrefixOf_iff_prefix, ih, List.infix_cons_iff]

theorem containsBytes_iff {hay needle : Array Byte} :
    containsBytes hay needle = true ↔ needle ≠ #[] ∧ needle.toList <:+: hay.toList := by
  rw [containsBytes, Bool.and_eq_true, occursIn_iff]
  simp

namespace Settings

/-- Has the console sent the text that is waited for? An empty text is never sent. -/
def MarkerSent (settings : Settings) (c : Console) : Prop :=
  ∃ text, settings.marker = some text ∧ text ≠ "" ∧
    text.toUTF8.data.toList <:+: c.bus.serial.log.toList

theorem utf8_eq_empty_iff {text : String} : text.toUTF8.data = #[] ↔ text = "" := by
  rw [← ByteArray.data_empty, ← ByteArray.ext_iff]
  exact String.toByteArray_eq_empty_iff

/-- As long as nothing has been sent, the text that is waited for has not been. -/
theorem not_markerSent {settings : Settings} {c : Console} (silent : c.bus.serial.log = #[]) :
    ¬ settings.MarkerSent c := by
  rintro ⟨text, -, some, occurs⟩
  rw [silent] at occurs
  exact some (utf8_eq_empty_iff.mp (Array.toList_eq_nil_iff.mp (List.infix_nil.mp occurs)))

theorem MarkerSent.mono {settings : Settings} {c c' : Console} (h : settings.MarkerSent c)
    (grows : c.bus.serial.log.toList <+: c'.bus.serial.log.toList) : settings.MarkerSent c' := by
  obtain ⟨text, asked, some, occurs⟩ := h
  exact ⟨text, asked, some, occurs.trans grows.isInfix⟩

/-- Is a limit reached after a number of frames? -/
def LimitReached (settings : Settings) (frames : Nat) (c : Console) : Prop :=
  (∃ limit, settings.frames = some limit ∧ limit ≤ frames) ∨
    ∃ limit, settings.maxCycles = some limit ∧ limit ≤ c.cpu.cycles.total

/-- Is there a reason to end a session after a number of frames? -/
def Ends (settings : Settings) (frames : Nat) (c : Console) : Prop :=
  settings.MarkerSent c ∨ settings.LimitReached frames c

/-- The session has its first reason to end after a number of frames. -/
structure FirstEnd (settings : Settings) (clock : Nat → UInt64) (start : Console) (frames : Nat)
    (c : Console) : Prop where
  led : start.FramesTo clock frames c
  once : 1 ≤ frames
  ends : settings.Ends frames c
  first : ∀ fewer earlier, 1 ≤ fewer → fewer < frames → start.FramesTo clock fewer earlier →
    ¬ settings.Ends fewer earlier

theorem markerBytes_any (settings : Settings) (c : Console) :
    (settings.marker.map fun text => text.toUTF8.data).any (containsBytes c.bus.serial.log) = true ↔
      settings.MarkerSent c := by
  rw [MarkerSent]
  cases settings.marker with
  | none => simp
  | some text =>
      simp only [Option.map_some, Option.any_some, containsBytes_iff, ne_eq, utf8_eq_empty_iff,
        Option.some.injEq, exists_eq_left']

theorem limits_any (settings : Settings) (frames : Nat) (c : Console) :
    (settings.frames.any (· ≤ frames) = true ∨
      settings.maxCycles.any (· ≤ c.cpu.cycles.total) = true) ↔
      settings.LimitReached frames c := by
  simp only [LimitReached, Option.any_eq_true, decide_eq_true_eq]

end Settings

/-- The verdict that a session comes to with a console. -/
def Verdict.Fits (settings : Settings) (c : Console) : Verdict → Prop
  | markerSeen => settings.MarkerSent c
  | markerMissing => settings.marker.isSome = true ∧ ¬ settings.MarkerSent c
  | limitReached => settings.marker = none

namespace Session

variable {settings : Settings} {clock : Nat → UInt64} {s : Session} {c' : Console} {patience : Nat}

/-- There is a verdict if there is a reason to end, and then it is the one that fits. -/
theorem verdict?_cases (s : Session) (settings : Settings) :
    (∃ verdict, s.verdict? settings = some verdict ∧ settings.Ends s.frames s.console ∧
      verdict.Fits settings s.console) ∨
    (s.verdict? settings = none ∧ ¬ settings.Ends s.frames s.console) := by
  have marker := settings.markerBytes_any s.console
  have limits := settings.limits_any s.frames s.console
  simp only [verdict?]
  by_cases sent : settings.MarkerSent s.console
  · left
    exact ⟨.markerSeen, if_pos (marker.mpr sent), Or.inl sent, sent⟩
  · rw [if_neg (mt marker.mp sent)]
    by_cases limit : settings.LimitReached s.frames s.console
    · left
      rw [if_pos (limits.mpr limit)]
      cases hmarker : settings.marker with
      | none => exact ⟨.limitReached, rfl, Or.inr limit, hmarker⟩
      | some text =>
          have asked : settings.marker.isSome = true := by rw [hmarker]; rfl
          exact ⟨.markerMissing, rfl, Or.inr limit, asked, sent⟩
    · right
      rw [if_neg (mt limits.mp limit)]
      exact ⟨rfl, fun ends => ends.elim sent limit⟩

/-- The session after a frame, before its output is echoed. -/
def count (s : Session) (c' : Console) : Session :=
  { s with console := c', frames := s.frames + 1 }

/-- The session after a frame. -/
def next (s : Session) (settings : Settings) (c' : Console) : Session :=
  { s.count c' with echoed := s.echoed + ((s.count c').newOutput settings).size }

/-- What a frame comes to that ends a session after others that did not. -/
inductive EndsAfter (settings : Settings) (clock : Nat → UInt64) (patience : Nat) (last : Session)
    (before : Array Byte) :
    Session × Array Byte × Ending → Prop where
  | limit : EndsAfter settings clock patience last before (last, before, .unfinished)
  | unfinished {c' : Console} (runs : last.console.runFrameAt clock patience 0 = (c', .unfinished)) :
      EndsAfter settings clock patience last before ({ last with console := c' }, before, .unfinished)
  | failed {c' : Console} {failure : Failure}
      (runs : last.console.runFrameAt clock patience 0 = (c', .failed failure)) :
      EndsAfter settings clock patience last before ({ last with console := c' }, before, .failed failure)
  | verdict {c' : Console} {verdict : Verdict} (led : last.console.FrameTo clock c')
      (decided : (last.next settings c').verdict? settings = some verdict) :
      EndsAfter settings clock patience last before
        (last.next settings c', before ++ (last.count c').newOutput settings, .verdict verdict)

theorem frame_of_completes (settings : Settings) {ending : Console.FrameEnd}
    (runs : s.console.runFrameAt clock patience 0 = (c', ending)) (completes : ending.completes = true) :
    s.frame settings clock patience =
      (s.next settings c', (s.count c').newOutput settings,
        ((s.next settings c').verdict? settings).map .verdict) := by
  simp only [frame, runs]
  cases ending with
  | flushed | dark => rfl
  | failed | unfinished => cases completes

/-- A frame leads to the next session, or it ends the session. -/
theorem frame_cases (s : Session) (settings : Settings) (clock : Nat → UInt64) (patience limit : Nat)
    (echo : Array Byte) :
    (∃ c', s.console.FrameTo clock c' ∧ (s.next settings c').verdict? settings = none ∧
      run settings clock patience (limit + 1) s echo =
        run settings clock patience limit (s.next settings c')
          (echo ++ (s.count c').newOutput settings)) ∨
    EndsAfter settings clock patience s echo (run settings clock patience (limit + 1) s echo) := by
  rcases runs : s.console.runFrameAt clock patience 0 with ⟨c', ending⟩
  by_cases completes : ending.completes = true
  · have led : s.console.FrameTo clock c' := ⟨patience, ending, runs, completes⟩
    have hframe := frame_of_completes settings runs completes
    cases decided : (s.next settings c').verdict? settings with
    | none =>
        left
        refine ⟨c', led, decided, ?_⟩
        rw [run, hframe, decided]
        rfl
    | some verdict =>
        right
        rw [run, hframe, decided]
        exact .verdict led decided
  · right
    cases ending with
    | flushed | dark => exact absurd rfl completes
    | failed failure =>
        have hframe : s.frame settings clock patience =
            ({ s with console := c' }, #[], some (.failed failure)) := by
          simp only [frame, runs]
        rw [run, hframe]
        exact .failed runs
    | unfinished =>
        have hframe : s.frame settings clock patience =
            ({ s with console := c' }, #[], some .unfinished) := by
          simp only [frame, runs]
        rw [run, hframe]
        exact .unfinished runs

/-- What holds at first and is passed on by every frame that does not end the session holds before the
frame that does. -/
theorem run_endsAfter (settings : Settings) (clock : Nat → UInt64) (patience : Nat)
    {motive : Session → Array Byte → Prop} (echo : Array Byte) (start : motive s echo)
    (keep : ∀ s echo c', motive s echo → s.console.FrameTo clock c' →
      (s.next settings c').verdict? settings = none →
      motive (s.next settings c') (echo ++ (s.count c').newOutput settings)) (limit : Nat) :
    ∃ last before, motive last before ∧
      EndsAfter settings clock patience last before (run settings clock patience limit s echo) := by
  induction limit generalizing s echo with
  | zero => exact ⟨s, echo, start, .limit⟩
  | succ limit ih =>
      rcases frame_cases s settings clock patience limit echo with ⟨c', led, undecided, same⟩ | ends
      · rw [same]
        exact ih _ (keep s echo c' start led undecided)
      · exact ⟨s, echo, start, ends⟩

theorem frame_console (s : Session) :
    (s.frame settings clock patience).1.console = (s.console.runFrameAt clock patience 0).1 := by
  unfold frame
  split <;> next runs => rw [runs]

/-- What every dispatch and the time keep, a session keeps. -/
theorem run_induction {motive : Console → Prop} (keep : ∀ c, motive c → motive c.dispatch.1)
    (moved : ∀ c now, motive c → motive (c.setNow now)) (limit : Nat) {s : Session}
    (echo : Array Byte) (start : motive s.console) :
    motive (run settings clock patience limit s echo).1.console := by
  induction limit generalizing s echo with
  | zero => exact start
  | succ limit ih =>
      have next : motive (s.frame settings clock patience).1.console := by
        rw [frame_console]
        exact Console.runFrameAt_induction keep moved patience 0 start
      rw [run]
      split
      · next frame =>
          rw [frame] at next
          exact next
      · next frame =>
          rw [frame] at next
          exact ih _ next

/-- Frames none of which gives a reason to end lead to a session that does not depend on how many steps
each of them is allowed, if they are enough. -/
theorem run_reaches (settings : Settings) {start : Console} {frames : Nat}
    (led : start.FramesTo clock frames c')
    (silent : ∀ fewer earlier, 1 ≤ fewer → fewer ≤ frames → start.FramesTo clock fewer earlier →
      ¬ settings.Ends fewer earlier) :
    ∃ enough echoed echo, ∀ patience limit, enough ≤ patience →
      run settings clock patience (frames + limit) (.start start) #[] =
        run settings clock patience limit ⟨c', frames, echoed⟩ echo := by
  induction frames generalizing c' with
  | zero =>
      obtain rfl : c' = start := led
      refine ⟨0, 0, #[], fun patience limit _ => ?_⟩
      rw [Nat.zero_add]
      rfl
  | succ frames ih =>
      obtain ⟨before, earlier, last⟩ := led
      obtain ⟨enough, echoed, echo, reaches⟩ := ih earlier fun fewer earlier once fewerFrames =>
        silent fewer earlier once (Nat.le_succ_of_le fewerFrames)
      obtain ⟨steps, ending, completes, runs⟩ := last.enough
      let s : Session := ⟨before, frames, echoed⟩
      refine ⟨max enough steps, (s.next settings c').echoed,
        echo ++ (s.count c').newOutput settings, fun patience limit patient => ?_⟩
      have frame := frame_of_completes (s := s) settings
        (runs patience (Nat.le_trans (Nat.le_max_right _ _) patient)) completes
      have undecided : (s.next settings c').verdict? settings = none := by
        rcases verdict?_cases (s.next settings c') settings with ⟨_, -, ends, -⟩ | ⟨none, -⟩
        · exact absurd ends (silent (frames + 1) c' (Nat.le_add_left 1 frames) (Nat.le_refl _)
            ⟨before, earlier, last⟩)
        · exact none
      rw [Nat.add_assoc, Nat.add_comm 1 limit,
        reaches patience (limit + 1) (Nat.le_trans (Nat.le_max_left _ _) patient), run, frame,
        undecided]
      rfl

/-- A session ends with the first frame after which there is a reason to. -/
theorem run_of_firstEnd {start : Console} {frames : Nat}
    (h : settings.FirstEnd clock start frames c') :
    ∃ enough echoed echo verdict, verdict.Fits settings c' ∧
      ∀ patience limit, enough ≤ patience → frames ≤ limit →
        run settings clock patience limit (.start start) #[] =
          (⟨c', frames, echoed⟩, echo, .verdict verdict) := by
  obtain ⟨fewer, rfl⟩ := Nat.exists_eq_add_of_le' h.once
  obtain ⟨before, earlier, last⟩ := h.led
  obtain ⟨enough, echoed, echo, reaches⟩ := run_reaches settings earlier
    fun frames earlier once fewerFrames => h.first frames earlier once (Nat.lt_succ_of_le fewerFrames)
  obtain ⟨steps, ending, completes, runs⟩ := last.enough
  let s : Session := ⟨before, fewer, echoed⟩
  rcases verdict?_cases (s.next settings c') settings with
    ⟨verdict, decided, -, fits⟩ | ⟨-, goesOn⟩
  · refine ⟨max enough steps, (s.next settings c').echoed,
      echo ++ (s.count c').newOutput settings, verdict, fits, fun patience limit patient most => ?_⟩
    obtain ⟨rest, rfl⟩ := Nat.exists_eq_add_of_le most
    have frame := frame_of_completes (s := s) settings
      (runs patience (Nat.le_trans (Nat.le_max_right _ _) patient)) completes
    rw [Nat.add_assoc, Nat.add_comm 1 rest,
      reaches patience (rest + 1) (Nat.le_trans (Nat.le_max_left _ _) patient), run, frame, decided]
    rfl
  · exact absurd h.ends goesOn

/-- No frame so far has given a reason to end. -/
structure Undecided (settings : Settings) (clock : Nat → UInt64) (start : Console) (s : Session) :
    Prop where
  led : start.FramesTo clock s.frames s.console
  silent : ∀ fewer earlier, 1 ≤ fewer → fewer ≤ s.frames → start.FramesTo clock fewer earlier →
    ¬ settings.Ends fewer earlier

theorem undecided_start (settings : Settings) (clock : Nat → UInt64) (start : Console) :
    (Session.start start).Undecided settings clock start where
  led := rfl
  silent _ _ once most := absurd (Nat.le_trans once most) (Nat.not_succ_le_zero 0)

theorem Undecided.next {start : Console} (h : s.Undecided settings clock start)
    (led : s.console.FrameTo clock c') (none : (s.next settings c').verdict? settings = none) :
    (s.next settings c').Undecided settings clock start where
  led := ⟨s.console, h.led, led⟩
  silent fewer earlier once most ledTo := by
    rcases Nat.lt_or_eq_of_le most with before | rfl
    · exact h.silent fewer earlier once (Nat.le_of_lt_succ before) ledTo
    · obtain rfl : earlier = c' := ledTo.unique ⟨s.console, h.led, led⟩
      rcases verdict?_cases (s.next settings earlier) settings with ⟨_, decided, -⟩ | ⟨-, goesOn⟩
      · rw [none] at decided
        cases decided
      · exact goesOn

/-- A session that comes to a verdict does so after the first frame with a reason to end. -/
theorem firstEnd_of_run {start : Console} {patience limit : Nat} {echo : Array Byte}
    {verdict : Verdict}
    (ends : run settings clock patience limit (.start start) #[] = (s, echo, .verdict verdict)) :
    settings.FirstEnd clock start s.frames s.console ∧ verdict.Fits settings s.console := by
  obtain ⟨last, before, h, endsAfter⟩ :=
    run_endsAfter settings clock patience (motive := fun s _ => s.Undecided settings clock start) #[]
      (undecided_start settings clock start) (fun _ _ _ h led none => h.next led none) limit
  rw [ends] at endsAfter
  cases endsAfter with
  | verdict led decided =>
      rcases verdict?_cases (last.next settings _) settings with
        ⟨_, same, reason, fits⟩ | ⟨none, -⟩
      · obtain rfl := Option.some.inj (decided.symm.trans same)
        refine ⟨⟨⟨last.console, h.led, led⟩, Nat.le_add_left 1 _, reason, ?_⟩, fits⟩
        intro fewer earlier once before
        exact h.silent fewer earlier once (Nat.le_of_lt_succ before)
      · rw [decided] at none
        cases none

/-- All that has been sent has been echoed. -/
structure Echoed (clock : Nat → UInt64) (start : Console) (s : Session) (echo : Array Byte) : Prop where
  led : start.FramesTo clock s.frames s.console
  shown : echo = s.console.bus.serial.log
  counted : s.echoed = echo.size

theorem append_extract {before after : Array Byte} (grows : before.toList <+: after.toList) :
    before ++ after.extract before.size after.size = after := by
  obtain ⟨more, same⟩ := grows
  obtain rfl : before ++ more.toArray = after := by
    apply Array.toList_inj.mp
    rw [Array.toList_append, ← same]
  simp

/-- After each frame the new output is echoed, and nothing else. -/
theorem Echoed.next {start : Console} {echo : Array Byte} (h : s.Echoed clock start echo)
    (on : settings.echoSerial = true) (led : s.console.FrameTo clock c') :
    (s.next settings c').Echoed clock start (echo ++ (s.count c').newOutput settings) := by
  have output : (s.count c').newOutput settings =
      c'.bus.serial.log.extract s.echoed c'.bus.serial.log.size := by
    simp only [newOutput, on, if_true]
    rfl
  have all : echo ++ (s.count c').newOutput settings = c'.bus.serial.log := by
    rw [output, h.counted, h.shown]
    exact append_extract led.log
  refine ⟨⟨s.console, h.led, led⟩, all, ?_⟩
  rw [Array.size_append, ← h.counted]
  rfl

end Session

namespace Headless

section Main

variable {rom : String} {image battery : ReadResult} {settings : Settings} {now : UInt64}
  {c : Console}

/-- A session that comes to a verdict has echoed the whole serial output. One that fails has echoed the
output up to the last frame that was complete, but none of what was sent in the frame that failed. -/
theorem echo_upTo_failure (ready : prepare rom image battery settings now = .ok c)
    (on : settings.echoSerial = true) (clock : Nat → UInt64) (patience limit : Nat) :
    let (s, echo, ending) := Session.run settings clock patience limit (.start c) #[]
    (∀ verdict, ending = .verdict verdict → echo = s.console.bus.serial.log) ∧
    ∀ failure, ending = .failed failure →
      ∃ last lost, c.FramesTo clock s.frames last ∧
        last.runFrameAt clock patience 0 = (s.console, .failed failure) ∧
        echo = last.bus.serial.log ∧ s.console.bus.serial.log = echo ++ lost := by
  have start : (Session.start c).Echoed clock c #[] := ⟨rfl, (prepare_log ready).symm, rfl⟩
  obtain ⟨last, before, echoed, endsAfter⟩ :=
    Session.run_endsAfter settings clock patience (motive := Session.Echoed clock c) #[] start
      (fun _ _ _ echoed led _ => echoed.next on led) limit
  generalize Session.run settings clock patience limit (.start c) #[] = result at endsAfter ⊢
  cases endsAfter with
  | limit | unfinished runs =>
      refine ⟨fun verdict other => ?_, fun failure other => ?_⟩ <;> cases other
  | verdict led decided =>
      refine ⟨fun _ _ => (echoed.next on led).shown, fun failure other => ?_⟩
      cases other
  | @failed c' failure runs =>
      refine ⟨fun verdict other => ?_, fun failure' same => ?_⟩
      · cases other
      · obtain rfl := Ending.failed.inj same
        obtain ⟨lost, grown⟩ := last.console.runFrameAt_log clock patience 0
        rw [runs] at grown
        refine ⟨last.console, lost.toArray, echoed.led, runs, echoed.shown, ?_⟩
        apply Array.toList_inj.mp
        rw [Array.toList_append, echoed.shown, ← grown]

/-- A console that is ready for a program, without a battery file. -/
def launched (program : Array Byte) (settings : Settings) : Except Result Console :=
  prepare "game.gb" (.ok (Console.programImage program)) (.error .missing) settings 0

/-- A program that sends a byte and goes on to an opcode that does not exist. -/
def sendAndFail : Array Byte :=
  #[0x3E, 0x41, 0xE0, 0x01, 0x3E, 0x81, 0xE0, 0x02, 0xDD]

def echoing : Settings :=
  { Settings.default with echoSerial := true }

/-- A wall clock that goes on by a second with every eight cycles. -/
def ticking (cycles : Nat) : UInt64 := .ofNat (cycles / 8)

theorem sendAndFail_fails :
    (launched sendAndFail echoing).toOption.map (fun c =>
      let (s, echo, ending) := Session.run echoing ticking 10 10 (.start c) #[]
      (s.frames, echo, s.console.bus.serial.log, ending)) =
      some (0, #[], #[0x41], .failed (.undefinedOpcode 0xDD 0x0108)) := by decide +kernel

theorem sendAndFail_ready :
    ∃ c s, launched sendAndFail echoing = .ok c ∧
      Session.run echoing ticking 10 10 (.start c) #[] =
        (s, #[], .failed (.undefinedOpcode 0xDD 0x0108)) ∧
      s.frames = 0 ∧ s.console.bus.serial.log = #[0x41] := by
  obtain ⟨c, ready, facts⟩ := exists_ok_of_map sendAndFail_fails
  rcases run : Session.run echoing ticking 10 10 (.start c) #[] with ⟨s, echo, ending⟩
  simp only [run, Prod.mk.injEq] at facts
  obtain ⟨none, rfl, log, rfl⟩ := facts
  exact ⟨c, s, ready, run, none, log⟩

theorem echo_upTo_failure_first :
    ∃ c failed lost, launched sendAndFail echoing = .ok c ∧
      c.runFrameAt ticking 10 0 = (failed, .failed (.undefinedOpcode 0xDD 0x0108)) ∧
      failed.bus.serial.log = #[] ++ lost := by
  obtain ⟨c, s, ready, run, first, -⟩ := sendAndFail_ready
  have upTo := echo_upTo_failure ready rfl ticking 10 10
  rw [run] at upTo
  obtain ⟨last, lost, led, runs, -, log⟩ := upTo.2 _ rfl
  rw [first] at led
  obtain rfl : last = c := led
  exact ⟨last, s.console, lost, ready, runs, log⟩

/-- The byte that was sent in the frame that fails is not echoed. -/
theorem echo_incomplete :
    ∃ c s failure, launched sendAndFail echoing = .ok c ∧
      Session.run echoing ticking 10 10 (.start c) #[] = (s, #[], .failed failure) ∧
      s.console.bus.serial.log = #[0x41] := by
  obtain ⟨c, s, ready, run, -, log⟩ := sendAndFail_ready
  exact ⟨c, s, _, ready, run, log⟩

/-- A session ends with a verdict after the first frame, if there is one, after which the marker has been
sent or a limit is reached; the verdict is that the marker was seen if it has been sent by then, and else
that it is missing if one was waited for. What has been sent only grows, so a marker that is missing was
not there after any of the frames. -/
theorem verdict_at_firstEnd (ready : prepare rom image battery settings now = .ok c)
    (clock : Nat → UInt64) :
    c.bus.serial.log = #[] ∧
    (∀ frames before after, c.FramesTo clock frames before →
      c.FramesTo clock (frames + 1) after →
      before.bus.serial.log.toList <+: after.bus.serial.log.toList) ∧
    (∀ patience limit s echo verdict,
      Session.run settings clock patience limit (.start c) #[] = (s, echo, .verdict verdict) →
      settings.FirstEnd clock c s.frames s.console ∧ verdict.Fits settings s.console ∧
      (verdict = .markerMissing → ∀ frames earlier, frames ≤ s.frames →
        c.FramesTo clock frames earlier → ¬ settings.MarkerSent earlier)) ∧
    ∀ frames last, settings.FirstEnd clock c frames last →
      ∃ enough echoed echo verdict, verdict.Fits settings last ∧
        ∀ patience limit, enough ≤ patience → frames ≤ limit →
          Session.run settings clock patience limit (.start c) #[] =
            (⟨last, frames, echoed⟩, echo, .verdict verdict) := by
  refine ⟨prepare_log ready, fun frames before after led led' => ?_, ?_, ?_⟩
  · exact led.log led' (Nat.le_succ frames)
  · intro patience limit s echo verdict ends
    obtain ⟨first, fits⟩ := Session.firstEnd_of_run ends
    refine ⟨first, fits, ?_⟩
    rintro rfl frames earlier fewer led sent
    exact fits.2 (sent.mono (led.log first.led fewer))
  · intro frames last first
    exact Session.run_of_firstEnd first

/-- Waiting for a text in one frame. -/
def waiting : Settings :=
  { Settings.default with frames := some 1, marker := some "A" }

theorem spinning_ready :
    ∃ c slot, launched #[0x18, 0xFE] waiting = .ok c ∧ Console.Spins slot c := by
  have facts : (launched #[0x18, 0xFE] waiting).toOption.map (fun c =>
      ([c.stuckAt.isNone, c.cpu.resumeAt.isNone, c.lit], c.bus.enabled, c.cpu.regs.pc,
        c.bus.slot.map fun slot => [slot.read 0x100, slot.read 0x101])) =
      some ([true, true, true], 0, 0x100, some [0x18, 0xFE]) := by decide +kernel
  obtain ⟨c, ready, facts⟩ := exists_ok_of_map facts
  simp only [Prod.mk.injEq, List.cons.injEq, and_true] at facts
  obtain ⟨⟨free, up, lit⟩, disabled, pc, program⟩ := facts
  obtain ⟨slot, hslot, bytes⟩ := Option.map_eq_some_iff.mp program
  simp only [List.cons.injEq, and_true] at bytes
  obtain ⟨jump, distance⟩ := bytes
  obtain ⟨_, _, same, accepted, -⟩ := prepare_ok ready
  obtain rfl := Except.ok.inj same
  have carries := prepare_carries accepted ready
  have undisturbed : c.Undisturbed slot :=
    ⟨carries.sound, Option.isNone_iff_eq_none.mp free, hslot, disabled,
      Option.isNone_iff_eq_none.mp up⟩
  exact ⟨c, slot, ready, undisturbed, pc, jump, distance, lit⟩

theorem verdict_at_firstEnd_spinning :
    ∃ c last enough echoed echo, launched #[0x18, 0xFE] waiting = .ok c ∧
      waiting.FirstEnd ticking c 1 last ∧
      ∀ patience limit, enough ≤ patience → 1 ≤ limit →
        Session.run waiting ticking patience limit (.start c) #[] =
          (⟨last, 1, echoed⟩, echo, .verdict .markerMissing) := by
  obtain ⟨c, slot, ready, spins⟩ := spinning_ready
  obtain ⟨last, led, -, log⟩ := spins.frame ticking
  obtain ⟨empty, -, -, decides⟩ := verdict_at_firstEnd ready ticking
  have first : waiting.FirstEnd ticking c 1 last :=
    ⟨⟨c, rfl, led⟩, Nat.le_refl 1, Or.inr (Or.inl ⟨1, rfl, Nat.le_refl 1⟩),
      fun fewer _ once before => absurd before (Nat.not_lt.mpr once)⟩
  obtain ⟨enough, echoed, echo, verdict, fits, ends⟩ := decides 1 last first
  cases verdict with
  | markerSeen => exact absurd fits (Settings.not_markerSent (log.trans empty))
  | limitReached => cases fits
  | markerMissing => exact ⟨c, last, enough, echoed, echo, ready, first, ends⟩

end Main

end Headless

end DotMatrix
