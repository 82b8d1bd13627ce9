import DotMatrix.Proofs.Console.Alike

/-!
Runs while a clock goes on. An operation comes at the time that the clock shows then, and every
dispatch of a frame at a time of its own. Consoles that are alike stay so under any two clocks, until
the first store that completes a latch sequence or goes to a register of the clock chip.
-/

namespace DotMatrix

namespace Console

section Clocks

/-- The dispatches of a frame while a clock goes on, each with the time it shows then, and how the
frame ends. -/
def frameAt (clock : Nat → UInt64) (limit dark : Nat) (c : Console) : List Operation × FrameEnd :=
  match limit with
  | 0 => ([], .unfinished)
  | limit + 1 =>
    let moved := c.setNow (clock 0)
    let next := moved.dispatch.1
    let rest : List Operation × FrameEnd :=
      match moved.dispatch.2 with
      | .error failure => ([], .failed failure)
      | .ok cycles =>
        if next.bus.lcd.flushed then ([], .flushed)
        else if next.bus.lcd.enabled then frameAt (fun i => clock (i + 1)) limit 0 next
        else if Screen.frameCycles ≤ dark + cycles then ([], .dark)
        else frameAt (fun i => clock (i + 1)) limit (dark + cycles) next
    (.setNow (clock 0) :: .dispatch :: rest.1, rest.2)

/-- An operation while a clock goes on: what is done, and the answer. -/
def timedOp (clock : Nat → UInt64) (c : Console) (op : Operation) : List Operation × Answer :=
  match op with
  | .frame limit => ((c.frameAt clock limit 0).1, .frame (c.frameAt clock limit 0).2)
  | op => ([.setNow (clock 0), op], (c.setNow (clock 0)).answer op)

/-- Operations one after the other while a clock goes on: what is done, and the answers. -/
def timed (clock : Nat → Nat → UInt64) (c : Console) : List Operation → List Operation × List Answer
  | [] => ([], [])
  | op :: rest =>
    let first := c.timedOp (clock 0) op
    let later := (c.performAll first.1).timed (fun i => clock (i + 1)) rest
    (first.1 ++ later.1, first.2 :: later.2)

theorem performAll_append (c : Console) (first second : List Operation) :
    c.performAll (first ++ second) = (c.performAll first).performAll second :=
  List.foldl_append

theorem dispatch_now (c : Console) : c.dispatch.1.bus.now = c.bus.now := by
  rcases c.dispatch_outcome with passes | ⟨same, -, -⟩
  · rw [passes.bus, Bus.elapse_now, stored, Bus.writeAll_now, c.answered_now]
  · rw [same]

theorem performAll_moved (c : Console) (time : UInt64) (ops : List Operation) :
    c.performAll (.setNow time :: ops) = (c.setNow time).performAll ops := rfl

theorem pastOfAll_moved (c : Console) (time : UInt64) (ops : List Operation) :
    c.pastOfAll (.setNow time :: ops) = (c.setNow time).pastOfAll ops :=
  List.append_nil _

theorem performAll_dispatch (c : Console) (ops : List Operation) :
    c.performAll (.dispatch :: ops) = c.dispatch.1.performAll ops := by
  rw [← performDispatch_fst]
  rfl

theorem pastOfAll_dispatch (c : Console) (ops : List Operation) :
    c.pastOfAll (.dispatch :: ops) = c.dispatch.1.pastOfAll ops ++ c.pastOf .dispatch := by
  rw [← performDispatch_fst]
  rfl

/-- A frame under a clock that stands still is the frame of the console. -/
theorem frameAt_still (limit dark : Nat) (c : Console) :
    (c.performAll (c.frameAt (fun _ => c.bus.now) limit dark).1,
      (c.frameAt (fun _ => c.bus.now) limit dark).2) = c.runFrame limit dark := by
  induction limit generalizing c dark with
  | zero => rfl
  | succ limit ih =>
      have same : c.setNow c.bus.now = c := rfl
      have later (dark : Nat) := ih dark c.dispatch.1
      rw [dispatch_now] at later
      unfold frameAt
      rw [runFrame_succ]
      simp only [performAll_moved, performAll_dispatch, same]
      rcases hd : c.dispatch with ⟨c', failure | cycles⟩
      · rfl
      · rw [hd] at later
        dsimp only at later ⊢
        split_ifs
        · rfl
        · exact later 0
        · rfl
        · exact later (dark + cycles)

end Clocks

section Runs

variable {c c' : Console} {cartridge : Cartridge} {start : Slot} {past : List SlotEvent}

/-- A frame in which nothing makes the clock chip look at the wall time is the same under any
clock. -/
theorem frameAt_alike (fresh : start.Recalls cartridge []) (clock clock' : Nat → UInt64)
    (limit dark : Nat) (hslot : c.bus.slot = some (start.after past))
    (unread : cartridge.header.board.clock = true →
      Banking.Unread cartridge.header.board (c.pastOfAll (c.frameAt clock limit dark).1 ++ past))
    (alike : c.Alike c') :
    (c'.frameAt clock' limit dark).2 = (c.frameAt clock limit dark).2 ∧
      (c.performAll (c.frameAt clock limit dark).1).Alike
        (c'.performAll (c'.frameAt clock' limit dark).1) := by
  induction limit generalizing c c' clock clock' dark past with
  | zero => exact ⟨rfl, alike⟩
  | succ limit ih =>
      obtain ⟨now, synced, rfl⟩ := alike
      have moved : (c.retimed now synced).setNow (clock' 0) =
          (c.setNow (clock 0)).retimed (clock' 0) synced := rfl
      have hslot : (c.setNow (clock 0)).bus.slot = some (start.after past) := hslot
      unfold frameAt at unread ⊢
      simp only [moved, performAll_moved, pastOfAll_moved, performAll_dispatch, pastOfAll_dispatch,
        List.append_assoc] at unread ⊢
      -- from here on the time of the dispatch is the one that the console shows
      generalize c.setNow (clock 0) = c at hslot unread ⊢
      have hnext : c.dispatch.1.bus.slot =
          some (start.after (c.pastOf .dispatch ++ past)) := by
        rw [← performDispatch_fst]
        exact perform_slot hslot rfl
      simp only [dispatch_unread hslot (Slot.after_recalls fresh past)
        fun timer => (unread timer).of_append]
      rcases hd : c.dispatch with ⟨next, failure | cycles⟩
      · exact ⟨rfl, _, _, rfl⟩
      · have shown : (next.retimed (clock' 0) synced).bus.lcd = next.bus.lcd := rfl
        simp only [hd] at unread hnext ⊢
        simp only [shown]
        have alike : next.Alike (next.retimed (clock' 0) synced) := ⟨_, _, rfl⟩
        split_ifs at unread ⊢
        · exact ⟨rfl, alike⟩
        · exact ih _ _ 0 hnext unread alike
        · exact ⟨rfl, alike⟩
        · exact ih _ _ (dark + cycles) hnext unread alike

theorem timedOp_moment (clock : Nat → UInt64) (c : Console) {op : Operation}
    (whole : ∀ limit, op ≠ .frame limit) :
    c.timedOp clock op = ([.setNow (clock 0), op], (c.setNow (clock 0)).answer op) := by
  cases op with
  | frame limit => exact absurd rfl (whole limit)
  | _ => rfl

theorem frameAt_keeps (clock : Nat → UInt64) (limit dark : Nat) (c : Console) :
    ∀ op ∈ (c.frameAt clock limit dark).1, op.inserts = false := by
  induction limit generalizing c clock dark with
  | zero => exact fun op member => absurd member List.not_mem_nil
  | succ limit ih =>
      intro op member
      simp only [frameAt, List.mem_cons] at member
      obtain rfl | rfl | member := member
      · rfl
      · rfl
      · split at member
        · cases member
        · split_ifs at member
          · cases member
          · exact ih _ _ _ op member
          · cases member
          · exact ih _ _ _ op member

theorem timedOp_keeps (clock : Nat → UInt64) (c : Console) {op : Operation}
    (keeps : op.inserts = false) : ∀ done ∈ (c.timedOp clock op).1, done.inserts = false := by
  by_cases whole : ∀ limit, op ≠ .frame limit
  · rw [timedOp_moment clock c whole]
    intro done member
    simp only [List.mem_cons, List.not_mem_nil, or_false] at member
    obtain rfl | rfl := member
    · rfl
    · exact keeps
  · push Not at whole
    obtain ⟨limit, rfl⟩ := whole
    exact c.frameAt_keeps clock limit 0

/-- An operation in which nothing makes the clock chip look at the wall time answers the same under
any clock, and leaves consoles that are alike. -/
theorem timedOp_alike (fresh : start.Recalls cartridge []) (clock clock' : Nat → UInt64)
    (hslot : c.bus.slot = some (start.after past)) {op : Operation} (keeps : op.inserts = false)
    (unread : cartridge.header.board.clock = true →
      Banking.Unread cartridge.header.board (c.pastOfAll (c.timedOp clock op).1 ++ past))
    (alike : c.Alike c') :
    (c'.timedOp clock' op).2 = (c.timedOp clock op).2 ∧
      (c.performAll (c.timedOp clock op).1).Alike (c'.performAll (c'.timedOp clock' op).1) := by
  by_cases whole : ∀ limit, op ≠ .frame limit
  · obtain ⟨now, synced, rfl⟩ := alike
    rw [timedOp_moment clock c whole] at unread ⊢
    rw [timedOp_moment clock' _ whole]
    rw [pastOfAll_moved] at unread
    exact perform_retimed (c := c.setNow (clock 0)) hslot (Slot.after_recalls fresh past) keeps
      whole unread (clock' 0) synced
  · push Not at whole
    obtain ⟨limit, rfl⟩ := whole
    obtain ⟨answer, after⟩ := frameAt_alike fresh clock clock' limit 0 hslot unread alike
    exact ⟨congrArg Answer.frame answer, after⟩

/-- So do operations one after the other. The induction is on the operations; what carries it is that
the slot is what its past so far makes of the cartridge that was put in. -/
theorem timed_alike (fresh : start.Recalls cartridge []) (clock clock' : Nat → Nat → UInt64)
    (hslot : c.bus.slot = some (start.after past)) {ops : List Operation}
    (keeps : ∀ op ∈ ops, op.inserts = false)
    (unread : cartridge.header.board.clock = true →
      Banking.Unread cartridge.header.board (c.pastOfAll (c.timed clock ops).1 ++ past))
    (alike : c.Alike c') :
    (c'.timed clock' ops).2 = (c.timed clock ops).2 ∧
      (c.performAll (c.timed clock ops).1).Alike (c'.performAll (c'.timed clock' ops).1) := by
  induction ops generalizing c c' clock clock' past with
  | nil => exact ⟨rfl, alike⟩
  | cons op rest ih =>
      have keep := keeps op List.mem_cons_self
      simp only [timed, performAll_append, pastOfAll_append, List.append_assoc] at unread ⊢
      obtain ⟨answer, after⟩ := timedOp_alike fresh (clock 0) (clock' 0) hslot keep
        (fun timer => (unread timer).of_append) alike
      have hslot := performAll_slot hslot (c.timedOp_keeps (clock 0) keep)
      obtain ⟨answers, ended⟩ := ih (fun i => clock (i + 1)) (fun i => clock' (i + 1)) hslot
        (fun op member => keeps op (List.mem_cons_of_mem _ member)) unread after
      exact ⟨congrArg₂ List.cons answer answers, ended⟩

end Runs

/-- Wall time is invisible without a clock chip that looks at it. Two consoles that are alike but for
the wall time are given the same image, and then the same operations while each has a clock of its
own. If the board has no clock chip, or none of the stores so far completes a latch sequence or goes
to a register of the chip, then every answer was the same, and so is all that the consoles give away.
They are still alike, so the same holds on from there when the next image is put in. -/
theorem wall_time_invisible {image : Array Byte} {cartridge : Cartridge}
    (accepted : Cartridge.ofImage image = .ok cartridge) {g g' : Console} (alike : g.Alike g')
    {ops : List Operation} (keeps : ∀ op ∈ ops, op.inserts = false)
    (clock clock' : Nat → Nat → UInt64) :
    let c := (g.perform (.load image)).1
    let c' := (g'.perform (.load image)).1
    let run := c.timed clock ops
    let run' := c'.timed clock' ops
    (cartridge.header.board.clock = true →
      Banking.Unread cartridge.header.board (c.pastOfAll run.1)) →
    run'.2 = run.2 ∧ (c.performAll run.1).Alike (c'.performAll run'.1) ∧
      (c.performAll run.1).Matches (c'.performAll run'.1) := by
  intro c c' run run' unread
  obtain ⟨start, hslot⟩ := (load_starts g accepted).slot_eq
  have loaded : c.Alike c' := by
    obtain ⟨now, synced, rfl⟩ := alike
    refine ⟨now, now, ?_⟩
    calc ((g.retimed now synced).perform (.load image)).1
        = (g.retimed now synced).insert cartridge := load_eq_insert accepted _
      _ = (g.insert cartridge).retimed now now := insert_retimed g cartridge now synced
      _ = (g.perform (.load image)).1.retimed now now := by rw [load_eq_insert accepted]
  rw [← List.append_nil (c.pastOfAll run.1)] at unread
  obtain ⟨answers, ended⟩ := timed_alike (Slot.insert_recalls cartridge start) clock clock' hslot
    keeps unread loaded
  exact ⟨answers, ended, ended.matches⟩

/-- A byte is stored in the RAM, the program runs for a while, the seconds are selected and half of
a latch sequence is stored. -/
def unlatched : List Operation :=
  [.reset, .write 0x0000 0x0A, .write 0x4000 0x02, .write 0xA000 0x5A, .dispatch, .frame 3,
    .write 0x4000 0x08, .write 0x6000 0x00]

/-- A clock that goes on by a second with every operation. -/
def slowClock (i _ : Nat) : UInt64 := .ofNat i

/-- A clock that goes on by a day with every operation, and by an hour with every dispatch of a
frame. -/
def fastClock (i j : Nat) : UInt64 := .ofNat (86400 * i + 3600 * j)

theorem wall_time_invisible_unlatched :
    let c := ((initial 0).perform (.load (boardImage 0x10 0x03))).1
    let c' := ((initial 90).perform (.load (boardImage 0x10 0x03))).1
    let run := c.timed slowClock unlatched
    let run' := c'.timed fastClock unlatched
    ∃ cartridge, Cartridge.ofImage (boardImage 0x10 0x03) = .ok cartridge ∧
      cartridge.header.board.clock = true ∧ (initial 0).Alike (initial 90) ∧
      (c.performAll run.1).bus.now ≠ (c'.performAll run'.1).bus.now ∧
      run'.2 = run.2 ∧ (c.performAll run.1).Matches (c'.performAll run'.1) := by
  have keeps : ∀ op ∈ unlatched, op.inserts = false := by simp [unlatched, Operation.inserts]
  have fitted : (Cartridge.ofImage (boardImage 0x10 0x03)).toOption.map (·.header.board) =
      some clockBoard := by decide +kernel
  have moved :
      let c := ((initial 0).perform (.load (boardImage 0x10 0x03))).1
      let c' := ((initial 90).perform (.load (boardImage 0x10 0x03))).1
      (c.performAll (c.timed slowClock unlatched).1).bus.now ≠
        (c'.performAll (c'.timed fastClock unlatched).1).bus.now := by decide +kernel
  obtain ⟨cartridge, accepted, board⟩ := exists_ok_of_map fitted
  have alike : (initial 0).Alike (initial 90) := initial_alike 0 90
  have same := wall_time_invisible accepted alike keeps slowClock fastClock
  rw [board] at same
  obtain ⟨answers, -, matches'⟩ := same fun _ => by decide +kernel
  exact ⟨cartridge, accepted, by rw [board, clockBoard], alike, moved, answers, matches'⟩

/-- The store that completes the latch sequence tells the clocks apart. -/
example :
    let c := withBoard 0x10 0x03
    let latched := unlatched ++ [.write 0x6000 0x01]
    (c.performAll (c.timed (fun i _ => .ofNat (2 * i)) latched).1).bus.read 0xA000 ≠
      (c.performAll (c.timed slowClock latched).1).bus.read 0xA000 := by
  decide +kernel

end Console

end DotMatrix
