import DotMatrix.Proofs.Console.Frame
import DotMatrix.Proofs.Console.Program

/-!
Running for a frame ends unless the display goes on flickering: on too shortly for a frame each time,
and off too shortly each time. A loop of three instructions keeps it flickering for ever.
-/

namespace DotMatrix.Console

/-- A number of dispatches, after the first few, all leave the display on, or all leave it off. -/
def Stays (c : Console) (on : Bool) (start count : Nat) : Prop :=
  ∀ n, start < n → n ≤ start + count → (c.after n).lit = on

/-- No dispatch fails, the display is never off for the time of a frame without a break, and it is
never on for as long as the next frame takes. -/
structure FlickersForever (c : Console) : Prop where
  runs : ∀ n, ∃ cycles, (c.after n).dispatch.2 = .ok cycles
  dark : ∀ start count, c.Stays false start count →
    (c.after start).spent count < Screen.frameCycles
  lit : ∀ start count, start = 0 ∨ (c.after start).lit = false → c.Stays true start count →
    (c.after start).spent count < (c.after start).untilFrame

section Stretches

variable {c : Console}

theorem stays_zero (c : Console) (on : Bool) (start : Nat) : c.Stays on start 0 := by
  intro n after before
  omega

theorem stays_succ {on : Bool} {start count : Nat} :
    c.Stays on start (count + 1) ↔
      c.Stays on start count ∧ (c.after (start + count + 1)).lit = on := by
  constructor
  · intro h
    exact ⟨fun n after before => h n after (by omega), h _ (by omega) (by omega)⟩
  · rintro ⟨h, last⟩ n after before
    by_cases here : n = start + count + 1
    · rw [here]
      exact last
    · exact h n after (by omega)

/-- While the display stays off, the time without a frame adds up. -/
theorem darkAfter_of_stays (dark : Nat) {start count : Nat} (h : c.Stays false start count) :
    c.darkAfter dark (start + count) = c.darkAfter dark start + (c.after start).spent count := by
  induction count with
  | zero => rfl
  | succ count ih =>
      obtain ⟨earlier, last⟩ := stays_succ.mp h
      rw [← Nat.add_assoc, darkAfter, last, ih earlier, spent_succ, Nat.add_assoc]
      rfl

/-- Every point is in a dark stretch that begins where the time without a frame is zero, if only in
an empty one. -/
theorem exists_dark_stretch (c : Console) (n : Nat) :
    ∃ start count, n = start + count ∧ c.Stays false start count ∧ c.darkAfter 0 start = 0 := by
  induction n with
  | zero => exact ⟨0, 0, rfl, c.stays_zero false 0, rfl⟩
  | succ n ih =>
      cases on : (c.after (n + 1)).lit with
      | true =>
          refine ⟨n + 1, 0, rfl, c.stays_zero false (n + 1), ?_⟩
          rw [darkAfter, on, if_pos rfl]
      | false =>
          obtain ⟨start, count, here, stays, zero⟩ := ih
          refine ⟨start, count + 1, by omega, stays_succ.mpr ⟨stays, ?_⟩, zero⟩
          rw [← here]
          exact on

/-- Every point is in a lit stretch that begins at the start or in the dark. -/
theorem exists_lit_stretch (c : Console) (n : Nat) :
    ∃ start count, n = start + count ∧ c.Stays true start count ∧
      (start = 0 ∨ (c.after start).lit = false) := by
  induction n with
  | zero => exact ⟨0, 0, rfl, c.stays_zero true 0, Or.inl rfl⟩
  | succ n ih =>
      cases on : (c.after (n + 1)).lit with
      | false => exact ⟨n + 1, 0, rfl, c.stays_zero true (n + 1), Or.inr on⟩
      | true =>
          obtain ⟨start, count, here, stays, begins⟩ := ih
          refine ⟨start, count + 1, by omega, stays_succ.mpr ⟨stays, ?_⟩, begins⟩
          rw [← here]
          exact on

/-- While the display stays on and no frame is complete, the frame comes nearer. -/
theorem untilFrame_of_stays (h : c.Sound) {start count : Nat} (stays : c.Stays true start count)
    (goes : ∀ n < start + count, c.GoesOn 0 n) :
    (c.after (start + count)).untilFrame + (c.after start).spent count =
      (c.after start).untilFrame := by
  induction count with
  | zero => rfl
  | succ count ih =>
      obtain ⟨earlier, last⟩ := stays_succ.mp stays
      have before := ih earlier fun n below => goes n (by omega)
      obtain ⟨⟨cycles, ok⟩, notFlushed, -⟩ := goes (start + count) (by omega)
      rw [spent_succ, dispatchCycles_eq _ ok]
      have placed := (after_sound h (start + count)).bus.lcd.toPlaced
      rcases dispatch_lit placed ok last with ⟨-, nearer⟩ | ⟨flushed, -⟩
      · change (c.after (start + count)).dispatch.1.untilFrame + _ = _
        omega
      · exact absurd (notFlushed.symm.trans flushed) Bool.false_ne_true

end Stretches

section Ending

variable {c : Console}

theorem flickersForever_of_goesOn (h : c.Sound) (goes : ∀ n, c.GoesOn 0 n) :
    c.FlickersForever := by
  refine ⟨fun n => (goes n).ok, ?_, ?_⟩
  · intro start count stays
    have adds := darkAfter_of_stays 0 stays
    cases hcount : start + count with
    | zero =>
        have none : count = 0 := by omega
        rw [none, Screen.frameCycles_eq]
        exact Nat.succ_pos _
    | succ n =>
        have short := (goes n).dark
        rw [hcount] at adds
        omega
  · intro start count begins stays
    have nearer := untilFrame_of_stays h stays fun n _ => goes n
    have pos := untilFrame_pos (after_sound h (start + count)).bus.lcd.toPlaced
    omega

theorem goesOn_of_flickersForever (h : c.Sound) (flickers : c.FlickersForever) (n : Nat) :
    c.GoesOn 0 n := by
  induction n using Nat.strongRecOn with
  | ind n ih =>
      obtain ⟨cycles, ok⟩ := flickers.runs n
      refine ⟨⟨cycles, ok⟩, ?_, ?_⟩
      · cases on : (c.after (n + 1)).lit with
        | false => exact dispatch_dark ok on
        | true =>
            obtain ⟨start, count, here, stays, begins⟩ := c.exists_lit_stretch (n + 1)
            cases count with
            | zero =>
                rcases begins with zero | dark
                · omega
                · rw [here, Nat.add_zero, dark] at on
                  cases on
            | succ count =>
                have here : n = start + count := by omega
                subst here
                have nearer := untilFrame_of_stays h (stays_succ.mp stays).1 ih
                have short := flickers.lit start (count + 1) begins stays
                rw [spent_succ, dispatchCycles_eq _ ok] at short
                have placed := (after_sound h (start + count)).bus.lcd.toPlaced
                rcases dispatch_lit placed ok on with ⟨notFlushed, -⟩ | ⟨-, due⟩
                · exact notFlushed
                · omega
      · obtain ⟨start, count, here, stays, zero⟩ := c.exists_dark_stretch (n + 1)
        rw [here, darkAfter_of_stays 0 stays, zero, Nat.zero_add]
        exact flickers.dark start count stays

theorem flickersForever_of_unfinished (h : c.Sound)
    (never : ∀ limit, (c.runFrame limit 0).2 = .unfinished) : c.FlickersForever := by
  apply flickersForever_of_goesOn h
  intro n
  exact (c.runFrame_unfinished_iff (n + 1) 0).mp (never (n + 1)) n (Nat.lt_succ_self n)

theorem le_spent (runs : ∀ n, ∃ cycles, (c.after n).dispatch.2 = .ok cycles) (start count : Nat) :
    count ≤ (c.after start).spent count := by
  induction count with
  | zero => exact Nat.zero_le _
  | succ count ih =>
      obtain ⟨cycles, ok⟩ := runs (start + count)
      have pos := dispatchCycles_pos ok
      rw [spent_succ]
      omega

/-- A display that is not switched any more from some dispatch on does not flicker for ever. -/
theorem not_flickersForever_of_stays {start : Nat} {on : Bool}
    (stays : ∀ count, c.Stays on start count) : ¬ c.FlickersForever := by
  intro flickers
  cases on with
  | false =>
      have enough := le_spent flickers.runs start Screen.frameCycles
      have short := flickers.dark start Screen.frameCycles (stays _)
      omega
  | true =>
      obtain ⟨first, count, here, before, begins⟩ := c.exists_lit_stretch start
      have whole : c.Stays true first (count + (c.after first).untilFrame) := by
        intro n after bound
        by_cases early : n ≤ first + count
        · exact before n after early
        · exact stays (c.after first).untilFrame n (by omega) (by omega)
      have enough := le_spent flickers.runs first (count + (c.after first).untilFrame)
      have short := flickers.lit first _ begins whole
      omega

end Ending

section Loop

/-- The bytes of a loop that switches the display every time round: it stores `A` in the control
register of the LCD controller and takes the complement of it. -/
structure HoldsLoop (slot : Slot) : Prop where
  store : slot.read 0x100 = 0xE0
  register : slot.read 0x101 = 0x40
  complement : slot.read 0x102 = 0x2F
  back : slot.read 0x103 = 0x18
  distance : slot.read 0x104 = 0xFB

/-- The console is in the loop, some cycles after it has switched the display. -/
structure InLoop (slot : Slot) (pc : Word) (elapsed : Nat) (c : Console) (dark : Nat) : Prop where
  loop : HoldsLoop slot
  undisturbed : c.Undisturbed slot
  here : c.cpu.regs.pc = pc
  recent : c.Recent elapsed dark

variable {c : Console} {slot : Slot} {dark : Nat}

theorem bit_complement (b : Byte) : (~~~b).bit 7 = !b.bit 7 := by
  have bound := b.toNat_lt
  have complement : (~~~b).toNat = 2 ^ 8 - (b.toNat + 1) := by
    rw [UInt8.toNat_not]
    have size : UInt8.size = 256 := rfl
    omega
  rw [Byte.bit, complement, Nat.testBit_two_pow_sub_succ bound]
  simp [Byte.bit]

theorem inLoop_store (h : InLoop slot 0x100 7 c dark) (a : c.cpu.regs.a.bit 7 = !c.lit) :
    c.GoesOn dark 0 ∧ InLoop slot 0x102 3 c.dispatch.1 (c.darkAfter dark 1) ∧
      c.dispatch.1.cpu.regs.a.bit 7 = c.dispatch.1.lit := by
  have undisturbed := h.undisturbed
  have ready : c.ReadyFor .storeHigh := by
    apply undisturbed.readyFor
    · rw [h.here]
      decide
    · rw [h.here, h.loop.store]
      rfl
    · decide
  have operand : c.bus.read (c.cpu.regs.pc + 1) = 0x40 := by
    rw [h.here]
    exact (undisturbed.read (by decide)).trans h.loop.register
  have stored : (c.executed .storeHigh).bus = c.bus.write 0xFF40 c.cpu.regs.a := by
    change c.bus.write (Machine.highAddress (Word.ofBytes 0 (c.bus.read (c.cpu.regs.pc + 1))).low)
      c.cpu.regs.a = _
    rw [operand]
    rfl
  rw [Bus.write_control] at stored
  have hd := dispatch_executes ready
  have lit : c.dispatch.1.lit = c.cpu.regs.a.bit 7 := by
    rw [hd]
    simp only [Console.lit, Bus.elapse_lcd, Lcd.step_enabled, stored, Lcd.setControl_enabled]
  have ok : c.dispatch.2 = .ok 3 := by
    rw [hd]
    rfl
  refine ⟨(h.recent.dispatch undisturbed.sound ok (by decide)).1, ⟨h.loop, ?_, ?_, ?_⟩, ?_⟩
  · apply undisturbed.dispatch ready
    · rw [stored]
    · rw [stored]
    · rfl
  · rw [hd]
    change c.cpu.regs.pc + 1 + 1 = 0x102
    rw [h.here]
    rfl
  · exact h.recent.switch undisturbed.sound ok (by decide) (lit.trans a)
  · rw [lit, hd]
    rfl

/-- An instruction of the loop that leaves the bus alone. -/
theorem inLoop_advance {i : Instruction} {pc next : Word} {elapsed cycles : Nat}
    (h : InLoop slot pc elapsed c dark) (ready : c.ReadyFor i) (time : c.cyclesOf i = cycles)
    (short : elapsed + cycles < Screen.visibleCycles)
    (bus : (c.executed i).bus = c.bus) (up : (c.executed i).cpu.resumeAt = c.cpu.resumeAt)
    (there : (c.executed i).cpu.regs.pc = next) :
    c.GoesOn dark 0 ∧ InLoop slot next (elapsed + cycles) c.dispatch.1 (c.darkAfter dark 1) ∧
      c.dispatch.1.lit = c.lit ∧ c.dispatch.1.cpu.regs = (c.executed i).cpu.regs := by
  have hd := dispatch_executes ready
  have ok : c.dispatch.2 = .ok cycles := by rw [hd, time]
  obtain ⟨goes, recent⟩ := h.recent.dispatch h.undisturbed.sound ok short
  have undisturbed : c.dispatch.1.Undisturbed slot := by
    apply h.undisturbed.dispatch ready
    · rw [bus]
    · rw [bus]
    · exact up
  refine ⟨goes, ⟨h.loop, undisturbed, ?_, recent⟩, ?_, ?_⟩
  · rw [hd]
    exact there
  · rw [hd]
    simp only [Console.lit, Bus.elapse_lcd, Lcd.step_enabled, bus]
  · rw [hd]

theorem inLoop_complement (h : InLoop slot 0x102 3 c dark) (a : c.cpu.regs.a.bit 7 = c.lit) :
    c.GoesOn dark 0 ∧ InLoop slot 0x103 4 c.dispatch.1 (c.darkAfter dark 1) ∧
      c.dispatch.1.cpu.regs.a.bit 7 = !c.dispatch.1.lit := by
  have ready : c.ReadyFor .cpl := by
    apply h.undisturbed.readyFor
    · rw [h.here]
      decide
    · rw [h.here, h.loop.complement]
      rfl
    · decide
  have there : (c.executed .cpl).cpu.regs.pc = 0x103 := by
    change c.cpu.regs.pc + 1 = 0x103
    rw [h.here]
    rfl
  have time : c.cyclesOf .cpl = 1 := rfl
  obtain ⟨goes, next, lit, regs⟩ := inLoop_advance h ready time (by decide) rfl rfl there
  refine ⟨goes, next, ?_⟩
  rw [lit, ← a, regs]
  exact bit_complement c.cpu.regs.a

theorem inLoop_back (h : InLoop slot 0x103 4 c dark) (a : c.cpu.regs.a.bit 7 = !c.lit) :
    c.GoesOn dark 0 ∧ InLoop slot 0x100 7 c.dispatch.1 (c.darkAfter dark 1) ∧
      c.dispatch.1.cpu.regs.a.bit 7 = !c.dispatch.1.lit := by
  have ready : c.ReadyFor (.jumpRelative .always) := by
    apply h.undisturbed.readyFor
    · rw [h.here]
      decide
    · rw [h.here, h.loop.back]
      rfl
    · decide
  have distance : c.bus.read (c.cpu.regs.pc + 1) = 0xFB := by
    rw [h.here]
    exact (h.undisturbed.read (by decide)).trans h.loop.distance
  have there : (c.executed (.jumpRelative .always)).cpu.regs.pc = 0x100 := by
    change c.cpu.regs.pc + 1 + 1 +
      (Word.ofBytes 0 (c.bus.read (c.cpu.regs.pc + 1))).low.signExtend = 0x100
    rw [distance, h.here]
    rfl
  have time : c.cyclesOf (.jumpRelative .always) = 3 := rfl
  obtain ⟨goes, next, lit, regs⟩ := inLoop_advance h ready time (by decide) rfl rfl there
  refine ⟨goes, next, ?_⟩
  rw [lit, ← a, regs]
  rfl

def Flickers (slot : Slot) (c : Console) (dark : Nat) : Prop :=
  (InLoop slot 0x100 7 c dark ∧ c.cpu.regs.a.bit 7 = !c.lit) ∨
  (InLoop slot 0x102 3 c dark ∧ c.cpu.regs.a.bit 7 = c.lit) ∨
  (InLoop slot 0x103 4 c dark ∧ c.cpu.regs.a.bit 7 = !c.lit)

theorem flickers_dispatch (slot : Slot) (c : Console) (dark : Nat) (h : Flickers slot c dark) :
    c.GoesOn dark 0 ∧ Flickers slot c.dispatch.1 (c.darkAfter dark 1) := by
  rcases h with ⟨inLoop, a⟩ | ⟨inLoop, a⟩ | ⟨inLoop, a⟩
  · obtain ⟨goes, next⟩ := inLoop_store inLoop a
    exact ⟨goes, Or.inr (Or.inl next)⟩
  · obtain ⟨goes, next⟩ := inLoop_complement inLoop a
    exact ⟨goes, Or.inr (Or.inr next)⟩
  · obtain ⟨goes, next⟩ := inLoop_back inLoop a
    exact ⟨goes, Or.inl next⟩

end Loop

/-- A console with the loop in its cartridge. -/
def flicker : Console :=
  running #[0xE0, 0x40, 0x2F, 0x18, 0xFB]

theorem flicker_boots :
    flicker.stuckAt = none ∧ flicker.bus.enabled = 0 ∧ flicker.cpu.resumeAt = none ∧
      flicker.cpu.regs.pc = 0x100 ∧ flicker.cpu.regs.a = 0x01 ∧ flicker.lit = true ∧
      flicker.untilFrame = Screen.visibleCycles ∧
      (flicker.bus.slot.map fun slot =>
        [slot.read 0x100, slot.read 0x101, slot.read 0x102, slot.read 0x103, slot.read 0x104]) =
        some [0xE0, 0x40, 0x2F, 0x18, 0xFB] := by
  decide +kernel

theorem flicker_starts : ∃ slot, Flickers slot flicker 0 := by
  obtain ⟨free, disabled, up, pc, a, lit, whole, program⟩ := flicker_boots
  obtain ⟨slot, hslot, bytes⟩ := Option.map_eq_some_iff.mp program
  simp only [List.cons.injEq, and_true] at bytes
  obtain ⟨store, register, complement, back, distance⟩ := bytes
  have loop : HoldsLoop slot := ⟨store, register, complement, back, distance⟩
  have undisturbed : flicker.Undisturbed slot :=
    ⟨(running_reachable _).sound, free, hslot, disabled, up⟩
  have recent : flicker.Recent 7 0 := by
    refine ⟨?_, Nat.zero_le _⟩
    rw [whole]
    exact Nat.le_add_right _ _
  refine ⟨slot, Or.inl ⟨⟨loop, undisturbed, pc, recent⟩, ?_⟩⟩
  rw [a, lit]
  rfl

theorem flicker_goesOn (n : Nat) : flicker.GoesOn 0 n := by
  obtain ⟨slot, start⟩ := flicker_starts
  exact goesOn_of_invariant (flickers_dispatch slot) start n

/-- Running for a frame ends unless the display goes on flickering. -/
theorem runFrame_ends_iff {c : Console} (h : c.Reachable) :
    (∃ limit, (c.runFrame limit 0).2 ≠ .unfinished) ↔ ¬ c.FlickersForever := by
  constructor
  · rintro ⟨limit, ends⟩ flickers
    apply ends
    rw [runFrame_unfinished_iff]
    intro n _
    exact goesOn_of_flickersForever h.sound flickers n
  · intro steady
    apply Classical.byContradiction
    intro never
    apply steady
    apply flickersForever_of_unfinished h.sound
    intro limit
    exact Decidable.byContradiction fun ends => never ⟨limit, ends⟩

/-- The flickering console has a cartridge, and running it for a frame never ends. -/
theorem flicker_never_ends :
    flicker.Reachable ∧ flicker.bus.slot.isSome = true ∧
      ∀ limit, (flicker.runFrame limit 0).2 = .unfinished := by
  obtain ⟨slot, start⟩ := flicker_starts
  refine ⟨running_reachable _, ?_, ?_⟩
  · rcases start with ⟨inLoop, -⟩ | ⟨inLoop, -⟩ | ⟨inLoop, -⟩ <;>
      simp [inLoop.undisturbed.slot]
  · intro limit
    rw [runFrame_unfinished_iff]
    intro n _
    exact flicker_goesOn n

theorem flicker_flickersForever : flicker.Reachable ∧ flicker.FlickersForever := by
  have reachable : flicker.Reachable := running_reachable _
  refine ⟨reachable, Classical.byContradiction fun steady => ?_⟩
  obtain ⟨limit, ends⟩ := (runFrame_ends_iff reachable).mpr steady
  apply ends
  rw [runFrame_unfinished_iff]
  intro n _
  exact flicker_goesOn n

end DotMatrix.Console
