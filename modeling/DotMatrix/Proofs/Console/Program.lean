import DotMatrix.Proofs.Console.Reachable

/-!
Following a program. A console that is ready for an instruction executes it in its next dispatch, and
one that nothing disturbs stays ready for what comes next.
-/

namespace DotMatrix

/-- A byte of the cartridge, read over the bus. -/
theorem Bus.read_slot {bus : Bus} {slot : Slot} {addr : Word} (hslot : bus.slot = some slot)
    (low : addr.toNat < 0x8000) : bus.read addr = slot.read addr := by
  unfold Bus.read BusRegion.ofAddress
  by_cases first : addr.toNat < 0x4000
  · simp only [first, if_true, hslot]
  · simp only [first, low, if_false, if_true, hslot]

namespace Console

/-- The console will execute an instruction next. -/
structure ReadyFor (c : Console) (i : Instruction) : Prop where
  free : c.stuckAt = none
  filled : c.bus.slot ≠ none
  quiet : c.bus.pending = 0
  up : c.cpu.resumeAt = none
  settled : c.cpu.cycles.pending = 0
  decodes : Instruction.decode (c.bus.read c.cpu.regs.pc) = some i
  short : i ≠ .extended

theorem dispatch_executes {c : Console} {i : Instruction} (h : c.ReadyFor i) :
    c.dispatch =
      ({ cpu := { (c.executed i).cpu with
          cycles := ⟨0, c.cpu.cycles.total + c.cyclesOf i⟩ }
         bus := (c.executed i).bus.elapse (c.cyclesOf i)
         stuckAt := none },
        .ok (c.cyclesOf i)) := by
  have stepped :=
    Machine.step_up (Machine.serves_of_quiet h.quiet) h.up h.decodes h.short
  have count : (c.executed i).cpu.cycles = c.cpu.cycles := by
    simp only [Machine.executed, Machine.execute_cycles, Machine.fetched,
      Machine.fetchImmediate_snd]
  rw [dispatch_of_step h.free h.filled stepped]
  simp only [Machine.commit, Machine.spend, CycleCount.commit, CycleCount.add, count, h.settled,
    Nat.zero_add]

/-- Nothing disturbs the program: no interrupt is enabled, and the console neither sleeps nor is
stuck. -/
structure Undisturbed (c : Console) (slot : Slot) : Prop where
  sound : c.Sound
  free : c.stuckAt = none
  slot : c.bus.slot = some slot
  disabled : c.bus.enabled = 0
  up : c.cpu.resumeAt = none

namespace Undisturbed

variable {c : Console} {slot : Slot} {i : Instruction}

theorem read (h : c.Undisturbed slot) {addr : Word} (low : addr.toNat < 0x8000) :
    c.bus.read addr = slot.read addr :=
  Bus.read_slot h.slot low

theorem readyFor (h : c.Undisturbed slot) (low : c.cpu.regs.pc.toNat < 0x8000)
    (decodes : Instruction.decode (slot.read c.cpu.regs.pc) = some i) (short : i ≠ .extended) :
    c.ReadyFor i where
  free := h.free
  filled := by simp [h.slot]
  quiet := by simp [Bus.pending, h.disabled]
  up := h.up
  settled := h.sound.settled
  decodes := by rw [h.read low, decodes]
  short := short

/-- The program goes on undisturbed after an instruction that touches none of this. -/
theorem dispatch (h : c.Undisturbed slot) (ready : c.ReadyFor i)
    (same : (c.executed i).bus.slot = c.bus.slot)
    (disabled : (c.executed i).bus.enabled = c.bus.enabled)
    (up : (c.executed i).cpu.resumeAt = c.cpu.resumeAt) : c.dispatch.1.Undisturbed slot := by
  have hd := dispatch_executes ready
  refine ⟨dispatch_sound h.sound, ?_, ?_, ?_, ?_⟩
  · rw [hd]
  · rw [hd]
    exact (Bus.elapse_slot _ _).trans (same.trans h.slot)
  · rw [hd]
    exact (Bus.elapse_enabled _ _).trans (disabled.trans h.disabled)
  · rw [hd]
    exact up.trans h.up

end Undisturbed

end Console

end DotMatrix
