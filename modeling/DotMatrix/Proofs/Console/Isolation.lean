import DotMatrix.Proofs.Bus.Isolation
import DotMatrix.Proofs.Console.Dispatch

/-!
What a write on the bus can change, and what the dispatches of the console leave of the sprite
memory.
-/

namespace DotMatrix

namespace Console

/-- Does a dispatch leave the sprite memory to itself: does it store nothing there and start no
transfer? -/
def SparesSprites (c : Console) : Prop :=
  ∀ store ∈ c.stores, ¬ BusPart.oam.Owns store.addr ∧ store.addr ≠ 0xFF46

theorem dispatch_oam {c : Console} (spares : c.SparesSprites) :
    c.dispatch.1.bus.lcd.oam = c.bus.lcd.oam := by
  rcases c.dispatch_outcome with passes | ⟨same, -, -⟩
  · rw [passes.bus, Bus.elapse_lcd, Lcd.step_oam, stored, Bus.writeAll_oam _ spares,
      Machine.answered_lcd]
  · rw [same]

theorem after_oam (c : Console) (n : Nat) (spares : ∀ k < n, (c.after k).SparesSprites) :
    (c.after n).bus.lcd.oam = c.bus.lcd.oam := by
  induction n with
  | zero => rfl
  | succ n ih =>
      exact (dispatch_oam (spares n n.lt_succ_self)).trans
        (ih fun k earlier => spares k (Nat.lt_succ_of_lt earlier))

end Console

namespace Bus

/-- Isolation of the parts on the bus. A byte stored in memory reads back at its address and at its
mirror in the work RAM, and nowhere else does anything change; a write to any other part shows in
that part alone, or in the interrupt requests as well if the part can request one. The sprite memory
changes by stores to itself and by transfers only, at a write and over any number of dispatches. -/
theorem write_isolated (bus : Bus) (addr : Word) (value : Byte) :
    (BusPart.Stores addr → ∀ other, (bus.write addr value).read other =
      if other = addr ∨ BusPart.Mirrored addr other then value else bus.read other) ∧
    (BusPart.cartridge.Owns addr → ∀ other, ¬ BusPart.cartridge.Owns other →
      (bus.write addr value).read other = bus.read other) ∧
    (BusPart.nothing.Owns addr → ∀ other,
      (bus.write addr value).read other = bus.read other) ∧
    (BusPart.timer.Owns addr → ∀ other, ¬ BusPart.timer.Owns other → other ≠ 0xFF0F →
      (bus.write addr value).read other = bus.read other) ∧
    (BusPart.serial.Owns addr → ∀ other, ¬ BusPart.serial.Owns other → other ≠ 0xFF0F →
      (bus.write addr value).read other = bus.read other) ∧
    (BusPart.lcdRegisters.Owns addr → ∀ other, ¬ BusPart.lcdRegisters.Owns other →
      (bus.write addr value).read other = bus.read other) ∧
    (¬ BusPart.oam.Owns addr → addr ≠ 0xFF46 → ∀ other, BusPart.oam.Owns other →
      (bus.write addr value).read other = bus.read other) ∧
    (∀ (c : Console) n, (∀ k < n, (c.after k).SparesSprites) →
      (c.after n).bus.lcd.oam = c.bus.lcd.oam) := by
  have requests {other : Word} (h : other ≠ 0xFF0F) : ¬ BusPart.requests.Owns other :=
    fun owns => h owns.eq_requests
  refine ⟨fun stores => bus.read_write_memory stores value, ?_, ?_, ?_, ?_, ?_, ?_,
    Console.after_oam⟩
  · intro owns other away
    exact bus.read_write_outside owns (by simpa [BusPart.touched] using away) value
  · intro owns other
    exact bus.read_write_outside owns (by simp [BusPart.touched]) value
  · intro owns other away unrequested
    exact bus.read_write_outside owns
      (by simpa [BusPart.touched] using ⟨away, requests unrequested⟩) value
  · intro owns other away unrequested
    exact bus.read_write_outside owns
      (by simpa [BusPart.touched] using ⟨away, requests unrequested⟩) value
  · intro owns other away
    exact bus.read_write_outside owns (by simpa [BusPart.touched] using away) value
  · intro away single other owns
    rw [read_eq_readPart _ owns, read_eq_readPart _ owns]
    simp only [readPart, bus.write_oam value away single]

/-- A store to the work RAM shows in its echo and not in the byte beside it. -/
theorem write_isolated_echo :
    ((initial 0).write 0xC123 0x5A).read 0xE123 = 0x5A ∧
      ((initial 0).write 0xC123 0x5A).read 0xE124 = (initial 0).read 0xE124 := by
  have law := ((initial 0).write_isolated 0xC123 0x5A).1 (Or.inr (Or.inl (by decide)))
  exact ⟨(law 0xE123).trans (if_pos (by decide)), (law 0xE124).trans (if_neg (by decide))⟩

end Bus

end DotMatrix
