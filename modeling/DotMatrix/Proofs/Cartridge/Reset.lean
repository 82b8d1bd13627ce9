import DotMatrix.Proofs.Cartridge.Slot

/-!
The reset of a cartridge. It clears the controller, the RAM and the clock chip one by one, each by a
function of its own; and whatever was written to them since the cartridge was put in, together they
come to a cartridge that is put in anew.
-/

namespace DotMatrix

namespace Banking

theorem initial_reset (board : Board) : (initial board).reset = initial board := by
  unfold initial
  cases board.kind <;> rfl

/-- A write leaves a reset the same: it changes neither the controller's kind nor its motor. -/
theorem write_reset (b : Banking) (addr : Word) (value : Byte) :
    (b.write addr value).reset = b.reset := by
  cases b with
  | plain => rfl
  | mbc1 | mbc2 | mbc3 | mbc5 =>
      unfold write
      dsimp only
      repeat' split
      all_goals rfl

end Banking

namespace ExternalRam

/-- What is left of a RAM that fits a header is the RAM that the header asks for. -/
theorem Fits.clear_eq {header : Header} {ram : ExternalRam} (h : ram.Fits header) :
    ram.clear = blank header := by
  unfold blank
  cases ram with
  | banks bs =>
      obtain ⟨kind, count⟩ := h
      split
      · next mbc2 => exact absurd mbc2 kind
      · rw [clear, count]
  | nibbles cells =>
      obtain ⟨kind, -⟩ := h
      rw [clear, kind]

end ExternalRam

namespace Slot

/-- Since the cartridge was put in, the slot has kept what a reset cannot bring back: the kind of the
controller and whether there is a clock chip. -/
structure Fitted (slot : Slot) : Prop where
  banking : slot.banking.reset = .initial slot.cartridge.header.board
  ram : slot.Sound
  clock : slot.clock.isSome = slot.cartridge.header.board.clock

variable {slot : Slot}

theorem insert_fitted (cartridge : Cartridge) (now : UInt64) : (insert cartridge now).Fitted where
  banking := Banking.initial_reset _
  ram := insert_sound cartridge now
  clock := by
    simp only [insert]
    cases cartridge.header.board.clock <;> rfl

theorem reset_fitted (h : slot.Fitted) (now : UInt64) : (slot.reset now).Fitted where
  banking := by
    change slot.banking.reset.reset = _
    rw [h.banking, Banking.initial_reset]
    rfl
  ram := reset_sound h.ram now
  clock := by
    simp only [reset, Option.isSome_map]
    exact h.clock

theorem fill_fitted (h : slot.Fitted) (given : Array (Array Byte)) :
    ({ slot with ram := slot.ram.fill given } : Slot).Fitted :=
  ⟨h.banking, fill_sound h.ram given, h.clock⟩

theorem write_banking_reset (slot : Slot) (now : UInt64) (addr : Word) (value : Byte) :
    (slot.write now addr value).banking.reset = slot.banking.reset := by
  unfold write
  dsimp only
  split
  · exact slot.banking.write_reset addr value
  · split
    · split <;> rfl
    · rfl

theorem write_clock_isSome (slot : Slot) (now : UInt64) (addr : Word) (value : Byte) :
    (slot.write now addr value).clock.isSome = slot.clock.isSome := by
  unfold write
  dsimp only
  split
  · split
    · exact Option.isSome_map
    · rfl
  · split
    · split
      · rfl
      · rfl
      · exact Option.isSome_map
    · rfl

theorem write_fitted (h : slot.Fitted) (now : UInt64) (addr : Word) (value : Byte) :
    (slot.write now addr value).Fitted where
  banking := by
    rw [write_banking_reset, write_cartridge]
    exact h.banking
  ram := write_sound h.ram now addr value
  clock := by
    rw [write_clock_isSome, write_cartridge]
    exact h.clock

/-- A cartridge that is reset is as good as one that is put in. -/
theorem Fitted.reset_eq (h : slot.Fitted) (now : UInt64) :
    slot.reset now = insert slot.cartridge now := by
  have clock : slot.clock.map (·.reset now) =
      if slot.cartridge.header.board.clock then some (.start now) else none := by
    rw [← h.clock]
    cases slot.clock with
    | none => rfl
    | some chip => rfl
  unfold reset insert
  rw [h.banking, h.ram.clear_eq, clock]

end Slot

end DotMatrix
