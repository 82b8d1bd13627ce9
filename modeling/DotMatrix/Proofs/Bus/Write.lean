import DotMatrix.Proofs.Cpu.Stores
import DotMatrix.Proofs.Lcd.Write
import DotMatrix.Proofs.Timer

/-!
What a write to the bus comes to for the LCD controller, the divider and the slot, and what any
number of stores come to.
-/

namespace DotMatrix

namespace Bus

variable (bus : Bus)

section Requests

variable (reason : Bool) (interrupt : Interrupt)

@[simp] theorem requestIf_lcd : (bus.requestIf reason interrupt).lcd = bus.lcd := by
  cases reason <;> rfl

@[simp] theorem requestIf_timer : (bus.requestIf reason interrupt).timer = bus.timer := by
  cases reason <;> rfl

@[simp] theorem requestIf_slot : (bus.requestIf reason interrupt).slot = bus.slot := by
  cases reason <;> rfl

@[simp] theorem requestIf_enabled : (bus.requestIf reason interrupt).enabled = bus.enabled := by
  cases reason <;> rfl

end Requests

theorem transferOam_lcd_abreast (page : Byte) :
    bus.lcd.Abreast (bus.transferOam page).lcd := by
  apply Lcd.Abreast.of_control <;> simp only [transferOam]

@[simp] theorem transferOam_slot (page : Byte) : (bus.transferOam page).slot = bus.slot := by
  simp only [transferOam]

theorem write_lcd_abreast {addr : Word} (h : addr ≠ 0xFF40) (value : Byte) :
    bus.lcd.Abreast (bus.write addr value).lcd := by
  unfold write
  split
  case h_4 | h_5 | h_6 => exact Lcd.write_abreast _ h value
  case h_13 => simpa only [writeSerial, requestIf_lcd] using Lcd.Abreast.refl _
  case h_14 => simpa only [writeTimer, requestIf_lcd] using Lcd.Abreast.refl _
  case h_16 => exact bus.transferOam_lcd_abreast value
  all_goals exact Lcd.Abreast.refl _

theorem write_control (value : Byte) :
    bus.write 0xFF40 value = { bus with lcd := bus.lcd.setControl value } := rfl

/-- A write leaves the LCD controller at its place or switches it. -/
theorem write_lcd_cases (addr : Word) (value : Byte) :
    bus.lcd.Abreast (bus.write addr value).lcd ∨
      addr = 0xFF40 ∧ bus.lcd.Switched (bus.write addr value).lcd := by
  by_cases h : addr = 0xFF40
  · subst h
    rw [write_control]
    rcases bus.lcd.setControl_cases value with ⟨-, same⟩ | ⟨-, switched⟩
    · exact Or.inl same
    · exact Or.inr ⟨rfl, switched⟩
  · exact Or.inl (bus.write_lcd_abreast h value)

theorem write_enables (addr : Word) (value : Byte) :
    (bus.write addr value).lcd.enables = bus.lcd.enables ∨
      (bus.write addr value).lcd.enables = value &&& Lcd.enablesMask := by
  unfold write
  split
  case h_4 | h_5 | h_6 => exact Lcd.write_enables bus.lcd addr value
  case h_13 => exact Or.inl (by simp only [writeSerial, requestIf_lcd])
  case h_14 => exact Or.inl (by simp only [writeTimer, requestIf_lcd])
  case h_16 => exact Or.inl (by simp only [transferOam])
  all_goals exact Or.inl rfl

theorem write_divider {addr : Word} (h : addr ≠ 0xFF04) (value : Byte) :
    (bus.write addr value).timer.divider = bus.timer.divider := by
  unfold write
  split
  case h_14 =>
    simp only [writeTimer, requestIf_timer]
    exact Timer.write_divider _ h value
  case h_13 => simp only [writeSerial, requestIf_timer]
  all_goals rfl

theorem write_slot (addr : Word) (value : Byte) :
    (bus.write addr value).slot = bus.slot ∨
      (bus.write addr value).slot = bus.slot.map (·.write bus.now addr value) := by
  unfold write
  split
  case h_1 | h_2 | h_3 => exact Or.inr rfl
  case h_14 => exact Or.inl (by simp only [writeTimer, requestIf_slot])
  case h_13 => exact Or.inl (by simp only [writeSerial, requestIf_slot])
  case h_16 => exact Or.inl (bus.transferOam_slot value)
  all_goals exact Or.inl rfl

end Bus

section WriteAll

variable {bus : Bus} {stores : List Store}

namespace Bus

/-- What holds of a bus and is kept by every write holds after any stores. -/
theorem writeAll_induction {motive : Bus → Prop} (start : motive bus)
    (keep : ∀ bus, ∀ store ∈ stores, motive bus → motive (bus.write store.addr store.value)) :
    motive (bus.writeAll stores) := by
  induction stores generalizing bus with
  | nil => exact start
  | cons store rest ih =>
      have first := keep bus store List.mem_cons_self start
      apply ih first
      intro bus store member
      exact keep bus store (List.mem_cons_of_mem _ member)

theorem writeAll_divider (h : ∀ store ∈ stores, store.addr ≠ 0xFF04) :
    (bus.writeAll stores).timer.divider = bus.timer.divider := by
  refine writeAll_induction (motive := fun bus' => bus'.timer.divider = bus.timer.divider) rfl ?_
  intro bus' store member same
  exact (bus'.write_divider (h store member) store.value).trans same

/-- Stores that leave the display as it is leave the LCD controller at its place. -/
theorem writeAll_lcd_abreast
    (h : ∀ store ∈ stores, store.addr = 0xFF40 → store.value.bit 7 = bus.lcd.enabled) :
    bus.lcd.Abreast (bus.writeAll stores).lcd := by
  refine writeAll_induction (motive := fun bus' => bus.lcd.Abreast bus'.lcd)
    (Lcd.Abreast.refl _) ?_
  intro bus' store member same
  by_cases hcontrol : store.addr = 0xFF40
  · rw [hcontrol, write_control]
    have unswitched := h store member hcontrol
    rcases bus'.lcd.setControl_cases store.value with ⟨-, abreast⟩ | ⟨flipped, -⟩
    · exact same.trans abreast
    · rw [unswitched, same.enabled] at flipped
      simp at flipped
  · exact same.trans (bus'.write_lcd_abreast hcontrol store.value)

/-- Stores to different addresses switch the display once at most. -/
theorem writeAll_lcd_cases (distinct : (stores.map Store.addr).Nodup) :
    bus.lcd.Abreast (bus.writeAll stores).lcd ∨ bus.lcd.Switched (bus.writeAll stores).lcd := by
  induction stores generalizing bus with
  | nil => exact Or.inl (Lcd.Abreast.refl _)
  | cons store rest ih =>
      rw [List.map_cons, List.nodup_cons] at distinct
      obtain ⟨fresh, distinct⟩ := distinct
      rcases bus.write_lcd_cases store.addr store.value with abreast | ⟨hcontrol, switched⟩
      · have later := @ih (bus.write store.addr store.value) distinct
        rcases later with same | switched
        · exact Or.inl (abreast.trans same)
        · exact Or.inr (abreast.switched switched)
      · refine Or.inr (switched.abreast (writeAll_lcd_abreast ?_))
        intro other member control
        rw [hcontrol, ← control] at fresh
        exact absurd (List.mem_map_of_mem member) fresh

end Bus

end WriteAll

end DotMatrix
