import DotMatrix.Proofs.Console.Changes

/-!
Interrupt requests. Five devices ask for interrupts, and each request is in the request register as
soon as it is made: no device holds one back, none gets lost, and none comes from nowhere.
-/

namespace DotMatrix

namespace Interrupt

/-- No bit is set but those of the five interrupts. -/
def Masked (requests : Byte) : Prop :=
  requests &&& allMask = requests

theorem masked_and_allMask (b : Byte) : Masked (b &&& allMask) := by
  rw [Masked, UInt8.and_assoc, UInt8.and_self]

theorem masked_zero : Masked 0 := rfl

theorem mask_masked (interrupt : Interrupt) : Masked interrupt.mask := by
  cases interrupt <;> rfl

namespace Masked

variable {a b : Byte}

theorem or (ha : Masked a) (hb : Masked b) : Masked (a ||| b) := by
  apply UInt8.toNat_inj.mp
  rw [UInt8.toNat_and, UInt8.toNat_or, Nat.and_or_distrib_right, ← UInt8.toNat_and,
    ← UInt8.toNat_and, ha, hb]

theorem and (ha : Masked a) (b : Byte) : Masked (a &&& b) := by
  rw [Masked, UInt8.and_assoc, UInt8.and_comm b, ← UInt8.and_assoc, ha]

end Masked

end Interrupt

namespace Lcd

open Interrupt (Masked)

theorem enter_masked (lcd : Lcd) (mode : Mode) : Masked (lcd.enter mode).2 := by
  unfold enter
  dsimp only
  split <;> rfl

theorem endMode_masked (lcd : Lcd) : Masked lcd.endMode.2 := by
  unfold endMode
  split
  · exact enter_masked _ _
  · exact enter_masked _ _
  · split
    · exact (enter_masked _ _).or (Interrupt.mask_masked .vblank)
    · exact enter_masked _ _
  · split
    · exact enter_masked _ _
    · exact Interrupt.masked_zero

/-- What has been requested when a run begins is not lost, and what comes to it is masked. -/
theorem run_masked (lcd : Lcd) (time : Nat) {requests : Byte} (h : Masked requests) :
    Masked (lcd.run time requests).2 := by
  induction time using Nat.strongRecOn generalizing lcd requests with
  | ind time ih =>
      rw [run_eq]
      split
      · next enough =>
          have pos := lcd.mode.duration_pos
          exact ih (time - lcd.mode.duration) (by omega) _ (h.or lcd.endMode_masked)
      · exact h

theorem step_masked (lcd : Lcd) (cycles : Nat) : Masked (lcd.step cycles).2 := by
  unfold step
  dsimp only
  split
  · exact run_masked _ _ Interrupt.masked_zero
  · exact Interrupt.masked_zero

end Lcd

namespace Bus

open Interrupt (Masked)

/-- The request register has no bits but those of the interrupts, and neither the timer nor the serial
port wants one that is not requested yet. -/
structure Delivered (bus : Bus) : Prop where
  masked : Masked bus.requested
  timer : bus.timer.overflowed = false
  serial : bus.serial.completed = false

/-- The bits of an interrupt that is asked for, or none. -/
def raised (reason : Bool) (interrupt : Interrupt) : Byte :=
  if reason then interrupt.mask else 0

section Requests

variable {bus bus' : Bus}

theorem requestIf_requested {L : Type} (bus : Bus L) (reason : Bool) (interrupt : Interrupt) :
    (bus.requestIf reason interrupt).requested = bus.requested ||| raised reason interrupt := by
  cases reason with
  | false => exact UInt8.or_zero.symm
  | true => exact congrArg (bus.requested ||| ·) (Interrupt.mask_masked interrupt)

@[simp] theorem requestIf_serial {L : Type} (bus : Bus L) (reason : Bool) (interrupt : Interrupt) :
    (bus.requestIf reason interrupt).serial = bus.serial := by
  cases reason <;> rfl

theorem raised_masked (reason : Bool) (interrupt : Interrupt) : Masked (raised reason interrupt) := by
  cases reason with
  | false => exact Interrupt.masked_zero
  | true => exact Interrupt.mask_masked interrupt

theorem requestIf_delivered (h : bus.Delivered) (reason : Bool) (interrupt : Interrupt) :
    (bus.requestIf reason interrupt).Delivered where
  masked := by
    rw [requestIf_requested]
    exact h.masked.or (raised_masked reason interrupt)
  timer := by
    rw [requestIf_timer]
    exact h.timer
  serial := by
    rw [requestIf_serial]
    exact h.serial

theorem Delivered.congr (h : bus.Delivered) (requested : bus'.requested = bus.requested)
    (timer : bus'.timer = bus.timer) (serial : bus'.serial = bus.serial) : bus'.Delivered :=
  ⟨requested ▸ h.masked, timer ▸ h.timer, serial ▸ h.serial⟩

end Requests

section Change

variable {bus bus' : Bus}

theorem writeSerial_eq {L : Type} [LinkPort L] (bus : Bus L) (addr : Word) (value : Byte) :
    bus.writeSerial addr value =
      { bus with serial := (bus.serial.write addr value).takeCompletion.1 }.requestIf
        (bus.serial.write addr value).completed .serial := rfl

theorem writeTimer_eq (bus : Bus) (addr : Word) (value : Byte) :
    bus.writeTimer addr value =
      { bus with timer := (bus.timer.write addr value).takeOverflow.1 }.requestIf
        (bus.timer.write addr value).overflowed .timer := rfl

theorem elapse_eq (bus : Bus) (cycles : Nat) :
    bus.elapse cycles =
      ({ bus with
          lcd := (bus.lcd.step cycles).1
          timer := (bus.timer.step cycles).1 }.request (bus.lcd.step cycles).2).requestIf
        (bus.timer.step cycles).2 .timer := rfl

theorem write_delivered (h : bus.Delivered) (addr : Word) (value : Byte) :
    (bus.write addr value).Delivered := by
  unfold write
  split
  case h_13 =>
    rw [writeSerial_eq]
    apply requestIf_delivered
    exact ⟨h.masked, h.timer, rfl⟩
  case h_14 =>
    rw [writeTimer_eq]
    apply requestIf_delivered
    exact ⟨h.masked, rfl, h.serial⟩
  case h_15 => exact ⟨Interrupt.masked_and_allMask value, h.timer, h.serial⟩
  case h_16 =>
    unfold transferOam
    exact h.congr rfl rfl rfl
  all_goals exact h.congr rfl rfl rfl

theorem elapse_delivered (h : bus.Delivered) (cycles : Nat) : (bus.elapse cycles).Delivered := by
  rw [elapse_eq]
  apply requestIf_delivered
  exact ⟨h.masked.or (Interrupt.masked_and_allMask _), rfl, h.serial⟩

theorem Change.delivered (change : bus.Change bus') (h : bus.Delivered) : bus'.Delivered := by
  cases change with
  | write addr value => exact write_delivered h addr value
  | acknowledge interrupt => exact ⟨h.masked.and _, h.timer, h.serial⟩
  | elapse cycles => exact elapse_delivered h cycles
  | reset => exact ⟨Interrupt.masked_zero, rfl, rfl⟩
  | press key =>
      apply requestIf_delivered
      exact h.congr rfl rfl rfl
  | request mask => exact ⟨h.masked.or (Interrupt.masked_and_allMask mask), h.timer, h.serial⟩
  | stepTimer cycles => exact ⟨h.masked, rfl, h.serial⟩
  | plug link => exact ⟨h.masked, h.timer, h.serial⟩
  | collect => exact ⟨h.masked, h.timer, h.serial⟩
  | insert | restore | fill | release | setNow | stepLcd | setOam => exact h.congr rfl rfl rfl

end Change

end Bus

namespace BusRegion

/-- The devices whose registers ask for an interrupt, and the request register itself, are below the
high RAM in the last page. -/
theorem requesting_addresses {addr : Word}
    (h : ofAddress addr = .serial ∨ ofAddress addr = .timer ∨ ofAddress addr = .interruptRequest) :
    0xFF00 ≤ addr.toNat ∧ addr.toNat ≤ 0xFF7F := by
  by_cases below : addr.toNat < 0xFF00
  · grind [ofAddress]
  · by_cases above : addr.toNat < 0xFF80
    · omega
    · grind [ofAddress]

theorem ofAddress_timer {addr : Word} (first : 0xFF04 ≤ addr.toNat) (last : addr.toNat ≤ 0xFF07) :
    ofAddress addr = .timer := by
  have four : addr = 0xFF04 ∨ addr = 0xFF05 ∨ addr = 0xFF06 ∨ addr = 0xFF07 := by
    simp only [← UInt16.toNat_inj, UInt16.reduceToNat]
    omega
  rcases four with rfl | rfl | rfl | rfl <;> decide

end BusRegion

namespace Machine

/-- The bit of the request that the next step serves, or none. -/
def served (m : Machine) : Byte :=
  Bus.raised m.serves (Interrupt.first m.bus.pending)

theorem answered_requested (m : Machine) :
    m.answered.requested = m.bus.requested &&& ~~~m.served := by
  unfold answered served
  cases m.serves with
  | true => rfl
  | false =>
      have all : ~~~(0 : Byte) = -1 := rfl
      change m.bus.requested = m.bus.requested &&& ~~~(0 : Byte)
      rw [all, UInt8.and_neg_one]

theorem answered_delivered {m : Machine} (h : m.bus.Delivered) : m.answered.Delivered := by
  unfold answered
  split
  · exact ⟨h.masked.and _, h.timer, h.serial⟩
  · exact h

end Machine

namespace Bus

section Requested

variable {bus : Bus}

theorem elapse_requested (h : bus.Delivered) (cycles : Nat) :
    (bus.elapse cycles).requested =
      bus.requested ||| (bus.lcd.step cycles).2 |||
        raised (Timer.overflowsWithin (4 * cycles) bus.timer) .timer := by
  rw [elapse_eq, requestIf_requested, Timer.step_overflow h.timer]
  have masked : (bus.lcd.step cycles).2 &&& Interrupt.allMask = (bus.lcd.step cycles).2 :=
    bus.lcd.step_masked cycles
  rw [request, masked]

/-- A store outside the device registers leaves the requests and the timer alone. -/
theorem write_quiet (bus : Bus) {addr : Word} (outside : ¬ (0xFF00 ≤ addr.toNat ∧ addr.toNat ≤ 0xFF7F))
    (value : Byte) :
    (bus.write addr value).requested = bus.requested ∧
      (bus.write addr value).timer = bus.timer := by
  unfold write
  split
  case h_13 region => exact absurd (BusRegion.requesting_addresses (.inl region)) outside
  case h_14 region => exact absurd (BusRegion.requesting_addresses (.inr (.inl region))) outside
  case h_15 region => exact absurd (BusRegion.requesting_addresses (.inr (.inr region))) outside
  case h_16 =>
    unfold transferOam
    exact ⟨rfl, rfl⟩
  all_goals exact ⟨rfl, rfl⟩

theorem writeAll_quiet (bus : Bus) {stores : List Store}
    (outside : ∀ store ∈ stores, ¬ (0xFF00 ≤ store.addr.toNat ∧ store.addr.toNat ≤ 0xFF7F)) :
    (bus.writeAll stores).requested = bus.requested ∧ (bus.writeAll stores).timer = bus.timer := by
  refine writeAll_induction
    (motive := fun bus' => bus'.requested = bus.requested ∧ bus'.timer = bus.timer) ⟨rfl, rfl⟩ ?_
  intro bus' store member same
  have quiet := bus'.write_quiet (outside store member) store.value
  exact ⟨quiet.1.trans same.1, quiet.2.trans same.2⟩

theorem write_timer_requested (h : bus.Delivered) {addr : Word} (first : 0xFF04 ≤ addr.toNat)
    (last : addr.toNat ≤ 0xFF07) (value : Byte) :
    (bus.write addr value).requested =
      bus.requested ||| raised (bus.timer.overflowsAt (bus.timer.write addr value).signal) .timer := by
  unfold write
  rw [BusRegion.ofAddress_timer first last]
  dsimp only
  rw [writeTimer_eq, requestIf_requested, Timer.write_overflowed, h.timer, Bool.false_or]

theorem write_serial_requested (h : bus.Delivered) (value : Byte) :
    (bus.write 0xFF02 value).requested =
      bus.requested ||| raised (value.bit 7 && value.bit 0) .serial := by
  have completes : (bus.serial.write 0xFF02 value).completed = (value.bit 7 && value.bit 0) := by
    change (if value.bit 7 && value.bit 0 then _ else _ : SerialPort).completed = _
    split
    · next starts => exact starts.symm
    · next idle => exact h.serial.trans (Bool.eq_false_iff.mpr idle).symm
  rw [← completes]
  exact requestIf_requested _ _ _

end Requested

end Bus

namespace Console

variable {c : Console}

theorem Reachable.delivered (h : c.Reachable) : c.bus.Delivered :=
  h.bus_invariant (motive := Bus.Delivered) (fun _ => ⟨Interrupt.masked_zero, rfl, rfl⟩)
    fun _ _ change delivered => change.delivered delivered

theorem stored_delivered (h : c.bus.Delivered) : c.stored.Delivered :=
  Bus.writeAll_induction (motive := Bus.Delivered) (Machine.answered_delivered h)
    fun _ store _ delivered => Bus.write_delivered delivered store.addr store.value

/-- A dispatch that stores to no device register serves at most one request, and what comes to the
others is what the LCD controller asks for and an overflow of the timer. -/
theorem dispatch_requested (h : c.bus.Delivered) {cycles : Nat} (ran : c.dispatch.2 = .ok cycles)
    (outside : ∀ store ∈ c.stores, ¬ (0xFF00 ≤ store.addr.toNat ∧ store.addr.toNat ≤ 0xFF7F)) :
    c.dispatch.1.bus.requested =
      (c.bus.requested &&& ~~~c.served) ||| (c.stored.lcd.step cycles).2 |||
        Bus.raised (Timer.overflowsWithin (4 * cycles) c.bus.timer) .timer := by
  obtain ⟨requested, timer⟩ := c.answered.writeAll_quiet outside
  have before : c.stored.requested = c.bus.requested &&& ~~~c.served :=
    requested.trans c.answered_requested
  have same : c.stored.timer = c.bus.timer := timer.trans c.answered_timer
  rw [(dispatch_ok ran).bus, Bus.elapse_requested (stored_delivered h), before, same]

theorem keyDown_requested (c : Console) (key : Key) :
    (c.keyDown key).bus.requested =
      c.bus.requested ||| Bus.raised (!c.bus.joypad.isPressed key) .joypad :=
  Bus.requestIf_requested _ _ _

/-- No request is lost and none is invented: every operation leaves all requests delivered, and a
dispatch, a write to a register of the timer or of the serial port and a key that is pressed change the
request register by exactly the interrupts that they serve and that they cause. -/
theorem requests_exact (h : c.Reachable) :
    (c.bus.Delivered ∧ ∀ op, (c.perform op).1.bus.Delivered) ∧
    (∀ cycles, c.dispatch.2 = .ok cycles →
      (∀ store ∈ c.stores, ¬ (0xFF00 ≤ store.addr.toNat ∧ store.addr.toNat ≤ 0xFF7F)) →
      c.dispatch.1.bus.requested =
        (c.bus.requested &&& ~~~c.served) ||| (c.stored.lcd.step cycles).2 |||
          Bus.raised (Timer.overflowsWithin (4 * cycles) c.bus.timer) .timer) ∧
    (∀ addr value, 0xFF04 ≤ addr.toNat → addr.toNat ≤ 0xFF07 →
      (c.bus.write addr value).requested =
        c.bus.requested |||
          Bus.raised (c.bus.timer.overflowsAt (c.bus.timer.write addr value).signal) .timer) ∧
    (∀ value, (c.bus.write 0xFF02 value).requested =
      c.bus.requested ||| Bus.raised (value.bit 7 && value.bit 0) .serial) ∧
    (∀ key, (c.keyDown key).bus.requested =
      c.bus.requested ||| Bus.raised (!c.bus.joypad.isPressed key) .joypad) := by
  have delivered := h.delivered
  refine ⟨⟨delivered, fun op => (h.perform op).delivered⟩, ?_, ?_, ?_, c.keyDown_requested⟩
  · intro cycles ran outside
    exact dispatch_requested delivered ran outside
  · intro addr value first last
    exact Bus.write_timer_requested delivered first last value
  · intro value
    exact Bus.write_serial_requested delivered value

/-- A console whose program lets the timer count every 16 ticks, has filled its counter and goes on. -/
def fullTimer : Console :=
  (running #[0x3E, 0x05, 0xE0, 0x07, 0x3E, 0xFF, 0x00, 0xE0, 0x05, 0x00]).performAll
    (List.replicate 5 .dispatch)

/-- The signal is about to fall, so the next instruction overflows the counter, and so does a write that
clears the divider or disables the timer. -/
theorem requests_exact_fullTimer :
    fullTimer.Reachable ∧ fullTimer.dispatch.2 = .ok 1 ∧
      (∀ store ∈ fullTimer.stores,
        ¬ (0xFF00 ≤ store.addr.toNat ∧ store.addr.toNat ≤ 0xFF7F)) ∧
      fullTimer.bus.requested = 0 ∧ fullTimer.dispatch.1.bus.requested = 0x04 ∧
      (fullTimer.bus.write 0xFF04 0x42).requested = 0x04 ∧
      (fullTimer.bus.write 0xFF07 0x01).requested = 0x04 ∧
      (fullTimer.bus.write 0xFF02 0x81).requested = 0x08 ∧
      (fullTimer.keyDown .start).bus.requested = 0x10 := by
  have reachable : fullTimer.Reachable := (running_reachable _).performAll _
  have ran : fullTimer.dispatch.2 = .ok 1 := by
    have one : fullTimer.dispatch.2.toOption = some 1 := by decide +kernel
    cases hd : fullTimer.dispatch.2 with
    | error failure =>
        rw [hd] at one
        cases one
    | ok cycles =>
        rw [hd] at one
        exact congrArg Except.ok (Option.some.inj one)
  have facts : fullTimer.stores = [] ∧ fullTimer.bus.requested = 0 ∧ fullTimer.served = 0 ∧
      (fullTimer.stored.lcd.step 1).2 = 0 ∧
      fullTimer.bus.timer = ⟨44, 0xFF, 0, 5, true, false⟩ ∧
      fullTimer.bus.joypad.isPressed .start = false := by decide +kernel
  obtain ⟨stores, requested, served, asked, timer, up⟩ := facts
  have outside : ∀ store ∈ fullTimer.stores,
      ¬ (0xFF00 ≤ store.addr.toNat ∧ store.addr.toNat ≤ 0xFF7F) := by
    rw [stores]
    simp
  obtain ⟨-, dispatched, written, sent, pressed⟩ := requests_exact reachable
  refine ⟨reachable, ran, outside, requested, ?_, ?_, ?_, ?_, ?_⟩
  · rw [dispatched 1 ran outside, requested, served, asked, timer]
    decide
  · rw [written 0xFF04 0x42 (by decide) (by decide), requested, timer]
    decide
  · rw [written 0xFF07 0x01 (by decide) (by decide), requested, timer]
    decide
  · rw [sent, requested]
    decide
  · rw [pressed, requested, up]
    decide

end Console

end DotMatrix
