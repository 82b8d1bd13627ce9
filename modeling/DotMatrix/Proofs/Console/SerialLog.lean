import DotMatrix.Proofs.Console.Interrupts
import DotMatrix.Proofs.Console.Reset

/-!
The log of the serial port while a program runs. Nothing that a program does takes a byte from it, so
whatever has been sent stays at its front, frame after frame.
-/

namespace DotMatrix

theorem SerialPort.log_prefix {port port' : SerialPort} (same : port' = port) :
    port.log.toList <+: port'.log.toList := by
  obtain rfl := same
  exact List.prefix_refl _

theorem SerialPort.write_log (port : SerialPort) (addr : Word) (value : Byte) :
    port.log.toList <+: (port.write addr value).log.toList := by
  unfold write
  split
  · exact List.prefix_refl _
  · dsimp only
    split
    · simp only [exchange, Array.toList_push]
      exact List.prefix_append _ _
    · exact List.prefix_refl _
  · exact List.prefix_refl _

namespace Bus

theorem write_log (bus : Bus) (addr : Word) (value : Byte) :
    bus.serial.log.toList <+: (bus.write addr value).serial.log.toList := by
  unfold write
  split
  case h_13 =>
    rw [writeSerial_eq, requestIf_serial]
    exact bus.serial.write_log addr value
  case h_14 =>
    apply SerialPort.log_prefix
    rw [writeTimer_eq, requestIf_serial]
  all_goals exact List.prefix_refl _

theorem writeAll_log (bus : Bus) (stores : List Store) :
    bus.serial.log.toList <+: (bus.writeAll stores).serial.log.toList :=
  writeAll_induction (motive := fun bus' => bus.serial.log.toList <+: bus'.serial.log.toList)
    (List.prefix_refl _) fun bus' store _ before =>
      before.trans (bus'.write_log store.addr store.value)

theorem elapse_serial (bus : Bus) (cycles : Nat) : (bus.elapse cycles).serial = bus.serial := by
  rw [elapse_eq, requestIf_serial]
  rfl

end Bus

theorem Machine.answered_serial (m : Machine) : m.answered.serial = m.bus.serial := by
  unfold answered
  split <;> rfl

namespace Console

theorem dispatch_log (c : Console) :
    c.bus.serial.log.toList <+: c.dispatch.1.bus.serial.log.toList := by
  rcases c.dispatch_outcome with passes | ⟨same, -⟩
  · rw [passes.bus, Bus.elapse_serial, stored, ← c.answered_serial]
    exact c.answered.writeAll_log c.stores
  · exact SerialPort.log_prefix (congrArg Bus.serial same)

/-- A console that a cartridge has just been put into has sent nothing. -/
theorem insert_log (c : Console) (cartridge : Cartridge) :
    (c.insert cartridge).bus.serial.log = #[] := by
  rw [insert, reset_eq_booted, booted, bootRegisters_eq]
  rfl

end Console

end DotMatrix
