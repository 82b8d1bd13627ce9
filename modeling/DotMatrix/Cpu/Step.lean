import DotMatrix.Cpu.Execute
import DotMatrix.Failure
import DotMatrix.Instruction.Decode

/-!
One step of the processor: it serves an interrupt, or sleeps on for a cycle, or executes the next
instruction. A step that succeeds commits the cycles it took and says how many; one that meets an
undefined opcode commits none.
-/

namespace DotMatrix.Machine

/-- Serves the first of the pending interrupts. A sleeping processor goes back to where it would
have gone on. -/
def serve (m : Machine) (pending : Byte) : Machine :=
  let interrupt := Interrupt.first pending
  let back := m.cpu.resumeAt.getD m.cpu.regs.pc
  let m : Machine :=
    { cpu := { m.cpu.wake with regs.ime := false }
      bus := m.bus.acknowledge interrupt }
  ((m.push back).jumpTo interrupt.vector).spend 5

/-- Fetches an instruction; on failure, the opcode that encodes none. -/
def fetchInstruction (m : Machine) : Except Byte Instruction × Machine :=
  let (opcode, m) := m.fetch
  match Instruction.decode opcode with
  | none => (.error opcode, m)
  | some .extended =>
    let (second, m) := m.fetch
    (.ok (Instruction.decodeExtended second), m)
  | some i => (.ok i, m)

def executeNext (m : Machine) : Machine × Option Failure :=
  let pc := m.cpu.regs.pc
  match m.fetchInstruction with
  | (.error opcode, m) =>
    ({ m with cpu.cycles := m.cpu.cycles.drop }, some (.undefinedOpcode opcode pc))
  | (.ok i, m) =>
    let (operand, m) := m.fetchImmediate i.immediate
    let cycles := i.cycles m.cpu.regs.flags
    ((m.execute i operand).spend cycles, none)

def commit (m : Machine) : Machine × Nat :=
  let cycles := m.cpu.cycles.pending
  ({ m with cpu.cycles := m.cpu.cycles.commit }, cycles)

/-- One step: the machine afterwards with the cycles taken, or with what went wrong. -/
def step (m : Machine) : Machine × Except Failure Nat :=
  let pending := m.bus.pending
  if pending != 0 && m.cpu.regs.ime then
    let (m, cycles) := (m.serve pending).commit
    (m, .ok cycles)
  else
    let m := if pending != 0 then { m with cpu := m.cpu.wake } else m
    if m.cpu.halted then
      let (m, cycles) := (m.spend 1).commit
      (m, .ok cycles)
    else
      match m.executeNext with
      | (m, some failure) => (m, .error failure)
      | (m, none) =>
        let (m, cycles) := m.commit
        (m, .ok cycles)

end DotMatrix.Machine
