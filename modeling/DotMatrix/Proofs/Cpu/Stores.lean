import DotMatrix.Cpu.Step

/-!
What the processor stores on the bus. Every instruction has a list of stores, in the order in which
they are made, and so has every step. Apart from the request that an interrupt service takes back,
a step changes the bus by its stores and by nothing else, and no two of them go to the same
address.
-/

namespace DotMatrix

/-- A byte on its way to an address. -/
structure Store where
  addr : Word
  value : Byte
  deriving DecidableEq, Repr

/-- Makes stores one after the other. -/
def Bus.writeAll (bus : Bus) (stores : List Store) : Bus :=
  stores.foldl (fun bus store => bus.write store.addr store.value) bus

namespace Machine

/-- The store of a result to its place; a register takes none. -/
def placeStores (m : Machine) (place : Place) (value : Byte) : List Store :=
  if place = .atHl then [⟨m.cpu.regs.hl, value⟩] else []

def stackStores (m : Machine) (value : Word) : List Store :=
  [⟨m.cpu.regs.sp - 1, value.high⟩, ⟨m.cpu.regs.sp - 2, value.low⟩]

def instructionStores (m : Machine) (i : Instruction) (operand : Word) : List Store :=
  let regs := m.cpu.regs
  match i with
  | .load dst src => m.placeStores dst (m.readPlace src)
  | .loadImmediate dst => m.placeStores dst operand.low
  | .storeAt pointer => [⟨regs.pointee pointer, regs.a⟩]
  | .storeDirect => [⟨operand, regs.a⟩]
  | .storeHigh => [⟨highAddress operand.low, regs.a⟩]
  | .storeHighC => [⟨highAddress regs.c, regs.a⟩]
  | .storeSp => [⟨operand, regs.sp.low⟩, ⟨operand + 1, regs.sp.high⟩]
  | .inc place => m.placeStores place (Cpu.increment (m.readPlace place) regs.flags).1
  | .dec place => m.placeStores place (Cpu.decrement (m.readPlace place) regs.flags).1
  | .call cond => if cond.holds regs.flags then m.stackStores regs.pc else []
  | .rst _ => m.stackStores regs.pc
  | .push pair => m.stackStores (regs.readStackPair pair)
  | .shift op place =>
    m.placeStores place (Cpu.shift op (m.readPlace place) regs.flags.carry).1
  | .resetBit n place => m.placeStores place (Cpu.resetBit n (m.readPlace place))
  | .setBit n place => m.placeStores place (Cpu.setBit n (m.readPlace place))
  | _ => []

/-- The processor as it looks for something to do: a request wakes it. -/
def awake (m : Machine) : Machine :=
  if m.bus.pending != 0 then { m with cpu := m.cpu.wake } else m

/-- Will the next step serve an interrupt? -/
def serves (m : Machine) : Bool :=
  m.bus.pending != 0 && m.cpu.regs.ime

/-- The stores of the next step. -/
def stores (m : Machine) : List Store :=
  if m.serves then m.stackStores (m.cpu.resumeAt.getD m.cpu.regs.pc)
  else if m.awake.cpu.halted then []
  else
    match m.awake.fetchInstruction with
    | (.error _, _) => []
    | (.ok i, m) =>
      let (operand, m) := m.fetchImmediate i.immediate
      m.instructionStores i operand

section Bus

variable (m : Machine)

theorem writePlace_bus (place : Place) (value : Byte) :
    (m.writePlace place value).bus = m.bus.writeAll (m.placeStores place value) := by
  cases place <;> rfl

theorem setPlace_bus (place : Place) (result : Byte × Flags) :
    (m.setPlace place result).bus = m.bus.writeAll (m.placeStores place result.1) :=
  m.writePlace_bus place result.1

theorem callTo_bus (target : Word) :
    (m.callTo target).bus = m.bus.writeAll (m.stackStores m.cpu.regs.pc) := rfl

/-- An instruction changes the bus by its stores. -/
theorem execute_bus (i : Instruction) (operand : Word) :
    (m.execute i operand).bus = m.bus.writeAll (m.instructionStores i operand) := by
  cases i with
  | load dst src => exact m.writePlace_bus dst _
  | loadImmediate dst => exact m.writePlace_bus dst _
  | inc place => exact m.setPlace_bus place _
  | dec place => exact m.setPlace_bus place _
  | shift op place => exact m.setPlace_bus place _
  | resetBit n place => exact m.writePlace_bus place _
  | setBit n place => exact m.writePlace_bus place _
  | jumpRelative cond =>
      simp only [execute, instructionStores]
      split <;> rfl
  | jump cond =>
      simp only [execute, instructionStores]
      split <;> rfl
  | call cond =>
      simp only [execute, instructionStores]
      split
      · exact m.callTo_bus operand
      · rfl
  | ret cond =>
      simp only [execute, instructionStores]
      split <;> rfl
  | _ => rfl

end Bus

section Cycles

variable (m : Machine)

@[simp] theorem writePlace_cycles (place : Place) (value : Byte) :
    (m.writePlace place value).cpu.cycles = m.cpu.cycles := by
  cases place <;> rfl

@[simp] theorem setPlace_cycles (place : Place) (result : Byte × Flags) :
    (m.setPlace place result).cpu.cycles = m.cpu.cycles :=
  m.writePlace_cycles place result.1

/-- An instruction leaves the count of the cycles alone. -/
theorem execute_cycles (i : Instruction) (operand : Word) :
    (m.execute i operand).cpu.cycles = m.cpu.cycles := by
  cases i with
  | load dst src => exact m.writePlace_cycles dst _
  | loadImmediate dst => exact m.writePlace_cycles dst _
  | inc place => exact m.setPlace_cycles place _
  | dec place => exact m.setPlace_cycles place _
  | shift op place => exact m.setPlace_cycles place _
  | resetBit n place => exact m.writePlace_cycles place _
  | setBit n place => exact m.writePlace_cycles place _
  | jumpRelative cond =>
      simp only [execute]
      split <;> rfl
  | jump cond =>
      simp only [execute]
      split <;> rfl
  | call cond =>
      simp only [execute]
      split <;> rfl
  | ret cond =>
      simp only [execute]
      split <;> rfl
  | _ => rfl

end Cycles

section Fetch

variable (m : Machine)

theorem fetchImmediate_snd (form : Immediate) :
    (m.fetchImmediate form).2 =
      { m with cpu.regs.pc := m.cpu.regs.pc + UInt16.ofNat form.length } := by
  have two : (1 : Word) + 1 = 2 := by decide
  cases form <;>
    simp [fetchImmediate, fetchWord, fetch, Immediate.length, UInt16.add_assoc, two]

end Fetch

section Addresses

variable (m : Machine)

theorem placeStores_nodup (place : Place) (value : Byte) :
    ((m.placeStores place value).map Store.addr).Nodup := by
  unfold placeStores
  split <;> simp

theorem stackStores_nodup (value : Word) : ((m.stackStores value).map Store.addr).Nodup := by
  simp [stackStores]

theorem instructionStores_nodup (i : Instruction) (operand : Word) :
    ((m.instructionStores i operand).map Store.addr).Nodup := by
  unfold instructionStores
  split
  case h_10 =>
    dsimp only
    split
    · exact m.stackStores_nodup _
    · exact List.nodup_nil
  case h_11 | h_12 => exact m.stackStores_nodup _
  case h_1 | h_2 | h_8 | h_9 | h_13 | h_14 | h_15 => exact m.placeStores_nodup _ _
  all_goals simp

theorem stores_nodup : (m.stores.map Store.addr).Nodup := by
  unfold stores
  split
  · exact m.stackStores_nodup _
  · split
    · exact List.nodup_nil
    · split
      · exact List.nodup_nil
      · exact instructionStores_nodup _ _ _

end Addresses

end Machine

end DotMatrix
