import Mathlib.Data.Nat.Bitwise
import DotMatrix.Proofs.Checked.Bus
import DotMatrix.Proofs.Cpu.Step

/-!
The processor with its checks: the sums from which the flags are made, the tables of the opcodes, every
access to the bus, and the count of the cycles. A step passes them at any program counter and any stack
pointer, as long as the total of the cycles fits its width.
-/

namespace DotMatrix

namespace Cpu

def addChecked (a b : Byte) (carryIn : Bool) : Checked (Byte × Flags) := do
  let sum ← Checked.add 16 (← Checked.add 16 a.toNat b.toNat) carryIn.toNat
  let half ← Checked.add 8 (← Checked.add 8 (a.toNat % 0x10) (b.toNat % 0x10)) carryIn.toNat
  let result := UInt8.ofNat sum
  return (result,
    { zero := result == 0
      subtract := false
      halfCarry := decide (0x0F < half)
      carry := decide (0xFF < sum) })

theorem addChecked_eq (a b : Byte) (carryIn : Bool) :
    addChecked a b carryIn = some (add a b carryIn) := by
  have ha := a.toNat_lt
  have hb := b.toNat_lt
  have bit := carryIn.toNat_lt
  have sum : a.toNat + b.toNat < 2 ^ 16 := by omega
  have sumCarry : a.toNat + b.toNat + carryIn.toNat < 2 ^ 16 := by omega
  have half : a.toNat % 0x10 + b.toNat % 0x10 < 2 ^ 8 := by omega
  have halfCarry : a.toNat % 0x10 + b.toNat % 0x10 + carryIn.toNat < 2 ^ 8 := by omega
  simp only [addChecked, Checked.add_eq sum, Checked.add_eq sumCarry, Checked.add_eq half,
    Checked.add_eq halfCarry, Option.bind_eq_bind, Option.bind_some]
  rfl

/-- A difference wraps; what is checked is what is taken away. -/
def subChecked (a b : Byte) (borrowIn : Bool) : Checked (Byte × Flags) := do
  let taken ← Checked.add 16 b.toNat borrowIn.toNat
  let half ← Checked.add 16 (b.toNat % 0x10) borrowIn.toNat
  let result := UInt8.ofNat (a.toNat + 0x100 - taken)
  return (result,
    { zero := result == 0
      subtract := true
      halfCarry := decide (a.toNat % 0x10 < half)
      carry := decide (a.toNat < taken) })

theorem subChecked_eq (a b : Byte) (borrowIn : Bool) :
    subChecked a b borrowIn = some (sub a b borrowIn) := by
  have hb := b.toNat_lt
  have bit := borrowIn.toNat_lt
  have taken : b.toNat + borrowIn.toNat < 2 ^ 16 := by omega
  have half : b.toNat % 0x10 + borrowIn.toNat < 2 ^ 16 := by omega
  simp only [subChecked, Checked.add_eq taken, Checked.add_eq half, Option.bind_eq_bind,
    Option.bind_some]
  rfl

def arithmeticChecked (op : Arithmetic) (a value : Byte) (carryIn : Bool) :
    Checked (Byte × Flags) :=
  match op with
  | .add => addChecked a value false
  | .adc => addChecked a value carryIn
  | .sub => subChecked a value false
  | .sbc => subChecked a value carryIn
  | .cp => return (a, (← subChecked a value false).2)
  | .and | .xor | .or => return arithmetic op a value carryIn

theorem arithmeticChecked_eq (op : Arithmetic) (a value : Byte) (carryIn : Bool) :
    arithmeticChecked op a value carryIn = some (arithmetic op a value carryIn) := by
  cases op with
  | add | adc => exact addChecked_eq a value _
  | sub | sbc => exact subChecked_eq a value _
  | cp =>
      rw [arithmeticChecked, subChecked_eq]
      rfl
  | and | xor | or => rfl

/-- The byte with one bit set. -/
def bitMaskChecked (n : Fin 8) : Checked Byte := do
  return (1 : Byte) <<< UInt8.ofNat (← Checked.shift 8 n.val)

theorem bitMaskChecked_eq (n : Fin 8) :
    bitMaskChecked n = some ((1 : Byte) <<< UInt8.ofNat n.val) := by
  rw [bitMaskChecked, Checked.shift_eq n.isLt]
  rfl

def testBitChecked (n : Fin 8) (value : Byte) (flags : Flags) : Checked Flags := do
  let mask ← bitMaskChecked n
  return { flags with zero := value &&& mask == 0, subtract := false, halfCarry := true }

theorem testBitChecked_eq (n : Fin 8) (value : Byte) (flags : Flags) :
    testBitChecked n value flags = some (testBit n value flags) := by
  have power : ((1 : Byte) <<< UInt8.ofNat n.val).toNat = 2 ^ n.val := by
    revert n
    decide
  have zero : (value &&& ((1 : Byte) <<< UInt8.ofNat n.val) == 0) = !value.bit n.val := by
    rw [Byte.bit, Bool.eq_iff_iff, beq_iff_eq, ← UInt8.toNat_inj, UInt8.toNat_and, power,
      Nat.and_two_pow]
    cases value.toNat.testBit n.val
    · simp
    · simp
  rw [testBitChecked, bitMaskChecked_eq, Option.bind_eq_bind, Option.bind_some, zero]
  rfl

def resetBitChecked (n : Fin 8) (value : Byte) : Checked Byte := do
  return value &&& ~~~(← bitMaskChecked n)

theorem resetBitChecked_eq (n : Fin 8) (value : Byte) :
    resetBitChecked n value = some (resetBit n value) := by
  rw [resetBitChecked, bitMaskChecked_eq]
  rfl

def setBitChecked (n : Fin 8) (value : Byte) : Checked Byte := do
  return value ||| (← bitMaskChecked n)

theorem setBitChecked_eq (n : Fin 8) (value : Byte) :
    setBitChecked n value = some (setBit n value) := by
  rw [setBitChecked, bitMaskChecked_eq]
  rfl

/-- The lower twelve bits are added in a word, the words in twice the width. -/
def addWordsChecked (hl value : Word) (flags : Flags) : Checked (Word × Flags) := do
  let half ← Checked.add 16 (hl.toNat % 0x1000) (value.toNat % 0x1000)
  let sum ← Checked.add 32 hl.toNat value.toNat
  return (hl + value,
    { flags with
      subtract := false
      halfCarry := decide (0x0FFF < half)
      carry := decide (0xFFFF < sum) })

theorem addWordsChecked_eq (hl value : Word) (flags : Flags) :
    addWordsChecked hl value flags = some (addWords hl value flags) := by
  have left := hl.toNat_lt
  have right := value.toNat_lt
  have half : hl.toNat % 0x1000 + value.toNat % 0x1000 < 2 ^ 16 := by omega
  have sum : hl.toNat + value.toNat < 2 ^ 32 := by omega
  simp only [addWordsChecked, Checked.add_eq half, Checked.add_eq sum, Option.bind_eq_bind,
    Option.bind_some]
  rfl

def offsetWordChecked (sp : Word) (distance : Byte) : Checked (Word × Flags) := do
  let half ← Checked.add 16 (sp.toNat % 0x10) (distance.toNat % 0x10)
  let low ← Checked.add 16 (sp.toNat % 0x100) distance.toNat
  return (sp + distance.signExtend,
    { Flags.none with
      halfCarry := decide (0x0F < half)
      carry := decide (0xFF < low) })

theorem offsetWordChecked_eq (sp : Word) (distance : Byte) :
    offsetWordChecked sp distance = some (offsetWord sp distance) := by
  have byte := distance.toNat_lt
  have half : sp.toNat % 0x10 + distance.toNat % 0x10 < 2 ^ 16 := by omega
  have low : sp.toNat % 0x100 + distance.toNat < 2 ^ 16 := by omega
  simp only [offsetWordChecked, Checked.add_eq half, Checked.add_eq low, Option.bind_eq_bind,
    Option.bind_some]
  rfl

end Cpu

namespace Instruction

section Decode

local instance restarts_neZero : NeZero 8 := ⟨by decide⟩

/-- The instruction of an opcode; the condition of a relative jump and the address of a restart are
worked out from a field of it. -/
def decodeChecked (opcode : Byte) : Checked (Option Instruction) :=
  match opcode.toNat / 64, opcode.toNat / 8 % 8, opcode.toNat % 8 with
  | 0, 0, 0 | 0, 1, 0 | 0, 2, 0 | 0, 3, 0 => return decode opcode
  | 0, y, 0 => return some (.jumpRelative (.ofCode (← Checked.sub y 4)))
  | 3, y, 7 => return some (.rst (Fin.ofNat 8 ((← Checked.mul 16 y 8) / 8)))
  | _, _, _ => return decode opcode

theorem decodeChecked_eq (opcode : Byte) : decodeChecked opcode = some (decode opcode) := by
  have each : ∀ n < 256, decodeChecked (UInt8.ofNat n) = some (decode (UInt8.ofNat n)) := by
    decide +kernel
  have here := each opcode.toNat opcode.toNat_lt
  rwa [UInt8.ofNat_toNat] at here

end Decode

/-- The instructions of the first page; eleven places are empty. -/
def tableChecked : Checked (Vector (Option Instruction) 0x100) :=
  Vector.ofFnM fun opcode : Fin 0x100 => decodeChecked (UInt8.ofNat opcode.val)

def extendedTable : Vector Instruction 0x100 :=
  .ofFn fun opcode => decodeExtended (UInt8.ofNat opcode.val)

def lookUpChecked (opcode : Byte) : Checked (Option Instruction) := do
  (← tableChecked)[opcode.toNat]?

theorem lookUpChecked_eq (opcode : Byte) : lookUpChecked opcode = some (decode opcode) := by
  rw [lookUpChecked, tableChecked,
    Checked.ofFnM_eq fun i => decodeChecked_eq (UInt8.ofNat i.val), Option.bind_eq_bind,
    Option.bind_some, Vector.getElem?_eq_getElem opcode.toNat_lt, Vector.getElem_ofFn,
    UInt8.ofNat_toNat]

theorem extendedTable_getElem? (opcode : Byte) :
    extendedTable[opcode.toNat]? = some (decodeExtended opcode) := by
  rw [Vector.getElem?_eq_getElem opcode.toNat_lt, extendedTable, Vector.getElem_ofFn,
    UInt8.ofNat_toNat]

end Instruction

namespace Machine

def storeChecked (m : Machine) (addr : Word) (value : Byte) : Checked Machine := do
  return { m with bus := ← m.bus.writeChecked addr value }

theorem storeChecked_eq (m : Machine) (addr : Word) (value : Byte) :
    m.storeChecked addr value = some (m.store addr value) := by
  rw [storeChecked, Bus.writeChecked_eq]
  rfl

def fetchChecked (m : Machine) : Checked (Byte × Machine) := do
  let pc := m.cpu.regs.pc
  return (← m.bus.readChecked pc, { m with cpu.regs.pc := pc + 1 })

theorem fetchChecked_eq (m : Machine) : m.fetchChecked = some m.fetch := by
  simp only [fetchChecked, Bus.readChecked_eq]
  rfl

def fetchWordChecked (m : Machine) : Checked (Word × Machine) := do
  let (low, m) ← m.fetchChecked
  let (high, m) ← m.fetchChecked
  return (.ofBytes high low, m)

theorem fetchWordChecked_eq (m : Machine) : m.fetchWordChecked = some m.fetchWord := by
  simp only [fetchWordChecked, fetchChecked_eq, Option.bind_eq_bind, Option.bind_some]
  rfl

def fetchImmediateChecked (m : Machine) (form : Immediate) : Checked (Word × Machine) :=
  match form.length with
  | 0 => return (0, m)
  | 1 => do
    let (byte, m) ← m.fetchChecked
    return (.ofBytes 0 byte, m)
  | _ => m.fetchWordChecked

theorem fetchImmediateChecked_eq (m : Machine) (form : Immediate) :
    m.fetchImmediateChecked form = some (m.fetchImmediate form) := by
  cases form with
  | none => rfl
  | padding | data8 | high8 | offset8 =>
      simp only [fetchImmediateChecked, Immediate.length, fetchChecked_eq, Option.bind_eq_bind,
        Option.bind_some]
      rfl
  | data16 | address16 => exact m.fetchWordChecked_eq

def pushChecked (m : Machine) (value : Word) : Checked Machine := do
  let sp := m.cpu.regs.sp
  let m ← m.storeChecked (sp - 1) value.high
  let m ← m.storeChecked (sp - 2) value.low
  return { m with cpu.regs.sp := sp - 2 }

theorem pushChecked_eq (m : Machine) (value : Word) : m.pushChecked value = some (m.push value) := by
  simp only [pushChecked, storeChecked_eq, Option.bind_eq_bind, Option.bind_some]
  rfl

def popChecked (m : Machine) : Checked (Word × Machine) := do
  let sp := m.cpu.regs.sp
  return (← m.bus.readWordChecked sp, { m with cpu.regs.sp := sp + 2 })

theorem popChecked_eq (m : Machine) : m.popChecked = some m.pop := by
  simp only [popChecked, Bus.readWordChecked_eq]
  rfl

def readPlaceChecked (m : Machine) (place : Place) : Checked Byte :=
  match place with
  | .atHl => m.bus.readChecked m.cpu.regs.hl
  | _ => return m.readPlace place

theorem readPlaceChecked_eq (m : Machine) (place : Place) :
    m.readPlaceChecked place = some (m.readPlace place) := by
  cases place with
  | atHl => exact m.bus.readChecked_eq _
  | b | c | d | e | h | l | a => rfl

def writePlaceChecked (m : Machine) (place : Place) (value : Byte) : Checked Machine :=
  match place with
  | .atHl => m.storeChecked m.cpu.regs.hl value
  | _ => return m.writePlace place value

theorem writePlaceChecked_eq (m : Machine) (place : Place) (value : Byte) :
    m.writePlaceChecked place value = some (m.writePlace place value) := by
  cases place with
  | atHl => exact m.storeChecked_eq _ _
  | b | c | d | e | h | l | a => rfl

def setPlaceChecked (m : Machine) (place : Place) (result : Byte × Flags) : Checked Machine := do
  return { ← m.writePlaceChecked place result.1 with cpu.regs.flags := result.2 }

theorem setPlaceChecked_eq (m : Machine) (place : Place) (result : Byte × Flags) :
    m.setPlaceChecked place result = some (m.setPlace place result) := by
  rw [setPlaceChecked, writePlaceChecked_eq]
  rfl

def callToChecked (m : Machine) (target : Word) : Checked Machine := do
  return (← m.pushChecked m.cpu.regs.pc).jumpTo target

theorem callToChecked_eq (m : Machine) (target : Word) :
    m.callToChecked target = some (m.callTo target) := by
  rw [callToChecked, pushChecked_eq]
  rfl

def returnBackChecked (m : Machine) : Checked Machine := do
  let (target, m) ← m.popChecked
  return m.jumpTo target

theorem returnBackChecked_eq (m : Machine) : m.returnBackChecked = some m.returnBack := by
  rw [returnBackChecked, popChecked_eq]
  rfl

/-- The instructions that neither use the bus nor add are left as they are. -/
def executeChecked (m : Machine) (i : Instruction) (operand : Word) : Checked Machine :=
  let regs := m.cpu.regs
  match i with
  | .load dst src => do m.writePlaceChecked dst (← m.readPlaceChecked src)
  | .loadImmediate dst => m.writePlaceChecked dst operand.low
  | .storeAt pointer =>
    (m.setRegs (regs.stepPointer pointer)).storeChecked (regs.pointee pointer) regs.a
  | .loadAt pointer => do
    let value ← m.bus.readChecked (regs.pointee pointer)
    return m.setRegs { regs.stepPointer pointer with a := value }
  | .storeDirect => m.storeChecked operand regs.a
  | .loadDirect => return m.setRegs { regs with a := ← m.bus.readChecked operand }
  | .storeHigh => m.storeChecked (highAddress operand.low) regs.a
  | .loadHigh =>
    return m.setRegs { regs with a := ← m.bus.readChecked (highAddress operand.low) }
  | .storeHighC => m.storeChecked (highAddress regs.c) regs.a
  | .loadHighC => return m.setRegs { regs with a := ← m.bus.readChecked (highAddress regs.c) }
  | .storeSp => return { m with bus := ← m.bus.writeWordChecked operand regs.sp }
  | .loadSpOffset => do
    let (sum, flags) ← Cpu.offsetWordChecked regs.sp operand.low
    return m.setRegs { regs.setHl sum with flags := flags }
  | .addSpOffset => do
    let (sum, flags) ← Cpu.offsetWordChecked regs.sp operand.low
    return m.setRegs { regs with sp := sum, flags := flags }
  | .inc place => do
    m.setPlaceChecked place (Cpu.increment (← m.readPlaceChecked place) regs.flags)
  | .dec place => do
    m.setPlaceChecked place (Cpu.decrement (← m.readPlaceChecked place) regs.flags)
  | .addHl pair => do
    let (sum, flags) ← Cpu.addWordsChecked regs.hl (regs.readPair pair) regs.flags
    return m.setRegs { regs.setHl sum with flags := flags }
  | .arithmetic op src => do
    return m.setA
      (← Cpu.arithmeticChecked op regs.a (← m.readPlaceChecked src) regs.flags.carry)
  | .arithmeticImmediate op => do
    return m.setA (← Cpu.arithmeticChecked op regs.a operand.low regs.flags.carry)
  | .call cond => if cond.holds regs.flags then m.callToChecked operand else return m
  | .ret cond => if cond.holds regs.flags then m.returnBackChecked else return m
  | .reti => return { ← m.returnBackChecked with cpu.regs.ime := true }
  | .rst n => m.callToChecked (UInt16.ofNat (8 * n.val))
  | .push pair => m.pushChecked (regs.readStackPair pair)
  | .pop pair => do
    let (value, m) ← m.popChecked
    return m.setRegs (m.cpu.regs.writeStackPair pair value)
  | .shift op place => do
    m.setPlaceChecked place (Cpu.shift op (← m.readPlaceChecked place) regs.flags.carry)
  | .testBit n place => do
    let flags ← Cpu.testBitChecked n (← m.readPlaceChecked place) regs.flags
    return m.setRegs { regs with flags := flags }
  | .resetBit n place => do
    m.writePlaceChecked place (← Cpu.resetBitChecked n (← m.readPlaceChecked place))
  | .setBit n place => do
    m.writePlaceChecked place (← Cpu.setBitChecked n (← m.readPlaceChecked place))
  | _ => return m.execute i operand

theorem executeChecked_eq (m : Machine) (i : Instruction) (operand : Word) :
    m.executeChecked i operand = some (m.execute i operand) := by
  cases i with
  | load | loadImmediate | storeAt | loadAt | storeDirect | loadDirect | storeHigh | loadHigh
    | storeHighC | loadHighC | storeSp | inc | dec | rst | push | pop | reti | shift =>
      simp only [executeChecked, readPlaceChecked_eq, writePlaceChecked_eq, setPlaceChecked_eq,
        storeChecked_eq, Bus.readChecked_eq, Bus.writeWordChecked_eq, callToChecked_eq,
        returnBackChecked_eq, pushChecked_eq, popChecked_eq, Option.bind_eq_bind, Option.bind_some]
      rfl
  | loadSpOffset | addSpOffset | addHl | arithmetic | arithmeticImmediate | testBit | resetBit
    | setBit =>
      simp only [executeChecked, readPlaceChecked_eq, writePlaceChecked_eq,
        Cpu.offsetWordChecked_eq, Cpu.addWordsChecked_eq, Cpu.arithmeticChecked_eq,
        Cpu.testBitChecked_eq, Cpu.resetBitChecked_eq, Cpu.setBitChecked_eq, Option.bind_eq_bind,
        Option.bind_some]
      rfl
  | call | ret =>
      simp only [executeChecked, callToChecked_eq, returnBackChecked_eq]
      exact (apply_ite some _ _ _).symm
  | nop | stop | halt | di | ei | extended | loadPair | moveHlToSp | incPair | decPair | rlca | rrca
    | rla | rra | daa | cpl | scf | ccf | jumpRelative | jump | jumpHl => rfl

def spendChecked (m : Machine) (cycles : Nat) : Checked Machine := do
  return { m with cpu.cycles.pending := ← Checked.add 32 m.cpu.cycles.pending cycles }

theorem spendChecked_eq {m : Machine} {cycles : Nat} (settled : m.cpu.cycles.pending = 0)
    (few : cycles ≤ 6) : m.spendChecked cycles = some (m.spend cycles) := by
  have fits : m.cpu.cycles.pending + cycles < 2 ^ 32 := by omega
  rw [spendChecked, Checked.add_eq fits]
  rfl

def commitChecked (m : Machine) : Checked (Machine × Nat) := do
  let cycles := m.cpu.cycles.pending
  let total ← Checked.add 64 m.cpu.cycles.total cycles
  return ({ m with cpu.cycles := ⟨0, total⟩ }, cycles)

theorem commitChecked_eq {m : Machine} (fits : m.commit.1.cpu.cycles.total < 2 ^ 64) :
    m.commitChecked = some m.commit := by
  have total : m.cpu.cycles.total + m.cpu.cycles.pending < 2 ^ 64 := fits
  simp only [commitChecked, Checked.add_eq total]
  rfl

def serveChecked (m : Machine) (pending : Byte) : Checked Machine := do
  let interrupt := Interrupt.first pending
  let back := m.cpu.resumeAt.getD m.cpu.regs.pc
  let m : Machine :=
    { cpu := { m.cpu.wake with regs.ime := false }
      bus := m.bus.acknowledge interrupt }
  ((← m.pushChecked back).jumpTo interrupt.vector).spendChecked 5

theorem serveChecked_eq {m : Machine} (settled : m.cpu.cycles.pending = 0) (pending : Byte) :
    m.serveChecked pending = some (m.serve pending) := by
  simp only [serveChecked, pushChecked_eq, Option.bind_eq_bind, Option.bind_some]
  exact spendChecked_eq settled (by decide)

def fetchInstructionChecked (m : Machine) : Checked (Except Byte Instruction × Machine) := do
  let (opcode, m) ← m.fetchChecked
  match ← Instruction.lookUpChecked opcode with
  | none => return (.error opcode, m)
  | some .extended =>
    let (second, m) ← m.fetchChecked
    return (.ok (← Instruction.extendedTable[second.toNat]?), m)
  | some i => return (.ok i, m)

theorem fetchInstructionChecked_eq (m : Machine) :
    m.fetchInstructionChecked = some m.fetchInstruction := by
  simp only [fetchInstructionChecked, fetchInstruction, fetchChecked_eq,
    Instruction.lookUpChecked_eq, Instruction.extendedTable_getElem?, Option.bind_eq_bind,
    Option.bind_some]
  cases Instruction.decode m.fetch.1 with
  | none => rfl
  | some i => cases i <;> rfl

def executeNextChecked (m : Machine) : Checked (Machine × Option Failure) := do
  let pc := m.cpu.regs.pc
  match ← m.fetchInstructionChecked with
  | (.error opcode, m) =>
    return ({ m with cpu.cycles := m.cpu.cycles.drop }, some (.undefinedOpcode opcode pc))
  | (.ok i, m) =>
    let (operand, m) ← m.fetchImmediateChecked i.immediate
    let cycles := i.cycles m.cpu.regs.flags
    return (← (← m.executeChecked i operand).spendChecked cycles, none)

theorem executeNextChecked_eq {m : Machine} (settled : m.cpu.cycles.pending = 0) :
    m.executeNextChecked = some m.executeNext := by
  simp only [executeNextChecked, fetchInstructionChecked_eq, executeNext, Option.bind_eq_bind,
    Option.bind_some]
  rcases m.fetchInstruction_cases with ⟨-, hfetch⟩ | ⟨i, pc, hfetch⟩
  · rw [hfetch]
    rfl
  · have few := (i.cycles_bounds
      (({ m with cpu.regs.pc := pc } : Machine).fetchImmediate i.immediate).2.cpu.regs.flags).2
    have pending : ∀ operand, ((({ m with cpu.regs.pc := pc } : Machine).fetchImmediate
        i.immediate).2.execute i operand).cpu.cycles.pending = 0 := by
      intro operand
      rw [execute_cycles, fetchImmediate_snd]
      exact settled
    simp only [hfetch, fetchImmediateChecked_eq, executeChecked_eq, spendChecked_eq (pending _) few,
      Option.bind_some]
    rfl

def stepChecked (m : Machine) : Checked (Machine × Except Failure Nat) := do
  if m.serves then
    let (m, cycles) ← (← m.serveChecked m.bus.pending).commitChecked
    return (m, .ok cycles)
  else
    let m := m.awake
    if m.cpu.halted then
      let (m, cycles) ← (← m.spendChecked 1).commitChecked
      return (m, .ok cycles)
    else
      match ← m.executeNextChecked with
      | (m, some failure) => return (m, .error failure)
      | (m, none) =>
        let (m, cycles) ← m.commitChecked
        return (m, .ok cycles)

theorem stepChecked_eq {m : Machine} (settled : m.cpu.cycles.pending = 0)
    (fits : m.step.1.cpu.cycles.total < 2 ^ 64) : m.stepChecked = some m.step := by
  by_cases serving : m.serves = true
  · rw [step_serves serving] at fits ⊢
    simp only [stepChecked, serving, if_true, serveChecked_eq settled, commitChecked_eq fits,
      Option.bind_eq_bind, Option.bind_some]
    rfl
  · have idle : m.serves = false := by simpa using serving
    have awakeSettled : m.awake.cpu.cycles.pending = 0 := by
      rw [awake_cycles]
      exact settled
    by_cases asleep : m.awake.cpu.halted = true
    · rw [step_sleeps idle asleep] at fits ⊢
      simp only [stepChecked, if_neg serving, if_pos asleep,
        spendChecked_eq awakeSettled (show 1 ≤ 6 by decide), commitChecked_eq fits,
        Option.bind_eq_bind, Option.bind_some]
      rfl
    · have up : m.awake.cpu.halted = false := by simpa using asleep
      rw [step_next idle up] at fits ⊢
      simp only [stepChecked, if_neg serving, if_neg asleep, executeNextChecked_eq awakeSettled,
        Option.bind_eq_bind, Option.bind_some]
      rcases hnext : m.awake.executeNext with ⟨m', _ | failure⟩
      · rw [hnext] at fits
        simp only [commitChecked_eq fits, Option.bind_some]
        rfl
      · rfl

end Machine

end DotMatrix
