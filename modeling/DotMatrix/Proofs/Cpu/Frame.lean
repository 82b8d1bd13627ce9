import DotMatrix.Proofs.Cpu.Stores

/-!
What an instruction touches. Every instruction has parts of the register file that it may write and
addresses that it stores to; it leaves all other parts as they are, and changes the bus by one store to
each of these addresses, in order, and by nothing else.
-/

namespace DotMatrix

/-- A part of the register file, apart from the program counter. -/
inductive RegisterPart where
  | a | b | c | d | e | h | l | f | sp | ime
  deriving DecidableEq, Repr

namespace Registers

/-- What a part holds. -/
def part (r : Registers) : RegisterPart → Nat
  | .a => r.a.toNat
  | .b => r.b.toNat
  | .c => r.c.toNat
  | .d => r.d.toNat
  | .e => r.e.toNat
  | .h => r.h.toNat
  | .l => r.l.toNat
  | .f => r.f.toNat
  | .sp => r.sp.toNat
  | .ime => r.ime.toNat

end Registers

theorem Flags.toByte_low (flags : Flags) : flags.toByte.toNat % 16 = 0 := by
  obtain ⟨zero, subtract, half, carry⟩ := flags
  cases zero <;> cases subtract <;> cases half <;> cases carry <;> rfl

/-- The register at a place; there is none where `HL` points. -/
def Place.targets : Place → List RegisterPart
  | b => [.b]
  | c => [.c]
  | d => [.d]
  | e => [.e]
  | h => [.h]
  | l => [.l]
  | atHl => []
  | a => [.a]

def Pair.targets : Pair → List RegisterPart
  | bc => [.b, .c]
  | de => [.d, .e]
  | hl => [.h, .l]
  | sp => [.sp]

def StackPair.targets : StackPair → List RegisterPart
  | bc => [.b, .c]
  | de => [.d, .e]
  | hl => [.h, .l]
  | af => [.a, .f]

/-- The pointer steps if it is one of those that do. -/
def Pointer.targets : Pointer → List RegisterPart
  | bc | de => []
  | hlUp | hlDown => [.h, .l]

/-- A comparison keeps `A`. -/
def Arithmetic.targets : Arithmetic → List RegisterPart
  | cp => [.f]
  | _ => [.a, .f]

namespace Instruction

/-- The parts that an instruction may write when it finds the given flags. -/
def targets (i : Instruction) (flags : Flags) : List RegisterPart :=
  match i with
  | nop | stop | halt | extended => []
  | di | ei => [.ime]
  | load dst _ | loadImmediate dst => dst.targets
  | loadPair dst => dst.targets
  | storeAt pointer => pointer.targets
  | loadAt pointer => .a :: pointer.targets
  | storeDirect | storeHigh | storeHighC | storeSp => []
  | loadDirect | loadHigh | loadHighC => [.a]
  | moveHlToSp => [.sp]
  | loadSpOffset => [.h, .l, .f]
  | addSpOffset => [.sp, .f]
  | inc place | dec place => .f :: place.targets
  | incPair pair | decPair pair => pair.targets
  | addHl _ => [.h, .l, .f]
  | arithmetic op _ | arithmeticImmediate op => op.targets
  | rlca | rrca | rla | rra | daa | cpl => [.a, .f]
  | scf | ccf => [.f]
  | jumpRelative _ | jump _ | jumpHl => []
  | call cond | ret cond => if cond.holds flags then [.sp] else []
  | reti => [.sp, .ime]
  | rst _ | push _ => [.sp]
  | pop pair => .sp :: pair.targets
  | shift _ place => .f :: place.targets
  | testBit _ _ => [.f]
  | resetBit _ place | setBit _ place => place.targets

/-- The addresses that an instruction stores to, in order. -/
def storeAddresses (i : Instruction) (regs : Registers) (operand : Word) : List Word :=
  match i with
  | load .atHl _ | loadImmediate .atHl | inc .atHl | dec .atHl | shift _ .atHl | resetBit _ .atHl
  | setBit _ .atHl => [regs.hl]
  | storeAt .bc => [regs.bc]
  | storeAt .de => [regs.de]
  | storeAt .hlUp | storeAt .hlDown => [regs.hl]
  | storeDirect => [operand]
  | storeHigh => [.ofBytes 0xFF operand.low]
  | storeHighC => [.ofBytes 0xFF regs.c]
  | storeSp => [operand, operand + 1]
  | push _ | rst _ => [regs.sp - 1, regs.sp - 2]
  | call cond => if cond.holds regs.flags then [regs.sp - 1, regs.sp - 2] else []
  | _ => []

end Instruction

namespace Registers

variable (r : Registers) {part : RegisterPart}

theorem setBc_part (other : part ∉ [.b, .c]) (w : Word) : (r.setBc w).part part = r.part part := by
  cases part with
  | b | c => exact absurd (by decide) other
  | _ => rfl

theorem setDe_part (other : part ∉ [.d, .e]) (w : Word) : (r.setDe w).part part = r.part part := by
  cases part with
  | d | e => exact absurd (by decide) other
  | _ => rfl

theorem setHl_part (other : part ∉ [.h, .l]) (w : Word) : (r.setHl w).part part = r.part part := by
  cases part with
  | h | l => exact absurd (by decide) other
  | _ => rfl

theorem setAf_part (other : part ∉ [.a, .f]) (w : Word) : (r.setAf w).part part = r.part part := by
  cases part with
  | a | f => exact absurd (by decide) other
  | _ => rfl

theorem setSp_part (other : part ≠ .sp) (w : Word) : { r with sp := w }.part part = r.part part := by
  cases part with
  | sp => exact absurd rfl other
  | _ => rfl

theorem setA_part (other : part ≠ .a) (value : Byte) :
    { r with a := value }.part part = r.part part := by
  cases part with
  | a => exact absurd rfl other
  | _ => rfl

theorem setFlags_part (other : part ≠ .f) (flags : Flags) :
    { r with flags := flags }.part part = r.part part := by
  cases part with
  | f => exact absurd rfl other
  | _ => rfl

theorem setIme_part (other : part ≠ .ime) (on : Bool) :
    { r with ime := on }.part part = r.part part := by
  cases part with
  | ime => exact absurd rfl other
  | _ => rfl

/-- The program counter is none of the parts. -/
theorem setPc_part (pc : Word) : { r with pc := pc }.part part = r.part part := by
  cases part <;> rfl

theorem writePair_part (pair : Pair) (other : part ∉ pair.targets) (w : Word) :
    (r.writePair pair w).part part = r.part part := by
  cases pair with
  | bc => exact r.setBc_part other w
  | de => exact r.setDe_part other w
  | hl => exact r.setHl_part other w
  | sp => exact r.setSp_part (List.ne_of_not_mem_cons other) w

theorem writeStackPair_part (pair : StackPair) (other : part ∉ pair.targets) (w : Word) :
    (r.writeStackPair pair w).part part = r.part part := by
  cases pair with
  | bc => exact r.setBc_part other w
  | de => exact r.setDe_part other w
  | hl => exact r.setHl_part other w
  | af => exact r.setAf_part other w

theorem stepPointer_part (pointer : Pointer) (other : part ∉ pointer.targets) :
    (r.stepPointer pointer).part part = r.part part := by
  cases pointer with
  | bc | de => rfl
  | hlUp | hlDown => exact r.setHl_part other _

end Registers

namespace Machine

variable (m : Machine) {part : RegisterPart}

theorem writePlace_part (place : Place) (other : part ∉ place.targets) (value : Byte) :
    (m.writePlace place value).cpu.regs.part part = m.cpu.regs.part part := by
  cases place with
  | atHl => rfl
  | _ =>
      cases part with
      | _ => first | rfl | exact absurd (by decide) other

theorem setPlace_part (place : Place) (other : part ∉ .f :: place.targets) (result : Byte × Flags) :
    (m.setPlace place result).cpu.regs.part part = m.cpu.regs.part part := by
  have flags := List.ne_of_not_mem_cons other
  have targets := List.not_mem_of_not_mem_cons other
  exact ((m.writePlace place result.1).cpu.regs.setFlags_part flags result.2).trans
    (m.writePlace_part place targets result.1)

theorem setA_part (other : part ∉ [.a, .f]) (result : Byte × Flags) :
    (m.setA result).cpu.regs.part part = m.cpu.regs.part part := by
  have a := List.ne_of_not_mem_cons other
  have flags := List.ne_of_not_mem_cons (List.not_mem_of_not_mem_cons other)
  exact (Registers.setFlags_part { m.cpu.regs with a := result.1 } flags result.2).trans
    (m.cpu.regs.setA_part a result.1)

theorem callTo_part (other : part ≠ .sp) (target : Word) :
    (m.callTo target).cpu.regs.part part = m.cpu.regs.part part :=
  (Registers.setPc_part _ target).trans (m.cpu.regs.setSp_part other _)

theorem returnBack_part (other : part ≠ .sp) :
    m.returnBack.cpu.regs.part part = m.cpu.regs.part part :=
  (Registers.setPc_part _ _).trans (m.cpu.regs.setSp_part other _)

/-- An operation of `A` writes `A` and the flags, but for a comparison, which keeps `A`. -/
theorem setA_arithmetic_part (op : Arithmetic) (other : part ∉ op.targets) (value : Byte) :
    (m.setA (Cpu.arithmetic op m.cpu.regs.a value m.cpu.regs.flags.carry)).cpu.regs.part part =
      m.cpu.regs.part part := by
  cases op with
  | cp => exact m.cpu.regs.setFlags_part (List.ne_of_not_mem_cons other) _
  | _ => exact m.setA_part other _

/-- An instruction leaves every part alone that is not among its targets. -/
theorem execute_part (i : Instruction) (operand : Word)
    (other : part ∉ i.targets m.cpu.regs.flags) :
    (m.execute i operand).cpu.regs.part part = m.cpu.regs.part part := by
  cases i with
  | nop | stop | halt | extended => rfl
  | di | ei => exact m.cpu.regs.setIme_part (List.ne_of_not_mem_cons other) _
  | load dst src => exact m.writePlace_part dst other _
  | loadImmediate dst => exact m.writePlace_part dst other _
  | loadPair dst => exact m.cpu.regs.writePair_part dst other operand
  | storeAt pointer => exact m.cpu.regs.stepPointer_part pointer other
  | loadAt pointer =>
      have a := List.ne_of_not_mem_cons other
      have targets := List.not_mem_of_not_mem_cons other
      exact (Registers.setA_part _ a _).trans (m.cpu.regs.stepPointer_part pointer targets)
  | storeDirect | storeHigh | storeHighC | storeSp => rfl
  | loadDirect | loadHigh | loadHighC =>
      exact m.cpu.regs.setA_part (List.ne_of_not_mem_cons other) _
  | moveHlToSp => exact m.cpu.regs.setSp_part (List.ne_of_not_mem_cons other) _
  | loadSpOffset | addHl _ =>
      simp only [Instruction.targets, List.mem_cons, List.not_mem_nil, or_false, not_or] at other
      exact (Registers.setFlags_part _ other.2.2 _).trans
        (m.cpu.regs.setHl_part (by simp [other]) _)
  | addSpOffset =>
      simp only [Instruction.targets, List.mem_cons, List.not_mem_nil, or_false, not_or] at other
      have moved := m.cpu.regs.setSp_part other.1 (Cpu.offsetWord m.cpu.regs.sp operand.low).1
      exact (Registers.setFlags_part _ other.2 _).trans moved
  | inc place | dec place => exact m.setPlace_part place other _
  | incPair pair | decPair pair => exact m.cpu.regs.writePair_part pair other _
  | arithmetic op src => exact m.setA_arithmetic_part op other _
  | arithmeticImmediate op => exact m.setA_arithmetic_part op other _
  | rlca | rrca | rla | rra | daa | cpl => exact m.setA_part other _
  | scf | ccf => exact m.cpu.regs.setFlags_part (List.ne_of_not_mem_cons other) _
  | jumpRelative cond | jump cond =>
      simp only [execute]
      split
      · exact Registers.setPc_part _ _
      · rfl
  | jumpHl => exact Registers.setPc_part _ _
  | call cond =>
      by_cases holds : cond.holds m.cpu.regs.flags = true
      · simp only [Instruction.targets, holds, if_true] at other
        simp only [execute, holds, if_true]
        exact m.callTo_part (List.ne_of_not_mem_cons other) operand
      · simp only [execute, holds, Bool.false_eq_true, if_false]
  | ret cond =>
      by_cases holds : cond.holds m.cpu.regs.flags = true
      · simp only [Instruction.targets, holds, if_true] at other
        simp only [execute, holds, if_true]
        exact m.returnBack_part (List.ne_of_not_mem_cons other)
      · simp only [execute, holds, Bool.false_eq_true, if_false]
  | reti =>
      simp only [Instruction.targets, List.mem_cons, List.not_mem_nil, or_false, not_or] at other
      exact (Registers.setIme_part _ other.2 true).trans (m.returnBack_part other.1)
  | rst n => exact m.callTo_part (List.ne_of_not_mem_cons other) _
  | push pair => exact m.cpu.regs.setSp_part (List.ne_of_not_mem_cons other) _
  | pop pair =>
      have sp := List.ne_of_not_mem_cons other
      have targets := List.not_mem_of_not_mem_cons other
      exact (Registers.writeStackPair_part _ pair targets _).trans (m.cpu.regs.setSp_part sp _)
  | shift op place => exact m.setPlace_part place other _
  | testBit n place => exact m.cpu.regs.setFlags_part (List.ne_of_not_mem_cons other) _
  | resetBit n place | setBit n place => exact m.writePlace_part place other _

/-- The stores of an instruction go to its addresses. -/
theorem instructionStores_addresses (i : Instruction) (operand : Word) :
    (m.instructionStores i operand).map Store.addr = i.storeAddresses m.cpu.regs operand := by
  cases i with
  | load dst src => cases dst <;> rfl
  | loadImmediate dst => cases dst <;> rfl
  | inc place | dec place => cases place <;> rfl
  | shift op place => cases place <;> rfl
  | resetBit n place | setBit n place => cases place <;> rfl
  | storeAt pointer => cases pointer <;> rfl
  | call cond =>
      simp only [instructionStores, Instruction.storeAddresses]
      split <;> rfl
  | _ => rfl

/-- An instruction touches only what it names. The low digit of the flag byte stays zero, a part of the
register file that is not among the targets of the instruction stays as it was, and the bus changes by
the stores of the instruction, which go to its addresses in order: by none if it has none. -/
theorem execute_touches (m : Machine) (i : Instruction) (operand : Word) :
    (m.execute i operand).cpu.regs.f.toNat % 16 = 0 ∧
    (∀ part, part ∉ i.targets m.cpu.regs.flags →
      (m.execute i operand).cpu.regs.part part = m.cpu.regs.part part) ∧
    (m.execute i operand).bus = m.bus.writeAll (m.instructionStores i operand) ∧
    (m.instructionStores i operand).map Store.addr = i.storeAddresses m.cpu.regs operand ∧
    (i.storeAddresses m.cpu.regs operand = [] → (m.execute i operand).bus = m.bus) := by
  have addresses := m.instructionStores_addresses i operand
  refine ⟨Flags.toByte_low _, fun part other => m.execute_part i operand other,
    m.execute_bus i operand, addresses, ?_⟩
  intro none
  rw [none, List.map_eq_nil_iff] at addresses
  rw [execute_bus, addresses]
  rfl

/-- `A` is stored where `HL` points, which steps down, and a call is not taken. -/
theorem execute_touches_storeDown :
    let m : Machine := ⟨.postBoot false, .initial 0⟩
    let stored := m.execute (.storeAt .hlDown) 0
    let refused := m.execute (.call .notZero) 0xC000
    .a ∉ (Instruction.storeAt .hlDown).targets m.cpu.regs.flags ∧ stored.cpu.regs.a = 0x01 ∧
      stored.cpu.regs.hl = 0x014C ∧ stored.bus = m.bus.write 0x014D 0x01 ∧
      (Instruction.call .notZero).storeAddresses m.cpu.regs 0xC000 = [] ∧ refused.bus = m.bus := by
  intro m stored refused
  obtain ⟨-, kept, stores, -⟩ := m.execute_touches (.storeAt .hlDown) 0
  obtain ⟨-, -, -, -, still⟩ := m.execute_touches (.call .notZero) 0xC000
  have one : m.instructionStores (.storeAt .hlDown) 0 = [⟨0x014D, 0x01⟩] := by decide
  rw [one] at stores
  have a : stored.cpu.regs.a = 0x01 := UInt8.toNat_inj.mp (kept .a (by decide))
  exact ⟨by decide, a, by decide, stores, by decide, still (by decide)⟩

end Machine

end DotMatrix
