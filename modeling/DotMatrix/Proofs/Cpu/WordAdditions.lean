import DotMatrix.Proofs.Cpu.LongArithmetic
import DotMatrix.Proofs.Cpu.OpcodeTable

/-!
Additions of words. The processor adds words in three ways, to `HL`, to the stack pointer, and from the
stack pointer into `HL`. Each gives the bytes that two additions of bytes give, of the lower bytes and
then, with the carry, of the upper ones. Where an addition to `HL` leaves the flags of the second of
these, a distance from the stack pointer leaves the flags of the first.
-/

namespace DotMatrix

namespace Word

theorem toNat_low (w : Word) : w.low.toNat = w.toNat % 0x100 := by
  rw [low, UInt8.toNat_ofNat']

theorem toNat_high (w : Word) : w.high.toNat = w.toNat / 0x100 := by
  have := w.toNat_lt
  rw [high, UInt8.toNat_ofNat']
  omega

end Word

namespace Byte

/-- The upper byte of an extended byte repeats its sign. -/
theorem high_signExtend (b : Byte) :
    b.signExtend.high = if 0x80 ≤ b.toNat then 0xFF else 0x00 := by
  have := b.toNat_lt
  apply UInt8.toNat_inj.1
  rw [Word.toNat_high, signExtend, UInt16.toNat_ofNat']
  by_cases negative : 0x80 ≤ b.toNat
  · rw [if_pos negative, if_neg (by omega)]
    change (0xFF00 + b.toNat) % 2 ^ 16 / 0x100 = 0xFF
    omega
  · rw [if_neg negative, if_pos (by omega)]
    change b.toNat % 2 ^ 16 / 0x100 = 0
    omega

theorem low_signExtend (b : Byte) : b.signExtend.low = b := by
  have := b.toNat_lt
  apply UInt8.toNat_inj.1
  rw [Word.toNat_low, signExtend, UInt16.toNat_ofNat']
  split <;> omega

end Byte

namespace Cpu

/-- The sum of the lower bytes of two words. -/
def addLower (x y : Word) : Byte × Flags :=
  add x.low y.low false

/-- The sum of the upper bytes of two words, with the carry of the lower ones. -/
def addUpper (x y : Word) : Byte × Flags :=
  add x.high y.high (addLower x y).2.carry

/-- Two additions of bytes come to one of words. -/
theorem addUpper_exact (x y : Word) :
    (Word.ofBytes (addUpper x y).1 (addLower x y).1).toNat +
        0x10000 * (addUpper x y).2.carry.toNat = x.toNat + y.toNat := by
  have lower := add_exact x.low y.low false
  have upper := add_exact x.high y.high (addLower x y).2.carry
  simp only [Word.toNat_low, Word.toNat_high, Bool.toNat_false] at lower upper
  rw [Word.toNat_ofBytes, addUpper, addLower]
  rw [addLower] at upper
  omega

theorem addUpper_sum (x y : Word) : x + y = .ofBytes (addUpper x y).1 (addLower x y).1 := by
  have small := UInt16.toNat_lt (Word.ofBytes (addUpper x y).1 (addLower x y).1)
  apply UInt16.toNat_inj.1
  rw [UInt16.toNat_add]
  exact (rest_and_carry (addUpper_exact x y) small).1.symm

theorem addUpper_carry (x y : Word) :
    (addUpper x y).2.carry = decide (0xFFFF < x.toNat + y.toNat) := by
  have small := UInt16.toNat_lt (Word.ofBytes (addUpper x y).1 (addLower x y).1)
  exact (rest_and_carry (addUpper_exact x y) small).2

/-- The half carry of the upper bytes is that of the twelve lower bits. -/
theorem addUpper_halfCarry (x y : Word) :
    (addUpper x y).2.halfCarry = decide (0x0FFF < x.toNat % 0x1000 + y.toNat % 0x1000) := by
  have lower := add_exact x.low y.low false
  have small := UInt8.toNat_lt (add x.low y.low false).1
  have half : (addUpper x y).2.halfCarry =
      decide (0x0F < x.high.toNat % 0x10 + y.high.toNat % 0x10 +
        (add x.low y.low false).2.carry.toNat) := rfl
  rw [half, decide_eq_decide, Word.toNat_high, Word.toNat_high]
  rw [Word.toNat_low, Word.toNat_low, Bool.toNat_false] at lower
  omega

/-- An addition to `HL` leaves the flags of the upper bytes, but keeps the zero flag. -/
theorem addWords_eq (hl value : Word) (flags : Flags) :
    addWords hl value flags =
      (.ofBytes (addUpper hl value).1 (addLower hl value).1,
        { zero := flags.zero
          subtract := false
          halfCarry := (addUpper hl value).2.halfCarry
          carry := (addUpper hl value).2.carry }) := by
  rw [addWords, addUpper_sum, addUpper_halfCarry, addUpper_carry]

/-- A distance from the stack pointer leaves the flags of the lower bytes. -/
theorem offsetWord_eq (sp : Word) (distance : Byte) :
    offsetWord sp distance =
      (.ofBytes (addUpper sp distance.signExtend).1 (addLower sp distance.signExtend).1,
        { zero := false
          subtract := false
          halfCarry := (addLower sp distance.signExtend).2.halfCarry
          carry := (addLower sp distance.signExtend).2.carry }) := by
  have half : (addLower sp distance.signExtend).2.halfCarry =
      decide (0x0F < sp.toNat % 0x10 + distance.toNat % 0x10) := by
    rw [addLower, Byte.low_signExtend, add, decide_eq_decide, Word.toNat_low, Bool.toNat_false]
    omega
  have carry : (addLower sp distance.signExtend).2.carry =
      decide (0xFF < sp.toNat % 0x100 + distance.toNat) := by
    rw [addLower, Byte.low_signExtend, add, decide_eq_decide, Word.toNat_low, Bool.toNat_false]
    omega
  rw [offsetWord, addUpper_sum, half, carry]
  rfl

end Cpu

namespace Registers

theorem setHl_ofBytes (r : Registers) (high low : Byte) :
    r.setHl (.ofBytes high low) = { r with h := high, l := low } := by
  simp only [setHl, Word.high_ofBytes, Word.low_ofBytes]

/-- The lower byte of a pair of registers. -/
def pairLow (r : Registers) : Pair → Byte
  | .bc => r.c
  | .de => r.e
  | .hl => r.l
  | .sp => UInt8.ofNat r.sp.toNat

/-- The upper byte of a pair of registers. -/
def pairHigh (r : Registers) : Pair → Byte
  | .bc => r.b
  | .de => r.d
  | .hl => r.h
  | .sp => UInt8.ofNat (r.sp.toNat / 0x100)

theorem readPair_low (r : Registers) (pair : Pair) : (r.readPair pair).low = r.pairLow pair := by
  cases pair with
  | bc | de | hl => exact Word.low_ofBytes _ _
  | sp => rfl

theorem readPair_high (r : Registers) (pair : Pair) : (r.readPair pair).high = r.pairHigh pair := by
  cases pair with
  | bc | de | hl => exact Word.high_ofBytes _ _
  | sp => rfl

end Registers

namespace Machine

section Bytewise

variable (m : Machine) (x y : Word)

theorem combine_lower :
    (m.combine .add x.low y.low).cpu.regs.a = (Cpu.addLower x y).1 ∧
      (m.combine .add x.low y.low).cpu.regs.flags = (Cpu.addLower x y).2 := by
  rw [combine_regs]
  exact ⟨rfl, rfl⟩

theorem combine_upper :
    ((m.combine .add x.low y.low).combine .adc x.high y.high).cpu.regs.a =
        (Cpu.addUpper x y).1 ∧
      ((m.combine .add x.low y.low).combine .adc x.high y.high).cpu.regs.flags =
        (Cpu.addUpper x y).2 := by
  rw [combine_regs, combine_regs]
  exact ⟨rfl, rfl⟩

end Bytewise

/-- The additions of words agree with additions of bytes. Whatever the registers hold, an addition to `HL`
puts into `L` what adding the lower bytes leaves in `A`, and into `H` what adding the upper bytes with the
carry then does; the half carry and the carry are those of the second addition, and the zero flag is kept.
A signed distance from the stack pointer is added as a word whose upper byte repeats its sign; the half
carry and the carry are those of the first addition, and the other flags are clear. Nothing else in the
machine changes. -/
theorem word_additions_bytewise (m : Machine) (operand : Word) :
    let regs := m.cpu.regs
    (∀ pair,
      let lower := m.combine .add regs.l (regs.pairLow pair)
      let upper := lower.combine .adc regs.h (regs.pairHigh pair)
      m.execute (.addHl pair) operand =
        { m with
          cpu.regs :=
            { regs with
              h := upper.cpu.regs.a
              l := lower.cpu.regs.a
              flags :=
                { zero := regs.flags.zero
                  subtract := false
                  halfCarry := upper.cpu.regs.flags.halfCarry
                  carry := upper.cpu.regs.flags.carry } } }) ∧
    let distance := operand.low
    let lower := m.combine .add (regs.pairLow .sp) distance
    let upper := lower.combine .adc (regs.pairHigh .sp) (if 0x80 ≤ distance.toNat then 0xFF else 0x00)
    let sum : Word := UInt16.ofNat (0x100 * upper.cpu.regs.a.toNat + lower.cpu.regs.a.toNat)
    let flags : Flags :=
      { zero := false
        subtract := false
        halfCarry := lower.cpu.regs.flags.halfCarry
        carry := lower.cpu.regs.flags.carry }
    (sum.toNat : ℤ) = (regs.sp.toNat + distance.toInt8.toInt) % 0x10000 ∧
      m.execute .addSpOffset operand =
        { m with cpu.regs := { regs with sp := sum, flags := flags } } ∧
      m.execute .loadSpOffset operand =
        { m with
          cpu.regs :=
            { regs with h := upper.cpu.regs.a, l := lower.cpu.regs.a, flags := flags } } := by
  intro regs
  constructor
  · intro pair lower upper
    obtain ⟨l, -⟩ := m.combine_lower regs.hl (regs.readPair pair)
    obtain ⟨h, flags⟩ := m.combine_upper regs.hl (regs.readPair pair)
    simp only [Registers.hl, Word.low_ofBytes, Word.high_ofBytes, Registers.readPair_low,
      Registers.readPair_high] at l h flags
    simp only [execute, Cpu.addWords_eq, Registers.setHl_ofBytes, lower, upper]
    rw [l, h, flags]
    rfl
  · intro distance lower upper sum flags
    obtain ⟨low, lowFlags⟩ := m.combine_lower regs.sp distance.signExtend
    obtain ⟨high, -⟩ := m.combine_upper regs.sp distance.signExtend
    rw [Byte.low_signExtend] at low lowFlags high
    rw [Byte.high_signExtend] at high
    have added := Cpu.offsetWord_eq regs.sp distance
    rw [← low, ← high, ← lowFlags] at added
    have bytes : sum = .ofBytes upper.cpu.regs.a lower.cpu.regs.a := by
      rw [Word.ofBytes, Nat.mul_comm]
    refine ⟨?_, ?_, ?_⟩
    · rw [← Byte.add_signExtend, bytes]
      exact congrArg (fun word : Word => (word.toNat : ℤ)) (congrArg Prod.fst added).symm
    · rw [bytes]
      simp only [execute]
      rw [added]
      rfl
    · simp only [execute]
      rw [added, Registers.setHl_ofBytes]
      rfl

/-- A machine with the given pairs of registers, and only the zero flag set. -/
def withPairs (hl bc sp : Word) : Machine :=
  { cpu :=
      { regs := { Registers.postBoot false with
          h := hl.high, l := hl.low, b := bc.high, c := bc.low, sp := sp
          flags := ⟨true, false, false, false⟩ }
        cycles := .zero
        resumeAt := none }
    bus := .initial 0 }

/-- `8AFD + 750B` carries out of both bytes and out of both half bytes, and `00FD - 5` takes nothing from
the upper byte. -/
theorem word_additions_bytewise_carries :
    let m := withPairs 0x8AFD 0x750B 0x00FD
    let added := (m.execute (.addHl .bc) 0).cpu.regs
    let moved := (m.execute .addSpOffset 0xFB).cpu.regs
    let loaded := (m.execute .loadSpOffset 0xFB).cpu.regs
    (added.h, added.l, added.flags) = (0x00, 0x08, ⟨true, false, true, true⟩) ∧
      (moved.sp, moved.flags) = (0x00F8, ⟨false, false, true, true⟩) ∧
      (loaded.h, loaded.l, loaded.flags) = (0x00, 0xF8, ⟨false, false, true, true⟩) := by
  intro m added moved loaded
  obtain ⟨sums, -⟩ := m.word_additions_bytewise 0
  obtain ⟨-, -, moves, loads⟩ := m.word_additions_bytewise 0xFB
  refine ⟨?_, ?_, ?_⟩
  · simp only [added, sums .bc]
    decide
  · simp only [moved, moves]
    decide
  · simp only [loaded, loads]
    decide

end Machine

end DotMatrix
