import DotMatrix.Proofs.Cpu.LongArithmetic

/-!
Arithmetic on decimal numbers of any length. A byte holds two decimal digits, one in each half. A
program adds or subtracts such bytes from the lowest on, as if they were binary, and has each result
adjusted; what the adjustment does depends on the flags that the operation has left, and the carry that
the adjustment leaves goes into the next byte.
-/

namespace DotMatrix

namespace Byte

/-- Is there a decimal digit in each half of the byte? -/
def Packed (b : Byte) : Prop :=
  b.toNat / 16 ≤ 9 ∧ b.toNat % 16 ≤ 9

instance (b : Byte) : Decidable b.Packed :=
  inferInstanceAs (Decidable (_ ∧ _))

/-- The number that the two digits of a packed byte stand for. -/
def digits (b : Byte) : Nat :=
  10 * (b.toNat / 16) + b.toNat % 16

/-- The packed byte with the last two digits of a number. -/
def ofDigits (n : Nat) : Byte :=
  UInt8.ofNat (16 * (n / 10 % 10) + n % 10)

/-- The number that packed bytes stand for, the lowest first. -/
def decimal (bytes : List Byte) : Nat :=
  Nat.ofDigits 100 (bytes.map digits)

theorem toNat_ofDigits (n : Nat) : (ofDigits n).toNat = 16 * (n / 10 % 10) + n % 10 := by
  rw [ofDigits, UInt8.toNat_ofNat']
  omega

theorem ofDigits_packed (n : Nat) : (ofDigits n).Packed := by
  rw [Packed, toNat_ofDigits]
  omega

theorem digits_ofDigits (n : Nat) : (ofDigits n).digits = n % 100 := by
  rw [digits, toNat_ofDigits]
  omega

theorem Packed.digits_lt {b : Byte} (h : b.Packed) : b.digits < 100 := by
  obtain ⟨high, low⟩ := h
  rw [digits]
  omega

end Byte

namespace Cpu

theorem toNat_decide (p : Prop) [Decidable p] : (decide p).toNat = if p then 1 else 0 := by
  rw [Bool.toNat, Bool.cond_decide]

/-- What the adjustment makes of a result. -/
def adjusted (result : Byte × Flags) : Byte × Flags :=
  decimalAdjust result.1 result.2

/-- Does the lower digit need a correction? -/
def adjustsLow (a : Byte) (flags : Flags) : Bool :=
  flags.halfCarry || (!flags.subtract && decide (9 < a.toNat % 16))

/-- Does the upper digit need a correction? If so, there is a carry. -/
def adjustsHigh (a : Byte) (flags : Flags) : Bool :=
  flags.carry || (!flags.subtract && decide (0x99 < a.toNat))

theorem correction_toNat (low high : Bool) :
    ((if low then 0x06 else 0) + (if high then 0x60 else 0) : Byte).toNat =
      6 * low.toNat + 0x60 * high.toNat := by
  cases low <;> cases high <;> rfl

/-- After an addition the corrections are added. -/
theorem adjusted_of_sum {a : Byte} {flags : Flags} (sum : flags.subtract = false) :
    (adjusted (a, flags)).1.toNat =
      (a.toNat + (6 * (adjustsLow a flags).toNat + 0x60 * (adjustsHigh a flags).toNat)) % 0x100 := by
  have added : (adjusted (a, flags)).1 =
      a + ((if adjustsLow a flags then 0x06 else 0) + (if adjustsHigh a flags then 0x60 else 0)) :=
    if_neg (by simp [sum])
  rw [added, UInt8.toNat_add, correction_toNat]

/-- After a subtraction the corrections are taken away. -/
theorem adjusted_of_difference {a : Byte} {flags : Flags} (difference : flags.subtract = true) :
    (adjusted (a, flags)).1.toNat =
      (0x100 - (6 * (adjustsLow a flags).toNat + 0x60 * (adjustsHigh a flags).toNat) + a.toNat) %
        0x100 := by
  have taken : (adjusted (a, flags)).1 =
      a - ((if adjustsLow a flags then 0x06 else 0) + (if adjustsHigh a flags then 0x60 else 0)) :=
    if_pos difference
  rw [taken, UInt8.toNat_sub, correction_toNat]

/-- After a subtraction the flags alone tell which digits have borrowed. -/
theorem adjustsLow_sub (x y : Byte) (carry : Bool) :
    adjustsLow (sub x y carry).1 (sub x y carry).2 =
      decide (x.toNat % 16 < y.toNat % 16 + carry.toNat) := by
  simp only [adjustsLow, sub, Bool.not_true, Bool.false_and, Bool.or_false]

section Adjusted

variable {x y : Byte} (hx : x.Packed) (hy : y.Packed) (carry : Bool)
include hx hy

/-- After an addition the half carry and the lower half of the result tell whether the lower digits
overflow. -/
theorem adjustsLow_add :
    adjustsLow (add x y carry).1 (add x y carry).2 =
      decide (10 ≤ x.toNat % 16 + y.toNat % 16 + carry.toNat) := by
  obtain ⟨-, x0⟩ := hx
  obtain ⟨-, y0⟩ := hy
  have bit := Bool.toNat_lt carry
  rw [Bool.eq_iff_iff, decide_eq_true_eq]
  simp only [adjustsLow, add, UInt8.toNat_ofNat', Bool.not_false, Bool.true_and, Bool.or_eq_true,
    decide_eq_true_eq]
  omega

/-- The carry and the whole result tell whether both digits do. -/
theorem adjustsHigh_add :
    adjustsHigh (add x y carry).1 (add x y carry).2 =
      decide (100 ≤ x.digits + y.digits + carry.toNat) := by
  obtain ⟨x1, x0⟩ := hx
  obtain ⟨y1, y0⟩ := hy
  have bit := Bool.toNat_lt carry
  rw [Bool.eq_iff_iff, decide_eq_true_eq]
  simp only [adjustsHigh, add, Byte.digits, UInt8.toNat_ofNat', Bool.not_false, Bool.true_and,
    Bool.or_eq_true, decide_eq_true_eq]
  omega

theorem adjusted_add :
    (adjusted (add x y carry)).1 = .ofDigits (x.digits + y.digits + carry.toNat) := by
  have low := adjustsLow_add hx hy carry
  have high := adjustsHigh_add hx hy carry
  obtain ⟨x1, x0⟩ := hx
  obtain ⟨y1, y0⟩ := hy
  have bit := Bool.toNat_lt carry
  have lowCarry : (decide (10 ≤ x.toNat % 16 + y.toNat % 16 + carry.toNat)).toNat =
      (x.toNat % 16 + y.toNat % 16 + carry.toNat) / 10 := by
    rw [toNat_decide]
    split <;> omega
  have highCarry : (decide (100 ≤ x.digits + y.digits + carry.toNat)).toNat =
      (x.digits + y.digits + carry.toNat) / 100 := by
    rw [toNat_decide, Byte.digits, Byte.digits]
    split <;> omega
  have total : x.toNat + y.toNat + carry.toNat +
      (6 * ((x.toNat % 16 + y.toNat % 16 + carry.toNat) / 10) +
        0x60 * ((x.digits + y.digits + carry.toNat) / 100)) =
      (Byte.ofDigits (x.digits + y.digits + carry.toNat)).toNat +
        0x100 * ((x.digits + y.digits + carry.toNat) / 100) := by
    rw [Byte.toNat_ofDigits, Byte.digits, Byte.digits]
    omega
  apply UInt8.toNat_inj.1
  rw [adjusted_of_sum rfl, low, high, lowCarry, highCarry, add, UInt8.toNat_ofNat', Nat.mod_add_mod,
    total, Nat.add_mul_mod_self_left]
  exact Nat.mod_eq_of_lt (UInt8.toNat_lt _)

theorem adjustsHigh_sub :
    adjustsHigh (sub x y carry).1 (sub x y carry).2 =
      decide (x.digits < y.digits + carry.toNat) := by
  obtain ⟨x1, x0⟩ := hx
  obtain ⟨y1, y0⟩ := hy
  have bit := Bool.toNat_lt carry
  rw [Bool.eq_iff_iff, decide_eq_true_eq]
  simp only [adjustsHigh, sub, Bool.not_true, Bool.false_and, Bool.or_false, Byte.digits,
    decide_eq_true_eq]
  omega

theorem adjusted_sub :
    (adjusted (sub x y carry)).1 = .ofDigits (x.digits + 100 - (y.digits + carry.toNat)) := by
  have low := adjustsLow_sub x y carry
  have high := adjustsHigh_sub hx hy carry
  obtain ⟨x1, x0⟩ := hx
  obtain ⟨y1, y0⟩ := hy
  have bit := Bool.toNat_lt carry
  have lowBorrow : (decide (x.toNat % 16 < y.toNat % 16 + carry.toNat)).toNat =
      1 - (x.toNat % 16 + 10 - (y.toNat % 16 + carry.toNat)) / 10 := by
    rw [toNat_decide]
    split <;> omega
  have highBorrow : (decide (x.digits < y.digits + carry.toNat)).toNat =
      1 - (x.digits + 100 - (y.digits + carry.toNat)) / 100 := by
    rw [toNat_decide, Byte.digits, Byte.digits]
    split <;> omega
  have total : 0x100 - (6 * (1 - (x.toNat % 16 + 10 - (y.toNat % 16 + carry.toNat)) / 10) +
        0x60 * (1 - (x.digits + 100 - (y.digits + carry.toNat)) / 100)) +
      (x.toNat + 0x100 - (y.toNat + carry.toNat)) =
      (Byte.ofDigits (x.digits + 100 - (y.digits + carry.toNat))).toNat +
        0x100 * (1 + (x.digits + 100 - (y.digits + carry.toNat)) / 100) := by
    rw [Byte.toNat_ofDigits, Byte.digits, Byte.digits]
    omega
  apply UInt8.toNat_inj.1
  rw [adjusted_of_difference rfl, low, high, lowBorrow, highBorrow, sub, UInt8.toNat_ofNat',
    Nat.add_mod_mod, total, Nat.add_mul_mod_self_left]
  exact Nat.mod_eq_of_lt (UInt8.toNat_lt _)

end Adjusted

/-- Adjusted sums of packed bytes are packed, and exact up to the carry that the adjustment leaves. -/
theorem adjusted_add_exactStep :
    ExactStep 1 100 Byte.Packed Byte.digits fun x y carry => adjusted (add x y carry) where
  large := by decide
  small := Byte.Packed.digits_lt
  closed {x y} carry hx hy := by
    rw [adjusted_add hx hy]
    exact Byte.ofDigits_packed _
  exact {x y} carry hx hy := by
    have := hx.digits_lt
    have := hy.digits_lt
    have := Bool.toNat_lt carry
    have out : (adjusted (add x y carry)).2.carry =
        decide (100 ≤ x.digits + y.digits + carry.toNat) := adjustsHigh_add hx hy carry
    rw [adjusted_add hx hy, Byte.digits_ofDigits, out, toNat_decide]
    split <;> omega

theorem adjusted_sub_exactStep :
    ExactStep (-1) 100 Byte.Packed Byte.digits fun x y carry => adjusted (sub x y carry) where
  large := by decide
  small := Byte.Packed.digits_lt
  closed {x y} carry hx hy := by
    rw [adjusted_sub hx hy]
    exact Byte.ofDigits_packed _
  exact {x y} carry hx hy := by
    have := hx.digits_lt
    have := hy.digits_lt
    have := Bool.toNat_lt carry
    have out : (adjusted (sub x y carry)).2.carry =
        decide (x.digits < y.digits + carry.toNat) := adjustsHigh_sub hx hy carry
    rw [adjusted_sub hx hy, Byte.digits_ofDigits, out, toNat_decide]
    split <;> omega

end Cpu

namespace Machine

/-- Loads `A` with one packed byte, combines it with another and has the result adjusted. -/
def combineDecimal (m : Machine) (op : Arithmetic) (x y : Byte) : Machine :=
  (m.combine op x y).execute .daa 0

/-- The machines after each of some pairs of packed bytes, of which the first one has an operation of its
own. -/
def decimalChain (m : Machine) (first next : Arithmetic) : List (Byte × Byte) → List Machine
  | [] => []
  | (x, y) :: rest =>
    m.combineDecimal first x y :: (m.combineDecimal first x y).decimalChain next next rest

/-- Adds decimal numbers of several bytes. -/
def addDecimal (m : Machine) : List (Byte × Byte) → List Machine :=
  m.decimalChain .add .adc

/-- Subtracts decimal numbers of several bytes. -/
def subDecimal (m : Machine) : List (Byte × Byte) → List Machine :=
  m.decimalChain .sub .sbc

section DecimalChain

variable {m : Machine} {first next : Arithmetic} {start : Bool}
  {op : Byte → Byte → Bool → Byte × Flags}

theorem combineDecimal_regs (m : Machine) (op : Arithmetic) (x y : Byte) :
    (m.combineDecimal op x y).cpu.regs =
      { m.cpu.regs with
        a := (Cpu.adjusted (Cpu.arithmetic op x y m.cpu.regs.flags.carry)).1
        flags := (Cpu.adjusted (Cpu.arithmetic op x y m.cpu.regs.flags.carry)).2 } := by
  simp only [combineDecimal, execute, setA, combine_regs, Cpu.adjusted]

/-- The carry that the adjustment leaves is the one that the next byte starts from. -/
theorem ChainOf.decimalTail (h : m.ChainOf first next start op) (x y : Byte) :
    (m.combineDecimal first x y).ChainOf next next (Cpu.adjusted (op x y start)).2.carry op where
  lowest x' y' := by rw [h.others, combineDecimal_regs, h.lowest]
  others := h.others

theorem ChainOf.decimalRipples (h : m.ChainOf first next start op) (pairs : List (Byte × Byte)) :
    Ripples (fun x y carry => Cpu.adjusted (op x y carry)) start pairs
      (m.decimalChain first next pairs) := by
  induction pairs generalizing m first start with
  | nil => exact .nil
  | cons head rest ih =>
      obtain ⟨x, y⟩ := head
      apply Ripples.cons
      · rw [combineDecimal_regs, h.lowest]
      · rw [combineDecimal_regs, h.lowest]
      · exact ih (h.decimalTail x y)

end DecimalChain

/-- Decimal arithmetic is correct at any length. Whatever the flags were, adding the packed bytes of two
decimal numbers of one length and adjusting each result gives the packed bytes of their sum, and the last
carry says whether the sum has more digits than they hold; subtracting them gives those of the difference,
and the last carry says whether it is negative. -/
theorem decimal_arithmetic_exact (m : Machine) {xs ys : List Byte} (same : xs.length = ys.length)
    (packedX : ∀ x ∈ xs, x.Packed) (packedY : ∀ y ∈ ys, y.Packed) :
    let sums := m.addDecimal (xs.zip ys)
    let differences := m.subDecimal (xs.zip ys)
    ((results sums).length = xs.length ∧ (∀ byte ∈ results sums, byte.Packed) ∧
      Byte.decimal (results sums) = (Byte.decimal xs + Byte.decimal ys) % 100 ^ xs.length ∧
      carryOut false sums = decide (100 ^ xs.length ≤ Byte.decimal xs + Byte.decimal ys)) ∧
    (results differences).length = xs.length ∧ (∀ byte ∈ results differences, byte.Packed) ∧
      (Byte.decimal (results differences) : ℤ) =
        ((Byte.decimal xs : ℤ) - Byte.decimal ys) % 100 ^ xs.length ∧
      carryOut false differences = decide (Byte.decimal xs < Byte.decimal ys) := by
  intro sums differences
  have packed := valid_zip packedX packedY
  have added : Ripples _ false (xs.zip ys) sums := m.addLong_chainOf.decimalRipples _
  have subtracted : Ripples _ false (xs.zip ys) differences := m.subLong_chainOf.decimalRipples _
  obtain ⟨rest, carry⟩ := added.sum same packedX packedY Cpu.adjusted_add_exactStep
  obtain ⟨rest', borrow⟩ := subtracted.difference same packedX packedY Cpu.adjusted_sub_exactStep
  rw [Nat.cast_pow, Nat.cast_ofNat] at rest'
  constructor
  · exact ⟨added.results_length same, added.closed Cpu.adjusted_add_exactStep packed, rest, carry⟩
  · exact ⟨subtracted.results_length same,
      subtracted.closed Cpu.adjusted_sub_exactStep packed, rest', borrow⟩

/-- 5799 + 4201 and 4201 - 5799, in which every byte carries. -/
theorem decimal_arithmetic_exact_carries :
    let m : Machine := ⟨.postBoot false, .initial 0⟩
    let xs : List Byte := [0x99, 0x57]
    let ys : List Byte := [0x01, 0x42]
    xs.length = ys.length ∧ (∀ x ∈ xs, x.Packed) ∧ (∀ y ∈ ys, y.Packed) ∧
      Byte.decimal (results (m.addDecimal (xs.zip ys))) = 0 ∧
      carryOut false (m.addDecimal (xs.zip ys)) = true ∧
      Byte.decimal (results (m.subDecimal (ys.zip xs))) = 8402 ∧
      carryOut false (m.subDecimal (ys.zip xs)) = true := by
  intro m xs ys
  have packedX : ∀ x ∈ xs, x.Packed := by simp [xs, Byte.Packed]
  have packedY : ∀ y ∈ ys, y.Packed := by simp [ys, Byte.Packed]
  obtain ⟨⟨-, -, sum, carry⟩, -⟩ :=
    m.decimal_arithmetic_exact (show xs.length = ys.length from rfl) packedX packedY
  obtain ⟨-, -, -, difference, borrow⟩ :=
    m.decimal_arithmetic_exact (show ys.length = xs.length from rfl) packedY packedX
  have difference : (Byte.decimal (results (m.subDecimal (ys.zip xs))) : ℤ) = 8402 :=
    difference.trans (by decide)
  exact ⟨rfl, packedX, packedY, sum.trans (by decide), carry.trans (by decide),
    by exact_mod_cast difference, borrow.trans (by decide)⟩

end Machine

end DotMatrix
