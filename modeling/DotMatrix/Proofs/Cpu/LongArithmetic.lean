import Mathlib.Data.Nat.Digits.Defs
import Mathlib.Data.Nat.Digits.Lemmas
import Mathlib.Tactic.LinearCombination
import DotMatrix.Cpu.Execute

/-!
Arithmetic on numbers of many bytes. A program adds or subtracts them byte by byte from the lowest on,
and the carry flag takes what one byte leaves over to the next. The bytes it gets are those of the sum
or the difference, and the last carry says whether there is more of it than the bytes hold.
-/

namespace DotMatrix

namespace Byte

/-- The number that bytes stand for, the lowest first. -/
def number (bytes : List Byte) : Nat :=
  Nat.ofDigits 256 (bytes.map UInt8.toNat)

/-- The number that bytes stand for as digits in a base, the lowest first. -/
def inBase (base : Nat) (digit : Byte → Nat) (bytes : List Byte) : Nat :=
  Nat.ofDigits base (bytes.map digit)

theorem inBase_cons (base : Nat) (digit : Byte → Nat) (byte : Byte) (bytes : List Byte) :
    inBase base digit (byte :: bytes) = digit byte + base * inBase base digit bytes := by
  simp only [inBase, List.map_cons, Nat.ofDigits_cons]

theorem inBase_lt {base : Nat} (large : 1 < base) {digit : Byte → Nat} {bytes : List Byte}
    (small : ∀ byte ∈ bytes, digit byte < base) : inBase base digit bytes < base ^ bytes.length := by
  have digits : ∀ d ∈ bytes.map digit, d < base := by
    intro d member
    obtain ⟨byte, inside, rfl⟩ := List.mem_map.mp member
    exact small byte inside
  simpa only [inBase, List.length_map] using Nat.ofDigits_lt_base_pow_length large digits

end Byte

/-- What is exact up to a carry is the remainder, and the carry says whether there is more. -/
theorem rest_and_carry {rest total size : Nat} {carry : Bool}
    (exact : rest + size * carry.toNat = total) (fits : rest < size) :
    rest = total % size ∧ carry = decide (size ≤ total) := by
  constructor
  · rw [← exact, Nat.add_mul_mod_self_left, Nat.mod_eq_of_lt fits]
  · cases carry with
    | false =>
        rw [Bool.toNat_false] at exact
        exact (decide_eq_false (by omega)).symm
    | true =>
        rw [Bool.toNat_true] at exact
        exact (decide_eq_true (by omega)).symm

/-- Likewise with a borrow. -/
theorem rest_and_borrow {rest x y size : Nat} {borrow : Bool}
    (exact : rest + y = x + size * borrow.toNat) (fits : rest < size) :
    (rest : ℤ) = ((x : ℤ) - y) % size ∧ borrow = decide (x < y) := by
  constructor
  · have difference : (x : ℤ) - y = rest + size * -borrow.toNat := by
      zify at exact
      linear_combination -exact
    rw [difference, Int.add_mul_emod_self_left, Int.emod_eq_of_lt (Int.natCast_nonneg _)]
    exact_mod_cast fits
  · cases borrow with
    | false =>
        rw [Bool.toNat_false] at exact
        exact (decide_eq_false (by omega)).symm
    | true =>
        rw [Bool.toNat_true] at exact
        exact (decide_eq_true (by omega)).symm

namespace Cpu

theorem add_exact (a b : Byte) (carryIn : Bool) :
    (add a b carryIn).1.toNat + 256 * (add a b carryIn).2.carry.toNat =
      a.toNat + b.toNat + carryIn.toNat := by
  have := a.toNat_lt
  have := b.toNat_lt
  have := Bool.toNat_lt carryIn
  simp only [add, UInt8.toNat_ofNat']
  by_cases carries : 0xFF < a.toNat + b.toNat + carryIn.toNat
  · rw [decide_eq_true carries, Bool.toNat_true]
    omega
  · rw [decide_eq_false carries, Bool.toNat_false]
    omega

theorem sub_exact (a b : Byte) (borrowIn : Bool) :
    (sub a b borrowIn).1.toNat + b.toNat + borrowIn.toNat =
      a.toNat + 256 * (sub a b borrowIn).2.carry.toNat := by
  have := a.toNat_lt
  have := b.toNat_lt
  have := Bool.toNat_lt borrowIn
  simp only [sub, UInt8.toNat_ofNat']
  by_cases under : a.toNat < b.toNat + borrowIn.toNat
  · rw [decide_eq_true under, Bool.toNat_true]
    omega
  · rw [decide_eq_false under, Bool.toNat_false]
    omega

/-- An operation on bytes that is exact up to its carry, for the bytes that are digits in some base. The
sign tells sums from differences. -/
structure ExactStep (sign : ℤ) (base : Nat) (valid : Byte → Prop) (digit : Byte → Nat)
    (op : Byte → Byte → Bool → Byte × Flags) : Prop where
  large : 1 < base
  small : ∀ {byte}, valid byte → digit byte < base
  closed : ∀ {x y} carry, valid x → valid y → valid (op x y carry).1
  exact : ∀ {x y} carry, valid x → valid y →
    (digit (op x y carry).1 : ℤ) + sign * base * (op x y carry).2.carry.toNat =
      digit x + sign * (digit y + carry.toNat)

theorem add_exactStep : ExactStep 1 256 (fun _ => True) UInt8.toNat add where
  large := by decide
  small _ := UInt8.toNat_lt _
  closed _ _ _ := trivial
  exact {x y} carry _ _ := by
    have := add_exact x y carry
    omega

theorem sub_exactStep : ExactStep (-1) 256 (fun _ => True) UInt8.toNat sub where
  large := by decide
  small _ := UInt8.toNat_lt _
  closed _ _ _ := trivial
  exact {x y} carry _ _ := by
    have := sub_exact x y carry
    omega

end Cpu

namespace Machine

/-- Loads `A` with one byte and combines it with another. -/
def combine (m : Machine) (op : Arithmetic) (x y : Byte) : Machine :=
  (m.execute (.loadImmediate .a) (.ofBytes 0 x)).execute (.arithmeticImmediate op) (.ofBytes 0 y)

/-- The machines after each of some pairs of bytes, of which the first one has an operation of its
own. -/
def chain (m : Machine) (first next : Arithmetic) : List (Byte × Byte) → List Machine
  | [] => []
  | (x, y) :: rest => m.combine first x y :: (m.combine first x y).chain next next rest

/-- The bytes that machines have in `A`. -/
def results (machines : List Machine) : List Byte :=
  machines.map (·.cpu.regs.a)

/-- The carry that is left after the last machine. -/
def carryOut (start : Bool) (machines : List Machine) : Bool :=
  (machines.getLast?.map (·.cpu.regs.flags.carry)).getD start

/-- Adds numbers of several bytes. -/
def addLong (m : Machine) : List (Byte × Byte) → List Machine :=
  m.chain .add .adc

/-- Subtracts numbers of several bytes. -/
def subLong (m : Machine) : List (Byte × Byte) → List Machine :=
  m.chain .sub .sbc

section Chain

variable (m : Machine)

theorem combine_regs (op : Arithmetic) (x y : Byte) :
    (m.combine op x y).cpu.regs =
      { m.cpu.regs with
        a := (Cpu.arithmetic op x y m.cpu.regs.flags.carry).1
        flags := (Cpu.arithmetic op x y m.cpu.regs.flags.carry).2 } := by
  simp only [combine, execute, writePlace, setA, Word.low_ofBytes]

theorem chain_length (first next : Arithmetic) (pairs : List (Byte × Byte)) :
    (m.chain first next pairs).length = pairs.length := by
  induction pairs generalizing m first with
  | nil => rfl
  | cons pair rest ih => rw [chain, List.length_cons, ih, List.length_cons]

theorem carryOut_cons (start : Bool) (rest : List Machine) :
    carryOut start (m :: rest) = carryOut m.cpu.regs.flags.carry rest := by
  cases rest <;> simp [carryOut, List.getLast?_cons]

end Chain

/-- Machines in a row that have worked on pairs of bytes. Each has the result of its pair in `A`, and its
flags are those of the operation with the carry of the machine before it. -/
inductive Ripples (op : Byte → Byte → Bool → Byte × Flags) :
    Bool → List (Byte × Byte) → List Machine → Prop where
  | nil {start : Bool} : Ripples op start [] []
  | cons {start : Bool} {x y : Byte} {m : Machine} {pairs : List (Byte × Byte)}
      {machines : List Machine} (result : m.cpu.regs.a = (op x y start).1)
      (flags : m.cpu.regs.flags = (op x y start).2)
      (rest : Ripples op (op x y start).2.carry pairs machines) :
      Ripples op start ((x, y) :: pairs) (m :: machines)

section Ripples

variable {op : Byte → Byte → Bool → Byte × Flags} {start : Bool} {pairs : List (Byte × Byte)}
  {machines : List Machine}

theorem Ripples.length (h : Ripples op start pairs machines) : machines.length = pairs.length := by
  induction h with
  | nil => rfl
  | cons _ _ _ ih => rw [List.length_cons, ih, List.length_cons]

/-- The flags after each byte are those of the operation with the carry that the bytes below leave. -/
theorem Ripples.flags_at (h : Ripples op start pairs machines) {i : Nat} {x y : Byte} {m : Machine}
    (pair : pairs[i]? = some (x, y)) (after : machines[i]? = some m) :
    m.cpu.regs.flags = (op x y (carryOut start (machines.take i))).2 := by
  induction h generalizing i with
  | nil => cases pair
  | cons result flags rest ih =>
      cases i with
      | zero =>
          cases pair
          cases after
          exact flags
      | succ i =>
          rw [List.take_succ_cons, carryOut_cons, flags]
          exact ih pair after

variable {sign : ℤ} {base : Nat} {valid : Byte → Prop} {digit : Byte → Nat}
  (step : Cpu.ExactStep sign base valid digit op)
include step

theorem Ripples.closed (h : Ripples op start pairs machines)
    (digits : ∀ pair ∈ pairs, valid pair.1 ∧ valid pair.2) :
    ∀ byte ∈ results machines, valid byte := by
  induction h with
  | nil =>
      intro byte member
      cases member
  | cons result flags rest ih =>
      obtain ⟨hx, hy⟩ := digits _ List.mem_cons_self
      intro byte member
      rcases List.mem_cons.1 member with rfl | later
      · simpa only [result] using step.closed _ hx hy
      · exact ih (fun pair inside => digits pair (List.mem_cons_of_mem _ inside)) byte later

/-- If an operation is exact up to its carry, then so are machines in a row. -/
theorem Ripples.exact (h : Ripples op start pairs machines)
    (digits : ∀ pair ∈ pairs, valid pair.1 ∧ valid pair.2) :
    (Byte.inBase base digit (results machines) : ℤ) +
        sign * base ^ pairs.length * (carryOut start machines).toNat =
      Byte.inBase base digit (pairs.map Prod.fst) +
        sign * (Byte.inBase base digit (pairs.map Prod.snd) + start.toNat) := by
  induction h with
  | nil => simp [results, carryOut, Byte.inBase]
  | @cons start x y m pairs machines result flags rest ih =>
      obtain ⟨hx, hy⟩ := digits _ List.mem_cons_self
      have one := step.exact start hx hy
      have more := ih fun pair inside => digits pair (List.mem_cons_of_mem _ inside)
      have first : results (m :: machines) = (op x y start).1 :: results machines := by
        rw [results, List.map_cons, result, results]
      rw [first, carryOut_cons, flags]
      simp only [List.map_cons, List.length_cons, Byte.inBase_cons, Nat.cast_add, Nat.cast_mul]
      linear_combination one + base * more

end Ripples

section Chain

variable {m : Machine} {first next : Arithmetic} {start : Bool}
  {op : Byte → Byte → Bool → Byte × Flags}

/-- A chain of operations that come to one operation with carries, which starts from a given carry. -/
structure ChainOf (m : Machine) (first next : Arithmetic) (start : Bool)
    (op : Byte → Byte → Bool → Byte × Flags) : Prop where
  lowest : ∀ x y, Cpu.arithmetic first x y m.cpu.regs.flags.carry = op x y start
  others : ∀ x y carry, Cpu.arithmetic next x y carry = op x y carry

theorem ChainOf.tail (h : m.ChainOf first next start op) (x y : Byte) :
    (m.combine first x y).ChainOf next next (op x y start).2.carry op where
  lowest x' y' := by rw [h.others, combine_regs, h.lowest]
  others := h.others

theorem ChainOf.ripples (h : m.ChainOf first next start op) (pairs : List (Byte × Byte)) :
    Ripples op start pairs (m.chain first next pairs) := by
  induction pairs generalizing m first start with
  | nil => exact .nil
  | cons head rest ih =>
      obtain ⟨x, y⟩ := head
      apply Ripples.cons
      · rw [combine_regs, h.lowest]
      · rw [combine_regs, h.lowest]
      · exact ih (h.tail x y)

theorem ChainOf.flags (h : m.ChainOf first next start op) {pairs : List (Byte × Byte)} {i : Nat}
    {x y : Byte} {m' : Machine} (pair : pairs[i]? = some (x, y))
    (after : (m.chain first next pairs)[i]? = some m') :
    m'.cpu.regs.flags = (op x y (carryOut start ((m.chain first next pairs).take i))).2 :=
  (h.ripples pairs).flags_at pair after

theorem addLong_chainOf (m : Machine) : m.ChainOf .add .adc false Cpu.add where
  lowest _ _ := rfl
  others _ _ _ := rfl

theorem subLong_chainOf (m : Machine) : m.ChainOf .sub .sbc false Cpu.sub where
  lowest _ _ := rfl
  others _ _ _ := rfl

end Chain

section Zip

variable {xs ys : List Byte} {machines : List Machine} {op : Byte → Byte → Bool → Byte × Flags}
  (h : Ripples op false (xs.zip ys) machines) (same : xs.length = ys.length)
include h same

theorem Ripples.results_length : (results machines).length = xs.length := by
  rw [results, List.length_map, h.length, List.length_zip, same, Nat.min_self]

variable {sign : ℤ} {base : Nat} {valid : Byte → Prop} {digit : Byte → Nat}
  (digitsX : ∀ x ∈ xs, valid x) (digitsY : ∀ y ∈ ys, valid y)
include digitsX digitsY

omit h same in
theorem valid_zip : ∀ pair ∈ xs.zip ys, valid pair.1 ∧ valid pair.2 := by
  intro pair member
  obtain ⟨inX, inY⟩ := List.of_mem_zip (show (pair.1, pair.2) ∈ xs.zip ys from member)
  exact ⟨digitsX _ inX, digitsY _ inY⟩

theorem Ripples.results_lt (step : Cpu.ExactStep sign base valid digit op) :
    Byte.inBase base digit (results machines) < base ^ xs.length := by
  have valid := h.closed step (valid_zip digitsX digitsY)
  rw [← h.results_length same]
  exact Byte.inBase_lt step.large fun byte inside => step.small (valid byte inside)

/-- The equation for two numbers of one length. -/
theorem Ripples.exact_zip (step : Cpu.ExactStep sign base valid digit op) :
    (Byte.inBase base digit (results machines) : ℤ) +
        sign * base ^ xs.length * (carryOut false machines).toNat =
      Byte.inBase base digit xs + sign * Byte.inBase base digit ys := by
  have total := h.exact step (valid_zip digitsX digitsY)
  rwa [List.map_fst_zip (by omega), List.map_snd_zip (by omega), List.length_zip, ← same,
    Nat.min_self, Bool.toNat_false, Nat.cast_zero, add_zero] at total

theorem Ripples.sum (step : Cpu.ExactStep 1 base valid digit op) :
    Byte.inBase base digit (results machines) =
        (Byte.inBase base digit xs + Byte.inBase base digit ys) %
          base ^ xs.length ∧
      carryOut false machines =
        decide (base ^ xs.length ≤
          Byte.inBase base digit xs + Byte.inBase base digit ys) := by
  have total := h.exact_zip same digitsX digitsY step
  apply rest_and_carry _ (h.results_lt same digitsX digitsY step)
  zify
  linear_combination total

theorem Ripples.difference (step : Cpu.ExactStep (-1) base valid digit op) :
    (Byte.inBase base digit (results machines) : ℤ) =
        ((Byte.inBase base digit xs : ℤ) - Byte.inBase base digit ys) %
          (base ^ xs.length : Nat) ∧
      carryOut false machines =
        decide (Byte.inBase base digit xs < Byte.inBase base digit ys) := by
  have total := h.exact_zip same digitsX digitsY step
  apply rest_and_borrow _ (h.results_lt same digitsX digitsY step)
  zify
  linear_combination total

end Zip

section Long

variable (m : Machine) {xs ys : List Byte} (same : xs.length = ys.length)
include same

theorem results_length (first next : Arithmetic) :
    (results (m.chain first next (xs.zip ys))).length = xs.length := by
  rw [results, List.length_map, chain_length, List.length_zip, same, Nat.min_self]

theorem addLong_mod :
    Byte.number (results (m.addLong (xs.zip ys))) =
      (Byte.number xs + Byte.number ys) % 256 ^ xs.length :=
  ((m.addLong_chainOf.ripples _).sum same (fun _ _ => trivial) (fun _ _ => trivial)
    Cpu.add_exactStep).1

theorem addLong_carry :
    carryOut false (m.addLong (xs.zip ys)) =
      decide (256 ^ xs.length ≤ Byte.number xs + Byte.number ys) :=
  ((m.addLong_chainOf.ripples _).sum same (fun _ _ => trivial) (fun _ _ => trivial)
    Cpu.add_exactStep).2

theorem subLong_mod :
    (Byte.number (results (m.subLong (xs.zip ys))) : ℤ) =
      ((Byte.number xs : ℤ) - Byte.number ys) % 256 ^ xs.length := by
  have difference := (m.subLong_chainOf.ripples _).difference same (fun _ _ => trivial)
    (fun _ _ => trivial) Cpu.sub_exactStep
  exact_mod_cast difference.1

theorem subLong_carry :
    carryOut false (m.subLong (xs.zip ys)) = decide (Byte.number xs < Byte.number ys) :=
  ((m.subLong_chainOf.ripples _).difference same (fun _ _ => trivial) (fun _ _ => trivial)
    Cpu.sub_exactStep).2

end Long

/-- Arithmetic through the carry is exact. Whatever the flags were, adding the bytes of two numbers of
one length gives the bytes of their sum, the last carry says whether the sum is too large for them, and
the half carry after each byte says whether its low digits and the carry from below are; likewise with
differences, which always leave the flag of a subtraction. Loading the next byte leaves the flags alone,
and it makes no difference where an operand comes from. A comparison leaves the flags of a subtraction
and keeps `A`. -/
theorem long_arithmetic_exact (m : Machine) {xs ys : List Byte} (same : xs.length = ys.length) :
    let sums := m.addLong (xs.zip ys)
    let differences := m.subLong (xs.zip ys)
    ((results sums).length = xs.length ∧
      Byte.number (results sums) = (Byte.number xs + Byte.number ys) % 256 ^ xs.length ∧
      carryOut false sums = decide (256 ^ xs.length ≤ Byte.number xs + Byte.number ys) ∧
      ∀ i x y m', xs[i]? = some x → ys[i]? = some y → sums[i]? = some m' →
        m'.cpu.regs.flags.halfCarry =
          decide (15 < x.toNat % 16 + y.toNat % 16 + (carryOut false (sums.take i)).toNat)) ∧
    ((results differences).length = xs.length ∧
      (Byte.number (results differences) : ℤ) =
        ((Byte.number xs : ℤ) - Byte.number ys) % 256 ^ xs.length ∧
      carryOut false differences = decide (Byte.number xs < Byte.number ys) ∧
      ∀ i x y m', xs[i]? = some x → ys[i]? = some y → differences[i]? = some m' →
        m'.cpu.regs.flags.subtract = true ∧
        m'.cpu.regs.flags.halfCarry =
          decide (x.toNat % 16 < y.toNat % 16 + (carryOut false (differences.take i)).toNat)) ∧
    (∀ operand, m.execute (.loadImmediate .a) operand = { m with cpu.regs.a := operand.low }) ∧
    (∀ op src operand, m.execute (.arithmetic op src) operand =
      m.execute (.arithmeticImmediate op) (.ofBytes 0 (m.readPlace src))) ∧
    ∀ operand, m.execute (.arithmeticImmediate .cp) operand =
      { m.execute (.arithmeticImmediate .sub) operand with cpu.regs.a := m.cpu.regs.a } := by
  have pair {i : Nat} {x y : Byte} (atX : xs[i]? = some x) (atY : ys[i]? = some y) :
      (xs.zip ys)[i]? = some (x, y) :=
    List.getElem?_zip_eq_some.mpr ⟨atX, atY⟩
  refine ⟨⟨m.results_length same _ _, m.addLong_mod same, m.addLong_carry same, ?_⟩,
    ⟨m.results_length same _ _, m.subLong_mod same, m.subLong_carry same, ?_⟩,
    fun _ => rfl, ?_, fun _ => rfl⟩
  · intro i x y m' atX atY after
    rw [m.addLong_chainOf.flags (pair atX atY) after]
    rfl
  · intro i x y m' atX atY after
    rw [m.subLong_chainOf.flags (pair atX atY) after]
    exact ⟨rfl, rfl⟩
  · intro op src operand
    simp only [execute, Word.low_ofBytes]

theorem long_arithmetic_exact_carries :
    let m : Machine := ⟨.postBoot false, .initial 0⟩
    let xs : List Byte := [0x01, 0xFF, 0x00]
    let ys : List Byte := [0xFF, 0xFF, 0x10]
    m.cpu.regs.flags.carry = true ∧ xs.length = ys.length ∧
      Byte.number (results (m.addLong (xs.zip ys))) = 0x11FF00 ∧
      carryOut false (m.addLong (xs.zip ys)) = false ∧
      Byte.number (results (m.subLong (xs.zip ys))) = 0xEFFF02 ∧
      carryOut false (m.subLong (xs.zip ys)) = true := by
  intro m xs ys
  obtain ⟨⟨-, sum, carry, -⟩, ⟨-, difference, borrow, -⟩, -⟩ :=
    m.long_arithmetic_exact (show xs.length = ys.length from rfl)
  have difference : (Byte.number (results (m.subLong (xs.zip ys))) : ℤ) = 0xEFFF02 :=
    difference.trans (by decide)
  exact ⟨rfl, rfl, sum.trans (by decide), carry.trans (by decide), by exact_mod_cast difference,
    borrow.trans (by decide)⟩

end Machine

end DotMatrix
