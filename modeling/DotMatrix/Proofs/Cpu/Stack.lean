import Mathlib.Data.UInt
import DotMatrix.Proofs.Cpu.OpcodeTable
import DotMatrix.Proofs.Cpu.Service

/-!
The stack. A push stores its two bytes below all that is on the stack, so it leaves what was pushed
before, and a pop takes what was pushed last. Whatever the depth, words come back in the opposite order,
a return goes on behind the call that belongs to it, and nothing else on the bus has changed.
-/

namespace DotMatrix

namespace Word

theorem sub_ofNat_one (w : Word) (k : Nat) : w - UInt16.ofNat k - 1 = w - UInt16.ofNat (k + 1) := by
  rw [UInt16.ofNat_add]
  exact sub_sub _ _ _

theorem sub_ofNat_two (w : Word) (k : Nat) : w - UInt16.ofNat k - 2 = w - UInt16.ofNat (k + 2) := by
  rw [UInt16.ofNat_add]
  exact sub_sub _ _ _

theorem sub_ofNat_succ_add_one (w : Word) (k : Nat) :
    w - UInt16.ofNat (k + 1) + 1 = w - UInt16.ofNat k := by
  rw [UInt16.ofNat_add, ← sub_sub]
  exact sub_add_cancel _ _

theorem toNat_sub_ofNat {w : Word} {k : Nat} (below : k ≤ w.toNat) :
    (w - UInt16.ofNat k).toNat = w.toNat - k := by
  have := w.toNat_lt
  rw [UInt16.toNat_sub, UInt16.toNat_ofNat']
  omega

end Word

/-- Is it one of the bytes of so many words below an address? -/
def InStack (top : Word) (words : Nat) (byte : Word) : Prop :=
  ∃ k < 2 * words, byte = top - UInt16.ofNat (k + 1)

/-- Are the bytes of so many words below an address all in the work RAM proper, or all in the high
RAM? -/
def StackRoom (top : Word) (words : Nat) : Prop :=
  (∀ byte, InStack top words byte → 0xC000 ≤ byte.toNat ∧ byte.toNat < 0xE000) ∨
    ∀ byte, InStack top words byte → BusPart.highRam.Owns byte

section Room

variable {top : Word} {n : Nat}

theorem InStack.mono {byte : Word} {more : Nat} (h : InStack top n byte) (le : n ≤ more) :
    InStack top more byte := by
  obtain ⟨k, below, here⟩ := h
  exact ⟨k, by omega, here⟩

theorem StackRoom.mono {more : Nat} (room : StackRoom top more) (le : n ≤ more) :
    StackRoom top n := by
  rcases room with inner | high
  · exact Or.inl fun byte inside => inner byte (inside.mono le)
  · exact Or.inr fun byte inside => high byte (inside.mono le)

/-- The bytes below the next word are further down on the same stack. -/
theorem InStack.deeper {byte : Word} {depth : Nat}
    (h : InStack (top - UInt16.ofNat (2 * depth)) n byte) : InStack top (depth + n) byte := by
  obtain ⟨k, below, rfl⟩ := h
  refine ⟨2 * depth + k, by omega, ?_⟩
  rw [sub_sub, ← UInt16.ofNat_add, Nat.add_assoc]

theorem StackRoom.deeper {depth : Nat} (room : StackRoom top (depth + n)) :
    StackRoom (top - UInt16.ofNat (2 * depth)) n := by
  rcases room with inner | high
  · exact Or.inl fun byte inside => inner byte inside.deeper
  · exact Or.inr fun byte inside => high byte inside.deeper

theorem StackRoom.inRam (room : StackRoom top n) {byte : Word} (inside : InStack top n byte) :
    BusPart.InRam byte := by
  rcases room with inner | high
  · left
    have := inner byte inside
    simp only [BusPart.Owns]
    omega
  · exact Or.inr (high byte inside)

/-- No byte of the stack is seen at another one. -/
theorem StackRoom.not_seenAt (room : StackRoom top n) {byte other : Word}
    (inside : InStack top n byte) (inside' : InStack top n other) (apart : other ≠ byte) :
    ¬ BusPart.SeenAt byte other := by
  rintro (same | ⟨mine, -, mirrored⟩)
  · exact apart same
  · rcases room with inner | high
    · have := inner byte inside
      have := inner other inside'
      exact apart (UInt16.toNat_inj.1 (by omega))
    · exact absurd (mine.unique (high byte inside)) (by decide)

/-- There are that many addresses below. -/
theorem StackRoom.le_toNat (room : StackRoom top n) : 2 * n ≤ top.toNat := by
  refine Classical.byContradiction fun more => ?_
  -- the stack would go down past address zero, to the last address, where there is no RAM
  have last : InStack top n (top - UInt16.ofNat (top.toNat + 1)) := ⟨top.toNat, by omega, rfl⟩
  have inRam := room.inRam last
  rw [UInt16.ofNat_add, UInt16.ofNat_toNat, ← sub_sub, sub_self] at inRam
  exact absurd inRam (by decide)

theorem StackRoom.toNat_byte (room : StackRoom top n) {k : Nat} (below : k < 2 * n) :
    (top - UInt16.ofNat (k + 1)).toNat = top.toNat - (k + 1) :=
  Word.toNat_sub_ofNat (Nat.le_trans below room.le_toNat)

end Room

namespace Bus

/-- The words below an address on the stack, the innermost first. -/
def Stacked (bus : Bus) (top : Word) : List Word → Prop
  | [] => True
  | word :: words =>
    bus.readWord (top - UInt16.ofNat (2 * (words.length + 1))) = word ∧ bus.Stacked top words

/-- What is on the stack depends on its bytes only. -/
theorem Stacked.congr {bus bus' : Bus} {top : Word} {words : List Word}
    (h : bus.Stacked top words)
    (same : ∀ byte, InStack top words.length byte → bus'.read byte = bus.read byte) :
    bus'.Stacked top words := by
  induction words with
  | nil => trivial
  | cons word words ih =>
      obtain ⟨here, deeper⟩ := h
      have later := ih deeper fun byte inside => same byte (inside.mono (by simp))
      refine ⟨?_, later⟩
      have low := same (top - UInt16.ofNat (2 * (words.length + 1)))
        ⟨2 * words.length + 1, by simp only [List.length_cons]; omega, rfl⟩
      have high := same (top - UInt16.ofNat (2 * words.length + 1))
        ⟨2 * words.length, by simp only [List.length_cons]; omega, rfl⟩
      have next : top - UInt16.ofNat (2 * (words.length + 1)) + 1 =
          top - UInt16.ofNat (2 * words.length + 1) := Word.sub_ofNat_succ_add_one _ _
      rw [readWord, next] at here ⊢
      rw [low, high, here]

end Bus

namespace Registers

end Registers

namespace Machine

/-- The words on the stack below an address, the innermost first, are all there is between it and the
stack pointer. -/
structure Holds (m : Machine) (top : Word) (words : List Word) : Prop where
  room : StackRoom top words.length
  sp : m.cpu.regs.sp = top - UInt16.ofNat (2 * words.length)
  words : m.bus.Stacked top words

section Steps

variable {m m' : Machine} {top : Word} {words : List Word}

theorem Holds.nil (m : Machine) : m.Holds m.cpu.regs.sp [] where
  room := by
    left
    rintro byte ⟨k, below, -⟩
    exact absurd below (Nat.not_lt_zero k)
  sp := (sub_zero _).symm
  words := trivial

theorem Holds.congr (h : m.Holds top words) (sp : m'.cpu.regs.sp = m.cpu.regs.sp)
    (same : ∀ byte, InStack top words.length byte → m'.bus.read byte = m.bus.read byte) :
    m'.Holds top words where
  room := h.room
  sp := sp.trans h.sp
  words := h.words.congr same

/-- The bytes that the next push stores. -/
theorem Holds.belowStack (h : m.Holds top words) :
    m.belowStack = [top - UInt16.ofNat (2 * words.length + 1),
      top - UInt16.ofNat (2 * words.length + 2)] := by
  rw [Machine.belowStack, h.sp, Word.sub_ofNat_one, Word.sub_ofNat_two]

theorem Holds.inStack (h : m.Holds top words) {byte : Word} (below : byte ∈ m.belowStack) :
    InStack top (words.length + 1) byte := by
  rw [h.belowStack, List.mem_pair] at below
  rcases below with rfl | rfl
  · exact ⟨2 * words.length, by omega, rfl⟩
  · exact ⟨2 * words.length + 1, by omega, rfl⟩

/-- What a push stores is not seen at the bytes that are there. -/
theorem Holds.apart (h : m.Holds top words) (room : StackRoom top (words.length + 1))
    {byte other : Word} (below : byte ∈ m.belowStack) (inside : InStack top words.length other) :
    ¬ BusPart.SeenAt byte other := by
  apply room.not_seenAt (h.inStack below) (inside.mono (Nat.le_succ _))
  intro same
  obtain ⟨k, above, rfl⟩ := inside
  have fits := room.le_toNat
  have there := room.toNat_byte (Nat.lt_of_lt_of_le above (Nat.mul_le_mul_left 2 (Nat.le_succ _)))
  have first := room.toNat_byte (show 2 * words.length < 2 * (words.length + 1) by omega)
  have second := room.toNat_byte (show 2 * words.length + 1 < 2 * (words.length + 1) by omega)
  rw [h.belowStack, List.mem_pair] at below
  rcases below with rfl | rfl
  · have level := there.symm.trans ((congrArg UInt16.toNat same).trans first)
    omega
  · have level := there.symm.trans ((congrArg UInt16.toNat same).trans second)
    omega

/-- A push puts its word on what is there and leaves that alone. -/
theorem Holds.push (h : m.Holds top words) (room : StackRoom top (words.length + 1)) (word : Word) :
    (m.push word).Holds top (word :: words) := by
  have ram : ∀ addr ∈ m.belowStack, BusPart.InRam addr := fun addr below =>
    room.inRam (h.inStack below)
  have sp : m.cpu.regs.sp - 2 = top - UInt16.ofNat (2 * (words.length + 1)) := by
    rw [h.sp, Word.sub_ofNat_two, Nat.mul_succ]
  have bus : (m.push word).bus = m.bus.writeAll (m.stackStores word) := rfl
  refine ⟨room, sp, ?_, ?_⟩
  · rw [← sp, bus]
    exact readWord_pushed m.bus ram word
  · apply h.words.congr
    intro byte inside
    have low : ¬ BusPart.SeenAt (m.cpu.regs.sp - 2) byte :=
      h.apart room (by simp [Machine.belowStack]) inside
    have high : ¬ BusPart.SeenAt (m.cpu.regs.sp - 1) byte :=
      h.apart room (by simp [Machine.belowStack]) inside
    rw [bus, read_pushed m.bus ram, if_neg low, if_neg high]

/-- A pop takes the innermost word. -/
theorem Holds.pop {word : Word} (h : m.Holds top (word :: words)) :
    m.pop.1 = word ∧ m.pop.2.Holds top words := by
  obtain ⟨here, deeper⟩ := h.words
  have sp : m.cpu.regs.sp = top - UInt16.ofNat (2 * words.length) - 2 := by
    rw [Word.sub_ofNat_two]
    exact h.sp
  refine ⟨?_, h.room.mono (Nat.le_succ _), ?_, deeper⟩
  · rw [Machine.pop, h.sp]
    exact here
  · change m.cpu.regs.sp + 2 = _
    rw [sp]
    exact UInt16.sub_add_cancel _ _

end Steps

/-- Pops so many words, which come in the order in which they are popped. -/
def popMany (m : Machine) : Nat → List Word × Machine
  | 0 => ([], m)
  | n + 1 => (m.pop.1 :: (m.pop.2.popMany n).1, (m.pop.2.popMany n).2)

section Runs

variable {m : Machine} {top : Word} {words : List Word}

theorem Holds.popMany {more : List Word} (h : m.Holds top (more ++ words)) :
    (m.popMany more.length).1 = more ∧ (m.popMany more.length).2.Holds top words := by
  induction more generalizing m with
  | nil => exact ⟨rfl, h⟩
  | cons word rest ih =>
      obtain ⟨here, popped⟩ := h.pop
      obtain ⟨later, rest⟩ := ih popped
      refine ⟨?_, rest⟩
      rw [List.length_cons, Machine.popMany, here, later]

end Runs

end Machine

namespace Instruction

/-- Does the instruction leave the way back on the stack? -/
def calls (i : Instruction) (flags : Flags) : Bool :=
  match i with
  | call cond => cond.holds flags
  | rst _ => true
  | _ => false

/-- Does the instruction take the way back from the stack? -/
def returns (i : Instruction) (flags : Flags) : Bool :=
  match i with
  | ret cond => cond.holds flags
  | reti => true
  | _ => false

end Instruction

namespace Machine

/-- The machine after so many steps. -/
def after (m : Machine) : Nat → Machine
  | 0 => m
  | n + 1 => m.step.1.after n

/-- The next step executes a call; the address is the one behind it. -/
structure Calls (m : Machine) (back : Word) : Prop where
  unserved : m.serves = false
  up : m.awake.cpu.halted = false
  encodes : ∃ i size base, m.Encodes i size base ∧ i.calls m.cpu.regs.flags = true ∧
    back = m.cpu.regs.pc + UInt16.ofNat size

/-- The next step executes a return. -/
structure Returns (m : Machine) : Prop where
  unserved : m.serves = false
  up : m.awake.cpu.halted = false
  encodes : ∃ i size base, m.Encodes i size base ∧ i.returns m.cpu.regs.flags = true

section Calling

variable {m : Machine} {i : Instruction} {top : Word} {words : List Word}

theorem after_add (m : Machine) (k n : Nat) : m.after (k + n) = (m.after k).after n := by
  induction k generalizing m with
  | zero => rw [Nat.zero_add, after]
  | succ k ih => rw [Nat.succ_add, after, ih, after]

theorem execute_calls (calls : i.calls m.cpu.regs.flags = true) (operand : Word) :
    (m.execute i operand).cpu.regs.sp = (m.push m.cpu.regs.pc).cpu.regs.sp ∧
      (m.execute i operand).bus = (m.push m.cpu.regs.pc).bus := by
  cases i with
  | call cond =>
      simp only [Instruction.calls] at calls
      simp only [execute, calls, if_true]
      exact ⟨rfl, rfl⟩
  | rst n => exact ⟨rfl, rfl⟩
  | _ => cases calls

theorem execute_returns (returns : i.returns m.cpu.regs.flags = true) (operand : Word) :
    (m.execute i operand).cpu.regs.pc = m.pop.1 ∧
      (m.execute i operand).cpu.regs.sp = m.pop.2.cpu.regs.sp ∧
      (m.execute i operand).bus = m.bus := by
  cases i with
  | ret cond =>
      simp only [Instruction.returns] at returns
      simp only [execute, returns, if_true]
      exact ⟨rfl, rfl, rfl⟩
  | reti => exact ⟨rfl, rfl, rfl⟩
  | _ => cases returns

/-- The machine that has fetched an instruction of so many bytes. -/
def behind (m : Machine) (size : Nat) : Machine :=
  { m.awake with cpu.regs.pc := m.cpu.regs.pc + UInt16.ofNat size }

theorem behind_regs (m : Machine) (size : Nat) :
    (m.behind size).cpu.regs =
      { m.cpu.regs with pc := m.cpu.regs.pc + UInt16.ofNat size } := by
  exact congrArg (fun regs : Registers => { regs with pc := m.cpu.regs.pc + UInt16.ofNat size })
    m.awake_regs

theorem behind_bus (m : Machine) (size : Nat) : (m.behind size).bus = m.bus :=
  m.awake_bus

theorem Holds.behind (h : m.Holds top words) (size : Nat) : (m.behind size).Holds top words := by
  apply h.congr
  · rw [behind_regs]
  · intro byte _
    rw [behind_bus]

/-- The bus after a step that executes an instruction. -/
theorem Encodes.step_bus {size base : Nat} (encodes : m.Encodes i size base)
    (unserved : m.serves = false) (up : m.awake.cpu.halted = false) :
    m.step.1.bus =
      ((m.behind size).execute i (operandAt m.bus (m.cpu.regs.pc + 1) i.immediate)).bus := by
  obtain ⟨pc, fetched, after, sameOperand⟩ := encodes.awake.fetchInstruction
  rw [awake_regs] at after sameOperand
  rw [awake_bus] at sameOperand
  rw [step_next unserved up]
  simp only [executeNext, fetched, fetchImmediate_fst, fetchImmediate_snd, awake_bus, after,
    sameOperand, commit, spend, Machine.behind]

theorem Holds.call {back : Word} (h : m.Holds top words) (room : StackRoom top (words.length + 1))
    (calls : m.Calls back) : m.step.1.Holds top (back :: words) := by
  obtain ⟨i, size, base, encodes, calling, rfl⟩ := calls.encodes
  have regs := (encodes.step calls.unserved calls.up).1
  have bus := encodes.step_bus calls.unserved calls.up
  have calling : i.calls (m.behind size).cpu.regs.flags = true := by rwa [behind_regs]
  obtain ⟨sp, pushed⟩ := execute_calls calling (operandAt m.bus (m.cpu.regs.pc + 1) i.immediate)
  rw [behind_regs] at sp pushed
  apply ((h.behind size).push room (m.cpu.regs.pc + UInt16.ofNat size)).congr
  · rw [regs]
    exact sp
  · intro byte _
    rw [bus, pushed]

/-- A return goes on where the innermost call goes back to. -/
theorem Holds.ret {back : Word} (h : m.Holds top (back :: words)) (returns : m.Returns) :
    m.step.1.cpu.regs.pc = back ∧ m.step.1.Holds top words := by
  obtain ⟨i, size, base, encodes, returning⟩ := returns.encodes
  have regs := (encodes.step returns.unserved returns.up).1
  have bus := encodes.step_bus returns.unserved returns.up
  have returning : i.returns (m.behind size).cpu.regs.flags = true := by rwa [behind_regs]
  obtain ⟨pc, sp, same⟩ :=
    execute_returns returning (operandAt m.bus (m.cpu.regs.pc + 1) i.immediate)
  obtain ⟨here, popped⟩ := (h.behind size).pop
  constructor
  · rw [regs]
    exact pc.trans here
  · apply popped.congr
    · rw [regs]
      exact sp
    · intro byte _
      rw [bus, same]
      rfl

/-- Nested calls leave their ways back on the stack, the innermost first. -/
theorem Holds.calls (h : m.Holds top words) {backs : List Word}
    (room : StackRoom top (words.length + backs.length))
    (calls : ∀ k (inside : k < backs.length), (m.after k).Calls backs[k]) :
    (m.after backs.length).Holds top (backs.reverse ++ words) := by
  induction backs generalizing m words with
  | nil => exact h
  | cons back rest ih =>
      have called := h.call (room.mono (by simp)) (calls 0 (by simp))
      have later := ih called (by simpa [Nat.add_right_comm, Nat.add_assoc] using room)
        fun k inside => calls (k + 1) (by simpa using inside)
      rwa [List.reverse_cons, List.append_assoc]

/-- Returns go on behind the calls, from the innermost on. -/
theorem Holds.returns {backs : List Word} (h : m.Holds top (backs ++ words))
    (returns : ∀ k < backs.length, (m.after k).Returns) :
    (∀ k (inside : k < backs.length), (m.after (k + 1)).cpu.regs.pc = backs[k]) ∧
      (m.after backs.length).Holds top words := by
  induction backs generalizing m with
  | nil =>
      refine ⟨?_, h⟩
      intro k inside
      cases inside
  | cons back rest ih =>
      obtain ⟨here, returned⟩ := h.ret (returns 0 (by simp))
      obtain ⟨later, empty⟩ := ih returned fun k inside => returns (k + 1) (by simpa using inside)
      refine ⟨?_, empty⟩
      intro k inside
      cases k with
      | zero => exact here
      | succ k => exact later k (by simpa using inside)

end Calling

end Machine

end DotMatrix
