import DotMatrix.Proofs.Console.Interrupts

/-!
What goes over the link. The data register is both the byte that goes out next and the one that came in
last, and the log is emptied while transfers go on; told without either, two partners talk to each other.
Each start of a transfer, and nothing else, says one byte to whoever is plugged in then: the one that was
written or heard last. None gets lost and none is said twice, whatever is at the other end.
-/

namespace DotMatrix

/-- What a program and its host do to the serial port. -/
inductive SerialCall (L : Type) where
  /-- A write to the data register. -/
  | data (value : Byte)
  /-- A write to the control register. -/
  | control (value : Byte)
  /-- The host collects the log. -/
  | collect
  /-- The host plugs something else in. -/
  | plug (link : L)

/-- Does a call start a transfer? -/
def SerialCall.starts {L : Type} : SerialCall L → Bool
  | control value => value.bit 7 && value.bit 0
  | _ => false

/-- A bus, with all that has been collected from the log of its serial port. -/
structure Listening (L : Type) where
  bus : Bus L
  collected : List Byte

namespace Listening

variable {L : Type} [LinkPort L]

def apply (s : Listening L) : SerialCall L → Listening L
  | .data value => { s with bus := s.bus.write 0xFF01 value }
  | .control value => { s with bus := s.bus.write 0xFF02 value }
  | .collect =>
    { bus := { s.bus with serial := s.bus.serial.takeLog.1 }
      collected := s.collected ++ s.bus.serial.takeLog.2.toList }
  | .plug link => { s with bus := { s.bus with serial := s.bus.serial.plug link } }

/-- A bus after some calls, and what they have collected. -/
def run (bus : Bus L) (calls : List (SerialCall L)) : Listening L :=
  calls.foldl apply ⟨bus, []⟩

end Listening

/-- Two partners that talk. This one holds a byte ready, and has said and heard some. -/
structure Dialogue (L : Type) where
  held : Byte
  partner : L
  said : List Byte
  heard : List Byte

namespace Dialogue

variable {L : Type} [LinkPort L]

/-- Says the byte that is held, and holds the answer. -/
def speak (d : Dialogue L) : Dialogue L :=
  let (partner, answer) := LinkPort.transfer d.partner d.held
  { held := answer
    partner := partner
    said := d.said ++ [d.held]
    heard := d.heard ++ [answer] }

def apply (d : Dialogue L) (call : SerialCall L) : Dialogue L :=
  if call.starts then d.speak
  else
    match call with
    | .data value => { d with held := value }
    | .plug link => { d with partner := link }
    | _ => d

/-- What has been said when some calls are over, by a bus that has said nothing yet. -/
def run (bus : Bus L) (calls : List (SerialCall L)) : Dialogue L :=
  calls.foldl apply ⟨bus.serial.data, bus.serial.link, [], []⟩

end Dialogue

namespace Bus

section Serial

variable {L : Type} [LinkPort L] (bus : Bus L) (value : Byte)

theorem write_data_serial :
    (bus.write 0xFF01 value).serial = { bus.serial with data := value, completed := false } :=
  requestIf_serial _ _ _

theorem write_data_requested :
    (bus.write 0xFF01 value).requested = bus.requested ||| raised bus.serial.completed .serial :=
  requestIf_requested _ _ _

variable {value}

section Start

variable (starts : (value.bit 7 && value.bit 0) = true)

include starts

theorem port_write_start :
    bus.serial.write 0xFF02 value = { bus.serial with control := value }.exchange :=
  if_pos starts

/-- A write that starts a transfer hands over the byte in the data register and takes one in. -/
theorem write_start_serial :
    (bus.write 0xFF02 value).serial =
      { data := (LinkPort.transfer bus.serial.link bus.serial.data).2
        control := value &&& 0x7F
        log := bus.serial.log.push bus.serial.data
        link := (LinkPort.transfer bus.serial.link bus.serial.data).1
        completed := false } := by
  change (bus.writeSerial 0xFF02 value).serial = _
  rw [writeSerial_eq, requestIf_serial, bus.port_write_start starts]
  rfl

theorem write_start_requested :
    (bus.write 0xFF02 value).requested = bus.requested ||| raised true .serial := by
  change (bus.writeSerial 0xFF02 value).requested = _
  rw [writeSerial_eq, requestIf_requested, bus.port_write_start starts]
  rfl

end Start

section Idle

variable (idle : (value.bit 7 && value.bit 0) = false)

include idle

theorem port_write_idle : bus.serial.write 0xFF02 value = { bus.serial with control := value } :=
  if_neg (Bool.eq_false_iff.mp idle)

theorem write_idle_serial :
    (bus.write 0xFF02 value).serial =
      { bus.serial with control := value, completed := false } := by
  change (bus.writeSerial 0xFF02 value).serial = _
  rw [writeSerial_eq, requestIf_serial, bus.port_write_idle idle]
  rfl

theorem write_idle_requested :
    (bus.write 0xFF02 value).requested =
      bus.requested ||| raised bus.serial.completed .serial := by
  change (bus.writeSerial 0xFF02 value).requested = _
  rw [writeSerial_eq, requestIf_requested, bus.port_write_idle idle]

end Idle

end Serial

end Bus

theorem Byte.bit_and_low7 (value : Byte) : (value &&& 0x7F).bit 7 = false := by
  rw [bit, UInt8.toNat_and, Nat.testBit_and]
  exact Bool.and_false _

section Following

variable {L : Type} [LinkPort L]

/-- The serial port is where the dialogue is, and what has been said is what was collected and what is
still in the log, after the bytes that were in the log before. -/
structure Listening.Follows (logged : List Byte) (s : Listening L) (d : Dialogue L) : Prop where
  link : s.bus.serial.link = d.partner
  data : s.bus.serial.data = d.held
  bytes : s.collected ++ s.bus.serial.log.toList = logged ++ d.said

variable {logged : List Byte} {s : Listening L} {d : Dialogue L}

theorem Listening.Follows.apply (h : s.Follows logged d) (call : SerialCall L) :
    (s.apply call).Follows logged (d.apply call) := by
  obtain ⟨link, data, bytes⟩ := h
  cases call with
  | data value =>
      have port : (s.apply (.data value)).bus.serial = _ := s.bus.write_data_serial value
      constructor
      · rw [port]
        exact link
      · rw [port]
        rfl
      · rw [port]
        exact bytes
  | control value =>
      cases starts : value.bit 7 && value.bit 0 with
      | true =>
          have spoken : d.apply (.control value) = d.speak := if_pos starts
          have port : (s.apply (.control value)).bus.serial = _ := s.bus.write_start_serial starts
          rw [link, data] at port
          rw [spoken]
          constructor
          · rw [port]
            rfl
          · rw [port]
            rfl
          · rw [port, Array.toList_push, ← List.append_assoc]
            change s.collected ++ s.bus.serial.log.toList ++ [d.held] = logged ++ (d.said ++ [d.held])
            rw [bytes, List.append_assoc]
      | false =>
          have silent : d.apply (.control value) = d := if_neg (Bool.eq_false_iff.mp starts)
          have port : (s.apply (.control value)).bus.serial = _ := s.bus.write_idle_serial starts
          rw [silent]
          constructor
          · rw [port]
            exact link
          · rw [port]
            exact data
          · rw [port]
            exact bytes
  | collect =>
      refine ⟨link, data, ?_⟩
      change s.collected ++ s.bus.serial.log.toList ++ [] = logged ++ d.said
      rw [List.append_nil, bytes]
  | plug other => exact ⟨rfl, data, bytes⟩

theorem Listening.Follows.foldl (h : s.Follows logged d) (calls : List (SerialCall L)) :
    (calls.foldl Listening.apply s).Follows logged (calls.foldl Dialogue.apply d) := by
  induction calls generalizing s d with
  | nil => exact h
  | cons call rest ih => exact ih (h.apply call)

namespace Listening

/-- No call leaves a completed transfer that has not been requested. -/
theorem apply_completed (idle : s.bus.serial.completed = false) (call : SerialCall L) :
    (s.apply call).bus.serial.completed = false := by
  cases call with
  | data value =>
      have port : (s.apply (.data value)).bus.serial = _ := s.bus.write_data_serial value
      rw [port]
  | control value =>
      cases starts : value.bit 7 && value.bit 0 with
      | true =>
          have port : (s.apply (.control value)).bus.serial = _ := s.bus.write_start_serial starts
          rw [port]
      | false =>
          have port : (s.apply (.control value)).bus.serial = _ := s.bus.write_idle_serial starts
          rw [port]
  | collect => exact idle
  | plug link => exact idle

theorem run_completed {bus : Bus L} (idle : bus.serial.completed = false)
    (calls : List (SerialCall L)) : (run bus calls).bus.serial.completed = false := by
  have kept : ∀ s : Listening L, s.bus.serial.completed = false →
      (calls.foldl apply s).bus.serial.completed = false := by
    induction calls with
    | nil => exact fun s idle => idle
    | cons call rest ih => exact fun s idle => ih _ (apply_completed idle call)
  exact kept _ idle

/-- A call that starts a transfer requests the interrupt, and no other call does. -/
theorem apply_requested (idle : s.bus.serial.completed = false) (call : SerialCall L) :
    (s.apply call).bus.requested = s.bus.requested ||| Bus.raised call.starts .serial := by
  cases call with
  | data value =>
      have requested : (s.apply (.data value)).bus.requested = _ := s.bus.write_data_requested value
      rw [requested, idle]
      rfl
  | control value =>
      cases starts : value.bit 7 && value.bit 0 with
      | true =>
          have requested : (s.apply (.control value)).bus.requested = _ :=
            s.bus.write_start_requested starts
          rw [requested, SerialCall.starts, starts]
      | false =>
          have requested : (s.apply (.control value)).bus.requested = _ :=
            s.bus.write_idle_requested starts
          rw [requested, idle, SerialCall.starts, starts]
  | collect => exact UInt8.or_zero.symm
  | plug link => exact UInt8.or_zero.symm

end Listening

namespace Dialogue

/-- A call says one byte if it starts a transfer, and none otherwise. -/
theorem apply_said_length (d : Dialogue L) (call : SerialCall L) :
    (d.apply call).said.length = d.said.length + if call.starts then 1 else 0 := by
  unfold apply
  cases starts : call.starts with
  | true => exact List.length_append
  | false => cases call <;> rfl

theorem foldl_said_length (d : Dialogue L) (calls : List (SerialCall L)) :
    (calls.foldl apply d).said.length = d.said.length + calls.countP SerialCall.starts := by
  induction calls generalizing d with
  | nil => rfl
  | cons call rest ih =>
      rw [List.foldl_cons, ih, d.apply_said_length, List.countP_cons]
      omega

end Dialogue

end Following

section Stream

/-- The first so many bytes that come in from a host with some bytes to send. -/
def streamed (incoming : Array Byte) (count : Nat) : List Byte :=
  incoming.toList.take count ++ List.replicate (count - incoming.size) 0xFF

variable (incoming : Array Byte)

theorem streamed_succ (count : Nat) :
    streamed incoming (count + 1) =
      streamed incoming count ++ [incoming[count]?.getD 0xFF] := by
  unfold streamed
  by_cases more : count < incoming.size
  · have now : count - incoming.size = 0 := by omega
    have next : count + 1 - incoming.size = 0 := by omega
    have byte : incoming.toList[count]? = some incoming[count] := by
      rw [Array.getElem?_toList, Array.getElem?_eq_getElem more]
    rw [now, next, List.take_add_one, byte, Array.getElem?_eq_getElem more]
    simp
  · have past : incoming.size ≤ count := by omega
    have next : count + 1 - incoming.size = count - incoming.size + 1 := by omega
    have all : ∀ n, incoming.size ≤ n → incoming.toList.take n = incoming.toList :=
      fun n le => List.take_of_length_le le
    rw [next, all _ past, all _ (Nat.le_succ_of_le past), List.replicate_succ', List.append_assoc,
      Array.getElem?_eq_none past]
    rfl

/-- A cable that has taken so many bytes from the host and handed some on to it. -/
def Cable.after (count : Nat) (outgoing : List Byte) : Cable :=
  ⟨incoming, min count incoming.size, outgoing.toArray, none, none, #[]⟩

theorem Cable.after_receive (count : Nat) (outgoing : List Byte) :
    (after incoming count outgoing).receive =
      (after incoming (count + 1) outgoing, incoming[count]?.getD 0xFF) := by
  unfold receive after
  by_cases more : count < incoming.size
  · have now : min count incoming.size = count := by omega
    have next : min (count + 1) incoming.size = count + 1 := by omega
    simp only [now, next, Array.getElem?_eq_getElem more, Option.getD_some]
  · have past : incoming.size ≤ count := by omega
    have now : min count incoming.size = incoming.size := by omega
    have next : min (count + 1) incoming.size = incoming.size := by omega
    simp only [now, next, Array.getElem?_eq_none past, Array.getElem?_eq_none (Nat.le_refl _),
      Option.getD_none]

/-- In a dialogue with a host behind a sound cable, the host has all that was said, and what was heard are
its bytes and then those of an idle line. -/
structure Dialogue.Streams (d : Dialogue Link) : Prop where
  partner : d.partner = .cable (.after incoming d.said.length d.said)
  heard : d.heard = streamed incoming d.said.length

variable {incoming} {d : Dialogue Link}

theorem Dialogue.Streams.speak (h : d.Streams incoming) : d.speak.Streams incoming := by
  obtain ⟨partner, heard⟩ := h
  have sent : (Cable.after incoming d.said.length d.said).send d.held =
      .after incoming d.said.length (d.said ++ [d.held]) := by
    simp only [Cable.send, Cable.after, List.push_toArray]
  have spoken : LinkPort.transfer d.partner d.held =
      (.cable (.after incoming (d.said.length + 1) (d.said ++ [d.held])),
        incoming[d.said.length]?.getD 0xFF) := by
    rw [partner]
    change (Link.cable ((Cable.after incoming d.said.length d.said).send d.held).receive.1,
      ((Cable.after incoming d.said.length d.said).send d.held).receive.2) = _
    rw [sent, Cable.after_receive]
  have longer : (d.said ++ [d.held]).length = d.said.length + 1 := List.length_append
  unfold Dialogue.speak
  rw [spoken]
  constructor
  · simp only [longer]
  · simp only [longer, heard, streamed_succ]

theorem Dialogue.Streams.apply (h : d.Streams incoming) {call : SerialCall Link}
    (stays : ∀ link, .plug link ≠ call) : (d.apply call).Streams incoming := by
  unfold Dialogue.apply
  split
  · exact h.speak
  · cases call with
    | plug link => exact absurd rfl (stays link)
    | data | control | collect => exact ⟨h.partner, h.heard⟩

theorem Dialogue.Streams.foldl (h : d.Streams incoming) {calls : List (SerialCall Link)}
    (stays : ∀ link, .plug link ∉ calls) : (calls.foldl Dialogue.apply d).Streams incoming := by
  induction calls generalizing d with
  | nil => exact h
  | cons call rest ih =>
      refine ih (h.apply ?_) ?_
      · intro link same
        exact stays link (same ▸ List.mem_cons_self)
      · intro link later
        exact stays link (List.mem_cons_of_mem _ later)

end Stream

/-- Bytes go over the link once each, with whatever is plugged in, on a bus with no request held back. Every
start of a transfer hands one byte to the partner that is plugged in then: the byte that was written to the
data register or came in last; the answer takes its place, the start bit falls and the interrupt is
requested. No other call does any of this. All bytes ever collected, and those in the log, are the ones
that were handed over, in their order.

From a host behind a sound cable come the bytes it has, and then `0xFF` for ever; it gets exactly what is
said. -/
theorem serial_dialogue :
    (∀ (L : Type) [LinkPort L] (bus : Bus L), bus.serial.completed = false →
      ∀ calls : List (SerialCall L),
        let s := Listening.run bus calls
        let d := Dialogue.run bus calls
        (s.bus.serial.link = d.partner ∧ s.bus.serial.data = d.held) ∧
        s.collected ++ s.bus.serial.log.toList = bus.serial.log.toList ++ d.said ∧
        d.said.length = calls.countP SerialCall.starts ∧
        (s.bus.serial.completed = false ∧
          ∀ call, (s.apply call).bus.requested =
            s.bus.requested ||| Bus.raised call.starts .serial) ∧
        ∀ value, (value.bit 7 && value.bit 0) = true →
          (s.apply (.control value)).bus.serial.control.bit 7 = false) ∧
    ∀ (bus : Bus) (incoming : Array Byte) (calls : List (SerialCall Link)),
      (∀ link, .plug link ∉ calls) →
        let plugged := { bus with serial := bus.serial.plug (.cable (.ofBytes incoming)) }
        let s := Listening.run plugged calls
        let d := Dialogue.run plugged calls
        d.heard = streamed incoming d.said.length ∧ s.bus.serial.link.sent.toList = d.said := by
  constructor
  · intro L _ bus idle calls s d
    have start : Listening.Follows bus.serial.log.toList ⟨bus, []⟩
        ⟨bus.serial.data, bus.serial.link, [], []⟩ := ⟨rfl, rfl, (List.append_nil _).symm⟩
    have follows : s.Follows bus.serial.log.toList d := start.foldl calls
    have idle' : s.bus.serial.completed = false := Listening.run_completed idle calls
    refine ⟨⟨follows.link, follows.data⟩, follows.bytes, ?_, ?_, ?_⟩
    · exact (Dialogue.foldl_said_length _ calls).trans (Nat.zero_add _)
    · exact ⟨idle', Listening.apply_requested idle'⟩
    · intro value starts
      have port : (s.apply (.control value)).bus.serial = _ := s.bus.write_start_serial starts
      rw [port]
      exact Byte.bit_and_low7 value
  · intro bus incoming calls stays plugged s d
    have start : Listening.Follows plugged.serial.log.toList ⟨plugged, []⟩
        ⟨plugged.serial.data, plugged.serial.link, [], []⟩ := ⟨rfl, rfl, (List.append_nil _).symm⟩
    have follows : s.Follows plugged.serial.log.toList d := start.foldl calls
    have cable : Dialogue.Streams incoming
        ⟨plugged.serial.data, plugged.serial.link, [], []⟩ := by
      refine ⟨?_, ?_⟩
      · change Link.cable (.ofBytes incoming) = .cable (.after incoming 0 [])
        rw [Cable.after, Nat.zero_min]
        rfl
      · change [] = incoming.toList.take 0 ++ List.replicate (0 - incoming.size) 0xFF
        rw [Nat.zero_sub]
        rfl
    have streams : d.Streams incoming := cable.foldl stays
    refine ⟨streams.heard, ?_⟩
    rw [follows.link, streams.partner]
    rfl

/-- A partner that answers each byte with the sum of all it has been handed. -/
structure Adder where
  sum : Byte

instance : LinkPort Adder := ⟨fun adder byte => (⟨adder.sum + byte⟩, adder.sum + byte)⟩

/-- Two transfers to one adder, the second of what it answered, and one to another, with a write in
between that waits for the partner's clock. -/
def sums : List (SerialCall Adder) :=
  [.data 0x10, .control 0x81, .collect, .control 0x81, .control 0x80, .plug ⟨5⟩, .data 1,
    .control 0xFF]

/-- The host at the other end has one byte to send, and gets two. -/
theorem serial_dialogue_sums :
    let bus : Bus Adder := { Bus.initial 0 with serial := ⟨0, 0, #[], ⟨0⟩, false⟩ }
    let s := Listening.run bus sums
    bus.serial.completed = false ∧ s.collected ++ s.bus.serial.log.toList = [0x10, 0x10, 1] ∧
      s.bus.serial.link.sum = 6 ∧ s.bus.serial.data = 6 ∧
      (s.apply (.control 0x81)).bus.requested = s.bus.requested ||| 0x08 ∧
      (s.apply (.control 0x81)).bus.serial.control.bit 7 = false ∧
      (∀ link, .plug link ∉ ([.data 0x50, .control 0x81, .control 0x81] : List (SerialCall Link))) ∧
      let plugged :=
        { Bus.initial 0 with serial := (Bus.initial 0).serial.plug (.cable (.ofBytes #[0x99])) }
      (Listening.run plugged
        [.data 0x50, .control 0x81, .control 0x81]).bus.serial.link.sent.toList = [0x50, 0x99] := by
  intro bus s
  have idle : bus.serial.completed = false := rfl
  have stays : ∀ link,
      .plug link ∉ ([.data 0x50, .control 0x81, .control 0x81] : List (SerialCall Link)) := by
    intro link
    simp
  obtain ⟨⟨link, data⟩, bytes, -, ⟨-, requested⟩, control⟩ :=
    serial_dialogue.1 Adder bus idle sums
  obtain ⟨-, sent⟩ := serial_dialogue.2 (Bus.initial 0) #[0x99] _ stays
  refine ⟨idle, bytes, ?_, data, requested _, control 0x81 rfl, stays, sent⟩
  exact congrArg Adder.sum link

end DotMatrix
