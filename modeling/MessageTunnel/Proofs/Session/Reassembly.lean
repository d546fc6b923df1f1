import MessageTunnel.Proofs.Session.Streams
/-!
The loop that a drain is. It reads a stream through one buffer, piece by piece, and appends to its
message what each read has put to the front of the buffer. The loop ends whatever the parts of the
stream are, with the bytes of all of them or with the first error among them; and the steps of a
drain in a session are the turns of this loop.
-/
set_option autoImplicit false

namespace MessageTunnel

structure ReadBuffer where
  bytes : Payload
  size : bytes.length = Link.readSize

namespace ReadBuffer

def fitting (part : Payload) : Nat := min part.length Link.readSize

/-- Copies what fits of a part over the front of the buffer. What is behind it stays. -/
def fill (b : ReadBuffer) (part : Payload) : ReadBuffer where
  bytes := part.take (fitting part) ++ b.bytes.drop (fitting part)
  size := by
    simp only [fitting, List.length_append, List.length_take, List.length_drop, b.size]
    omega

theorem fitting_le (part : Payload) : fitting part ≤ Link.readSize := Nat.min_le_right ..

theorem take_fitting (part : Payload) : part.take (fitting part) = part.take Link.readSize := by
  rw [fitting, Nat.min_comm, ← List.take_take, List.take_length]

theorem drop_fitting (part : Payload) : part.drop (fitting part) = part.drop Link.readSize := by
  by_cases short : part.length ≤ Link.readSize
  · rw [fitting, Nat.min_eq_left short, List.drop_length, List.drop_of_length_le short]
  · rw [fitting, Nat.min_eq_right (Nat.le_of_not_le short)]

theorem take_fill (b : ReadBuffer) (part : Payload) :
    (b.fill part).bytes.take (fitting part) = part.take Link.readSize := by
  rw [← take_fitting]
  exact List.take_left' (by simp [fitting])

end ReadBuffer

inductive Fill where
  | copied (count : Nat) (buffer : ReadBuffer) (rest : InboundStream)
  | ended
  | failed (e : TransportError)

def InboundStream.readInto (s : InboundStream) (b : ReadBuffer) : Fill :=
  match s.parts with
  | [] => .ended
  | .error e :: _ => .failed e
  | .ok part :: rest =>
    let count := ReadBuffer.fitting part
    let left := part.drop count
    .copied count (b.fill part) { s with parts := if left.isEmpty then rest else .ok left :: rest }

namespace Session

structure DrainLoop where
  buffer : ReadBuffer
  rest : InboundStream
  message : Payload

def DrainLoop.turn (r : DrainLoop) : DrainLoop ⊕ Drained :=
  match r.rest.readInto r.buffer with
  | .copied count buffer rest => .inl ⟨buffer, rest, r.message ++ buffer.bytes.take count⟩
  | .ended => .inr (.delivered r.message)
  | .failed e => .inr (.discarded r.message.length e)

/-- The loop is over with the so many-th of its turns. -/
inductive DrainLoop.Returns : DrainLoop → Nat → Drained → Prop where
  | now {r : DrainLoop} {outcome : Drained} (turn : r.turn = .inr outcome) : Returns r 1 outcome
  | later {r r' : DrainLoop} {turns : Nat} {outcome : Drained} (turn : r.turn = .inl r')
      (rest : Returns r' turns outcome) : Returns r (turns + 1) outcome

variable {parts rest : List (Except TransportError Payload)} {part : Payload} {r r' : DrainLoop}

theorem readInto_part (s : InboundStream) (b : ReadBuffer) (here : s.parts = .ok part :: rest) :
    s.readInto b = .copied (ReadBuffer.fitting part) (b.fill part)
      { s with parts := partsLeft part rest } := by
  simp only [InboundStream.readInto, here, ReadBuffer.drop_fitting, partsLeft]

theorem DrainLoop.turn_part (here : r.rest.parts = .ok part :: rest) :
    r.turn = .inl ⟨r.buffer.fill part, { r.rest with parts := partsLeft part rest },
      r.message ++ part.take Link.readSize⟩ := by
  rw [turn, readInto_part r.rest r.buffer here]
  dsimp only
  rw [ReadBuffer.take_fill]

theorem DrainLoop.turn_ended (here : r.rest.parts = []) : r.turn = .inr (.delivered r.message) := by
  simp [turn, InboundStream.readInto, here]

theorem DrainLoop.turn_failed {e : TransportError} (here : r.rest.parts = .error e :: rest) :
    r.turn = .inr (.discarded r.message.length e) := by
  simp [turn, InboundStream.readInto, here]

/-- A read copies no more than the buffer holds, and appends what it has copied: the next bytes of
the stream. -/
theorem DrainLoop.turn_copied {count : Nat} {buffer : ReadBuffer} {left : InboundStream}
    (read : r.rest.readInto r.buffer = .copied count buffer left) :
    count ≤ Link.readSize ∧ r.turn = .inl ⟨buffer, left, r.message ++ buffer.bytes.take count⟩ ∧
      r.rest.content = buffer.bytes.take count ++ left.content := by
  have goesOn : r.turn = .inl ⟨buffer, left, r.message ++ buffer.bytes.take count⟩ := by
    rw [turn, read]
  cases here : r.rest.parts with
  | nil => simp [InboundStream.readInto, here] at read
  | cons first rest =>
    cases first with
    | error e => simp [InboundStream.readInto, here] at read
    | ok part =>
      rw [readInto_part _ _ here] at read
      obtain ⟨rfl, rfl, rfl⟩ := Fill.copied.inj read
      refine ⟨ReadBuffer.fitting_le part, goesOn, ?_⟩
      rw [ReadBuffer.take_fill]
      simp only [InboundStream.content, here, untilError, List.flatten_cons]
      exact (content_partsLeft part rest).symm

/-- How often the loop reads: an empty part takes one read, any other as many as it fills buffers; a
last read meets the end of the stream or its error. -/
def reads : List (Except TransportError Payload) → Nat
  | .ok part :: rest => max 1 ((part.length + (Link.readSize - 1)) / Link.readSize) + reads rest
  | _ => 1

theorem reads_part (part : Payload) (rest : List (Except TransportError Payload)) :
    reads (.ok part :: rest) = reads (partsLeft part rest) + 1 := by
  unfold partsLeft
  split
  · rename_i short
    have fits : part.length ≤ Link.readSize := by simpa using short
    simp only [reads, Link.readSize] at fits ⊢
    omega
  · rename_i long
    have exceeds : Link.readSize < part.length := by simpa using long
    simp only [reads, List.length_drop, Link.readSize] at exceeds ⊢
    omega

theorem reads_pos (parts : List (Except TransportError Payload)) : 0 < reads parts := by
  unfold reads
  split <;> omega

def outcome (parts : List (Except TransportError Payload)) (message : Payload) : Drained :=
  let whole := message ++ (untilError parts).flatten
  match firstError? parts with
  | none => .delivered whole
  | some e => .discarded whole.length e

theorem outcome_partsLeft (part message : Payload) (rest : List (Except TransportError Payload)) :
    outcome (partsLeft part rest) (message ++ part.take Link.readSize) =
      outcome (.ok part :: rest) message := by
  simp only [outcome, firstError?_partsLeft, firstError?, List.append_assoc, content_partsLeft,
    untilError, List.flatten_cons]

theorem DrainLoop.returns (r : DrainLoop) :
    r.Returns (reads r.rest.parts) (outcome r.rest.parts r.message) := by
  generalize count : reads r.rest.parts = n
  induction n generalizing r with
  | zero => exact absurd count (Nat.pos_iff_ne_zero.1 (reads_pos _))
  | succ n ih =>
    cases here : r.rest.parts with
    | nil =>
      obtain rfl : n = 0 := by simpa [here, reads] using count
      exact .now (by simpa [outcome, untilError, firstError?] using turn_ended here)
    | cons first rest =>
      cases first with
      | error e =>
        obtain rfl : n = 0 := by simpa [here, reads] using count
        exact .now (by simpa [outcome, untilError, firstError?] using turn_failed here)
      | ok part =>
        rw [here, reads_part] at count
        rw [← outcome_partsLeft]
        exact .later (turn_part here) (ih _ (Nat.succ.inj count))

def readingEntry : Drained → Log.Entry
  | .delivered message => .streamReceived message.length
  | .discarded length e => .streamDiscarded length e

/-- The step of a drain that reads a stream is a turn of the loop. -/
theorem drainStep?_reading (s : Session) (r : DrainLoop) (flows : r.rest.stalls = false) :
    s.drainStep? (.reading r.rest r.message) =
      match r.turn with
      | .inl r' => some (s, .reading r'.rest r'.message)
      | .inr outcome => some (s.log (readingEntry outcome), .record outcome) := by
  cases here : r.rest.parts with
  | nil => simp [DrainLoop.turn_ended here, drainStep?, Link.read, here, flows, readingEntry]
  | cons first rest =>
    cases first with
    | error e => simp [DrainLoop.turn_failed here, drainStep?, Link.read, here, readingEntry]
    | ok part => simp [DrainLoop.turn_part here, drainStep?, Link.read, here, partsLeft]

theorem act_drain {s s' : Session} {number : Nat} {d d' : Drain}
    (drain : s.drains[number]? = some d) (step : s.drainStep? d = some (s', d')) :
    s.act (.step (.drain number)) = { s' with drains := s'.drains.set number d' } := by
  simp [act, step?, drain, step]

theorem DrainLoop.stalls_of_turn (turn : r.turn = .inl r') : r'.rest.stalls = r.rest.stalls := by
  cases here : r.rest.parts with
  | nil => simp [turn_ended here] at turn
  | cons first rest =>
    cases first with
    | error e => simp [turn_failed here] at turn
    | ok part =>
      obtain rfl := Sum.inl.inj ((turn_part here).symm.trans turn)
      rfl

theorem DrainLoop.Returns.run {n : Nat} {o : Drained} (h : r.Returns n o)
    (flows : r.rest.stalls = false) {s : Session} {number : Nat}
    (drain : s.drains[number]? = some (.reading r.rest r.message)) :
    (s.run (List.replicate n (.step (.drain number)))).drains[number]? = some (.record o) := by
  have inside : number < s.drains.length := (List.getElem?_eq_some_iff.1 drain).1
  induction h generalizing s with
  | @now r o turn =>
    have step := drainStep?_reading s r flows
    rw [turn] at step
    show (s.act (.step (.drain number))).drains[number]? = _
    rw [act_drain drain step]
    exact List.getElem?_set_self inside
  | @later r r' n o turn _ ih =>
    have step := drainStep?_reading s r flows
    rw [turn] at step
    rw [List.replicate_succ, run_cons, act_drain drain step]
    refine ih ((stalls_of_turn turn).trans flows) (List.getElem?_set_self inside) ?_
    rwa [List.length_set]

/-- A stream of these parts is drained with this outcome: the loop comes to it, whatever its buffer
holds in the beginning, and so does the drain of any session. -/
structure DrainsTo (parts : List (Except TransportError Payload)) (o : Drained) : Prop where
  returns (buffer : ReadBuffer) : DrainLoop.Returns ⟨buffer, ⟨parts, false⟩, []⟩ (reads parts) o
  session (s : Session) (number : Nat)
    (drain : s.drains[number]? = some (.reading ⟨parts, false⟩ [])) :
    (s.run (List.replicate (reads parts) (.step (.drain number)))).drains[number]? =
      some (.record o)

theorem drainsTo_outcome (parts : List (Except TransportError Payload)) :
    DrainsTo parts (outcome parts []) where
  returns buffer := DrainLoop.returns ⟨buffer, ⟨parts, false⟩, []⟩
  session s number drain := by
    let buffer : ReadBuffer := ⟨List.replicate Link.readSize 0, List.length_replicate⟩
    exact (DrainLoop.returns ⟨buffer, ⟨parts, false⟩, []⟩).run rfl drain

structure Reassembles (chunks : List Payload) : Prop where
  complete : DrainsTo (chunks.map .ok) (.delivered chunks.flatten)
  recut (cut : List Payload) (same : cut.flatten = chunks.flatten) :
    DrainsTo (cut.map .ok) (.delivered chunks.flatten)
  /-- What follows the first error does not count. -/
  broken (e : TransportError) (rest : List (Except TransportError Payload)) :
    DrainsTo (chunks.map .ok ++ .error e :: rest) (.discarded chunks.flatten.length e)
  /-- A read copies as much as the buffer holds at most, and nothing but what it copied is
  appended. -/
  copies (r : DrainLoop) (count : Nat) (buffer : ReadBuffer) (left : InboundStream)
    (read : r.rest.readInto r.buffer = .copied count buffer left) :
    count ≤ 2048 ∧ r.turn = .inl ⟨buffer, left, r.message ++ buffer.bytes.take count⟩ ∧
      r.rest.content = buffer.bytes.take count ++ left.content

theorem firstError?_map_ok (chunks : List Payload)
    (rest : List (Except TransportError Payload)) :
    firstError? (chunks.map .ok ++ rest) = firstError? rest := by
  induction chunks with
  | nil => rfl
  | cons chunk chunks ih => exact ih

theorem outcome_complete (chunks : List Payload) :
    outcome (chunks.map .ok) [] = .delivered chunks.flatten := by
  have bytes := untilError_map_ok chunks []
  have error := firstError?_map_ok chunks []
  rw [List.append_nil] at bytes error
  simp [outcome, bytes, error, untilError, firstError?]

theorem outcome_broken (chunks : List Payload) (e : TransportError)
    (rest : List (Except TransportError Payload)) :
    outcome (chunks.map .ok ++ .error e :: rest) [] = .discarded chunks.flatten.length e := by
  simp [outcome, untilError_map_ok, firstError?_map_ok, untilError, firstError?]

/-- A stream of any chunks comes out as the bytes of all of them, or as a count of the bytes before
its first error, after as many reads as it takes to copy them. -/
theorem reassembles (chunks : List Payload) : Reassembles chunks where
  complete := outcome_complete chunks ▸ drainsTo_outcome _
  recut cut same := by
    rw [← same, ← outcome_complete]
    exact drainsTo_outcome _
  broken e rest := outcome_broken chunks e rest ▸ drainsTo_outcome _
  copies _ _ _ _ read := DrainLoop.turn_copied read

end Session

end MessageTunnel
