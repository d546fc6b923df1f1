import MessageTunnel.Proofs.Session.Run
import MessageTunnel.Session.Schedule
set_option autoImplicit false

namespace MessageTunnel

section
variable {α : Type}

def untilError : List (Except TransportError α) → List α
  | .ok a :: rest => a :: untilError rest
  | _ => []

def firstError? : List (Except TransportError α) → Option TransportError
  | [] => none
  | .ok _ :: rest => firstError? rest
  | .error e :: _ => some e

theorem untilError_map_ok (items : List α) (rest : List (Except TransportError α)) :
    untilError (items.map .ok ++ rest) = items ++ untilError rest := by
  induction items with
  | nil => rfl
  | cons item items ih => simp [untilError, ih]

end

namespace InboundStream

def content (s : InboundStream) : Payload := (untilError s.parts).flatten

def failure? (s : InboundStream) : Option TransportError := firstError? s.parts

def IsComplete (s : InboundStream) : Prop := s.failure? = none ∧ s.stalls = false

/-- The error with which a stream ends is its own or, if it stalls, the one of the connection. -/
def FailsWith (s : InboundStream) (e : TransportError) : Prop :=
  s.failure? = some e ∨ s.failure? = none ∧ s.stalls = true

end InboundStream

namespace Session

variable {stream : InboundStream} {d d' : Drain} {messages : List Payload}
  {discards : List (Nat × TransportError)} {l : Link} {effects : List Effect}

theorem content_partsLeft (part : Payload) (rest : List (Except TransportError Payload)) :
    part.take Link.readSize ++ (untilError (partsLeft part rest)).flatten =
      part ++ (untilError rest).flatten := by
  unfold partsLeft
  split
  · rename_i short
    have hd : part.drop Link.readSize = [] := by simpa using short
    have hp : part.take Link.readSize = part := by
      rw [← List.append_nil (part.take _), ← hd, List.take_append_drop]
    rw [hp]
  · rw [untilError, List.flatten_cons, ← List.append_assoc, List.take_append_drop]

theorem firstError?_partsLeft (part : Payload) (rest : List (Except TransportError Payload)) :
    firstError? (partsLeft part rest) = firstError? rest := by
  unfold partsLeft
  split <;> rfl

def Effect.message? : Effect → Option Payload
  | .message payload => some payload
  | _ => none

def Effect.discard? : Effect → Option (Nat × TransportError)
  | .logged (.streamDiscarded length e) => some (length, e)
  | _ => none

theorem message?_of_isDiagnostic {e : Effect} (h : e.isDiagnostic = true) : e.message? = none := by
  cases e with
  | message => simp [Effect.isDiagnostic] at h
  | _ => rfl

theorem discard?_of_isDiagnostic {e : Effect} (h : e.isDiagnostic = true) : e.discard? = none := by
  cases e with
  | logged entry =>
    cases entry with
    | streamDiscarded => simp [Effect.isDiagnostic] at h
    | _ => rfl
  | _ => rfl

inductive Holds (stream : InboundStream) :
    Drain → List Payload → List (Nat × TransportError) → Prop where
  | reading {rest : InboundStream} {message : Payload}
      (content : stream.content = message ++ rest.content)
      (failure : stream.failure? = rest.failure?) (stalls : stream.stalls = rest.stalls) :
      Holds stream (.reading rest message) [] []
  | recordDelivered (complete : stream.IsComplete) :
      Holds stream (.record (.delivered stream.content)) [] []
  | recordDiscarded {e : TransportError} (fails : stream.FailsWith e) :
      Holds stream (.record (.discarded stream.content.length e)) [] [(stream.content.length, e)]
  | deliver (complete : stream.IsComplete) : Holds stream (.deliver stream.content) [] []
  | delivered (complete : stream.IsComplete) :
      Holds stream (.ended (.delivered stream.content)) [stream.content] []
  | discarded {e : TransportError} (fails : stream.FailsWith e) :
      Holds stream (.ended (.discarded stream.content.length e)) [] [(stream.content.length, e)]

theorem holds_start (stream : InboundStream) : Holds stream (.reading stream []) [] [] :=
  .reading rfl rfl rfl

theorem Holds.move (h : Holds stream d messages discards) (move : DrainMove l d d' effects) :
    Holds stream d' (messages ++ effects.filterMap Effect.message?)
      (discards ++ effects.filterMap Effect.discard?) := by
  cases h with
  | @reading rest message content failure stalls =>
    obtain ⟨parts, stalling⟩ := rest
    -- Where nothing is left to read, what was read is the whole content.
    have whole (done : untilError parts = []) : message = stream.content := by
      rw [content, InboundStream.content, done]
      simp
    cases move with
    | @piece _ part _ rest hp =>
      obtain rfl : parts = .ok part :: rest := hp
      refine .reading ?_ ?_ stalls
      · rw [content]
        simp [InboundStream.content, untilError, content_partsLeft]
      · rw [failure]
        exact (firstError?_partsLeft part rest).symm
    | complete hp ends =>
      obtain rfl : parts = [] := hp
      obtain rfl := whole rfl
      exact .recordDelivered ⟨failure, stalls.trans ends⟩
    | @broken _ _ e rest hp =>
      obtain rfl : parts = .error e :: rest := hp
      obtain rfl := whole rfl
      exact .recordDiscarded (.inl failure)
    | @cut _ _ e hp stalled =>
      obtain rfl : parts = [] := hp
      obtain rfl := whole rfl
      exact .recordDiscarded (.inr ⟨failure, stalls.trans stalled⟩)
  | recordDelivered complete =>
    cases move
    exact .deliver complete
  | recordDiscarded fails =>
    cases move
    exact .discarded fails
  | deliver complete =>
    cases move
    exact .delivered complete
  | delivered | discarded => cases move

/-- No drain takes more turns than this. -/
def Drain.work : Drain → Nat
  | .reading rest _ => Schedule.streamWork rest
  | .record _ => 2
  | .deliver _ => 1
  | .ended _ => 0

theorem DrainMove.work_lt (move : DrainMove l d d' effects) : d'.work < d.work := by
  cases move with
  | @piece stream part message rest hp =>
    simp only [Drain.work, Schedule.streamWork, partsLeft, hp]
    split
    · simp [Schedule.total]
      omega
    · rename_i long
      have hl : Link.readSize < part.length := by simpa using long
      simp [Schedule.total, Link.readSize] at hl ⊢
      omega
  | complete | broken | cut => simp [Drain.work, Schedule.streamWork]
  | _ => simp [Drain.work]

theorem exists_ended_of_work {d : Drain} (h : d.work = 0) : ∃ outcome, d = .ended outcome := by
  cases d with
  | ended outcome => exact ⟨outcome, rfl⟩
  | _ => simp [Drain.work, Schedule.streamWork] at h

def Drain.stalls : Drain → Bool
  | .reading rest _ => rest.stalls
  | _ => false

theorem DrainMove.stalls (move : DrainMove l d d' effects) (flows : d.stalls = false) :
    d'.stalls = false := by
  cases move with
  | piece => exact flows
  | _ => rfl

theorem Holds.stalls {d : Drain} (h : Holds stream d messages discards)
    (flows : stream.stalls = false) : d.stalls = false := by
  cases h with
  | reading content failure stalls => rw [Drain.stalls, ← stalls, flows]
  | _ => rfl

end Session

end MessageTunnel
