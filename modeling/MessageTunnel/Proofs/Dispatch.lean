import MessageTunnel.Dispatch
set_option autoImplicit false

namespace MessageTunnel.Dispatch

inductive Called (payload : Payload) (l : Link) : Stage → Stage → Link → Prop where
  | fails {stage : Stage} {e : SessionError} {failures : List (Operation × TransportError)}
      (goesOn : ∀ result, stage ≠ .ended result) :
      Called payload l stage (.ended (.error e)) { l with failures := failures }
  | sendDatagram :
      Called payload l .datagram (.ended (.ok .datagram)) (l.record (.sendDatagram payload))
  | openStream :
      Called payload l .openStream (.write l.nextStream)
        { l.record (.openStream l.nextStream) with nextStream := l.nextStream + 1 }
  | write {stream : Nat} :
      Called payload l (.write stream) (.finish stream) (l.record (.write stream payload))
  | hold {stream : Nat} {e : TransportError} : Called payload l (.write stream) (.held e) l
  | wait {e : TransportError} : Called payload l (.held e) (.held e) l
  | finish {stream : Nat} :
      Called payload l (.finish stream) (.ended (.ok .stream)) (l.record (.finish stream))
  | ended {result : Except SessionError Channel} :
      Called payload l (.ended result) (.ended result) l

theorem Called.failsHere {payload : Payload} {l : Link} {stage : Stage} {e : SessionError}
    (goesOn : ∀ result, stage ≠ .ended result) : Called payload l stage (.ended (.error e)) l :=
  @Called.fails payload l stage e l.failures goesOn

theorem takeFailure_eq {l l' : Link} {op : Operation} {e : TransportError}
    (h : l.takeFailure op = some (e, l')) : ∃ failures, l' = { l with failures := failures } := by
  unfold Link.takeFailure at h
  split at h
  · obtain ⟨-, rfl⟩ := by simpa using h
    exact ⟨_, rfl⟩
  · simp at h

theorem called_of_failure {payload : Payload} {l l' : Link} {stage : Stage} {op : Operation}
    {e : TransportError} (taken : l.takeFailure op = some (e, l'))
    (goesOn : ∀ result, stage ≠ .ended result) :
    Called payload l stage (.failed e) l' := by
  obtain ⟨failures, rfl⟩ := takeFailure_eq taken
  exact .fails goesOn

theorem called_datagram (payload : Payload) (l : Link) :
    Called payload l .datagram (sendDatagram l payload).1 (sendDatagram l payload).2 := by
  unfold sendDatagram
  cases l.limit with
  | none => exact .failsHere (by simp)
  | some limit =>
    by_cases long : limit < payload.length
    · simp only [long, if_true]
      exact .failsHere (by simp)
    · simp only [long, if_false, Link.sendDatagram]
      cases taken : l.takeFailure .sendDatagram with
      | some failure => exact called_of_failure taken (by simp)
      | none =>
        cases l.closed with
        | some e => exact .failsHere (by simp)
        | none => exact .sendDatagram

theorem called (payload : Payload) (stage : Stage) (l : Link) :
    Called payload l stage (step payload stage l).1 (step payload stage l).2 := by
  cases stage with
  | datagram => exact called_datagram payload l
  | openStream =>
    simp only [step, Link.openStream]
    cases taken : l.takeFailure .openStream with
    | some failure => exact called_of_failure taken (by simp)
    | none =>
      cases l.closed with
      | some e => exact .failsHere (by simp)
      | none => exact .openStream
  | write stream =>
    simp only [step, Link.write]
    cases taken : l.takeFailure .write with
    | some failure => exact called_of_failure taken (by simp)
    | none =>
      cases l.heldWrites with
      | some e => exact .hold
      | none =>
        cases l.closed with
        | some e => exact .failsHere (by simp)
        | none => exact .write
  | held e =>
    simp only [step]
    by_cases closed : l.closed.isSome = true
    · simp only [closed, if_true]
      exact .failsHere (by simp)
    · simp only [closed]
      exact .wait
  | finish stream =>
    simp only [step, Link.finish]
    cases taken : l.takeFailure .finish with
    | some failure => exact called_of_failure taken (by simp)
    | none => exact .finish
  | ended result => exact .ended

theorem Called.inbound {payload : Payload} {l l' : Link} {stage stage' : Stage}
    (h : Called payload l stage stage' l') :
    l'.datagrams = l.datagrams ∧ l'.streams = l.streams := by
  cases h <;> exact ⟨rfl, rfl⟩

def errorOf? {α : Type} : Except TransportError α → Option TransportError
  | .ok _ => none
  | .error e => some e

/-- The error with which the transport answers the next call for a message. A datagram that the
limit does not admit is no call. -/
def refusal? (payload : Payload) : Stage → Link → Option TransportError
  | .datagram, l =>
    if l.limit.any (payload.length ≤ ·) then errorOf? (l.sendDatagram payload).1 else none
  | .openStream, l => errorOf? l.openStream.1
  | .write stream, l =>
    match (l.write stream payload).1 with
    | .ended result => errorOf? result
    | .held _ => none
  | .held e, l => if l.closed.isSome then some e else none
  | .finish stream, l => errorOf? (l.finish stream).1
  | .ended _, _ => none

theorem refusal_or_limit (payload : Payload) {stage : Stage} (l : Link)
    (goesOn : ∀ result, stage ≠ .ended result) :
    (∃ cause, refusal? payload stage l = some cause ∧ (step payload stage l).1 = .failed cause) ∨
      (refusal? payload stage l = none ∧
        ∀ e, (step payload stage l).1 = .ended (.error e) →
          e = .datagramsUnavailable ∨ ∃ limit, e = .datagramTooLarge payload.length limit) := by
  cases stage with
  | datagram =>
    simp only [refusal?, step, sendDatagram]
    cases l.limit with
    | none => exact .inr ⟨rfl, by simp⟩
    | some limit =>
      by_cases long : limit < payload.length
      · exact .inr ⟨by simp [Nat.not_le.2 long],
          fun e he => .inr ⟨limit, by simpa [long] using he.symm⟩⟩
      · simp only [Option.any_some, Nat.not_lt.1 long, decide_true, if_true, long, if_false]
        cases sent : l.sendDatagram payload with
        | mk result l' => cases result <;> simp [errorOf?]
  | openStream =>
    simp only [refusal?, step]
    cases opened : l.openStream with
    | mk result l' => cases result <;> simp [errorOf?]
  | write stream =>
    simp only [refusal?, step]
    cases written : l.write stream payload with
    | mk result l' =>
      cases result with
      | ended result => cases result <;> simp [errorOf?]
      | held e => simp
  | held e =>
    simp only [refusal?, step]
    by_cases closed : l.closed.isSome = true <;> simp [closed]
  | finish stream =>
    simp only [refusal?, step]
    cases finished : l.finish stream with
    | mk result l' => cases result <;> simp [errorOf?]
  | ended result => exact absurd rfl (goesOn result)

end MessageTunnel.Dispatch
