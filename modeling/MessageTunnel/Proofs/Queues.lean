import MessageTunnel.Proofs.Dispatch
set_option autoImplicit false

namespace MessageTunnel

namespace Link

variable (l : Link) (datagrams : List (Except TransportError Payload))
  (streams : List InboundStream)

def withQueues : Link := { l with datagrams := datagrams, streams := streams }

theorem takeFailure_withQueues (op : Operation) :
    (l.withQueues datagrams streams).takeFailure op =
      (l.takeFailure op).map fun taken => (taken.1, taken.2.withQueues datagrams streams) := by
  unfold takeFailure
  cases h : l.failures.find? (·.1 = op) <;> simp [withQueues, h]

theorem sendDatagram_withQueues (payload : Payload) :
    (l.withQueues datagrams streams).sendDatagram payload =
      ((l.sendDatagram payload).1, (l.sendDatagram payload).2.withQueues datagrams streams) := by
  have closed : (l.withQueues datagrams streams).closed = l.closed := rfl
  unfold sendDatagram
  rw [takeFailure_withQueues, closed]
  cases l.takeFailure .sendDatagram with
  | some failure => rfl
  | none => cases l.closed <;> rfl

theorem openStream_withQueues : (l.withQueues datagrams streams).openStream =
    (l.openStream.1, l.openStream.2.withQueues datagrams streams) := by
  have closed : (l.withQueues datagrams streams).closed = l.closed := rfl
  unfold openStream
  rw [takeFailure_withQueues, closed]
  cases l.takeFailure .openStream with
  | some failure => rfl
  | none => cases l.closed <;> rfl

theorem write_withQueues (stream : Nat) (payload : Payload) :
    (l.withQueues datagrams streams).write stream payload =
      ((l.write stream payload).1, (l.write stream payload).2.withQueues datagrams streams) := by
  have held : (l.withQueues datagrams streams).heldWrites = l.heldWrites := rfl
  have closed : (l.withQueues datagrams streams).closed = l.closed := rfl
  unfold write
  rw [takeFailure_withQueues, held, closed]
  cases l.takeFailure .write with
  | some failure => rfl
  | none => cases l.heldWrites <;> cases l.closed <;> rfl

theorem finish_withQueues (stream : Nat) : (l.withQueues datagrams streams).finish stream =
    ((l.finish stream).1, (l.finish stream).2.withQueues datagrams streams) := by
  unfold finish
  rw [takeFailure_withQueues]
  cases l.takeFailure .finish <;> rfl

end Link

theorem Dispatch.step_withQueues (payload : Payload) (stage : Dispatch.Stage) (l : Link)
    (datagrams : List (Except TransportError Payload)) (streams : List InboundStream) :
    Dispatch.step payload stage (l.withQueues datagrams streams) =
      ((Dispatch.step payload stage l).1,
        (Dispatch.step payload stage l).2.withQueues datagrams streams) := by
  cases stage with
  | datagram =>
    have limit : (l.withQueues datagrams streams).limit = l.limit := rfl
    simp only [Dispatch.step, Dispatch.sendDatagram, limit, Link.sendDatagram_withQueues]
    cases l.limit with
    | none => rfl
    | some limit =>
      dsimp only
      split
      · rfl
      · cases l.sendDatagram payload with
        | mk result l' => cases result <;> rfl
  | openStream =>
    simp only [Dispatch.step, Link.openStream_withQueues]
    cases l.openStream with
    | mk result l' => cases result <;> rfl
  | write stream =>
    simp only [Dispatch.step, Link.write_withQueues]
    cases l.write stream payload with
    | mk result l' =>
      cases result with
      | ended result => cases result <;> rfl
      | held e => rfl
  | held e =>
    have closed : (l.withQueues datagrams streams).closed = l.closed := rfl
    simp only [Dispatch.step, closed]
    split <;> rfl
  | finish stream =>
    simp only [Dispatch.step, Link.finish_withQueues]
    cases l.finish stream with
    | mk result l' => cases result <;> rfl
  | ended result => rfl

end MessageTunnel
