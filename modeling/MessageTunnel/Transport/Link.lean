import MessageTunnel.Transport.Error
/-!
One end of a connection, held in memory. What this end does is kept as a list of calls; what the
peer sends waits in two queues. The first event that closes the end fixes the error with which every
later call fails. A link also carries the failures that are arranged for its coming calls.
-/
set_option autoImplicit false

namespace MessageTunnel

abbrev Payload := List UInt8

inductive Call where
  | sendDatagram (payload : Payload)
  | openStream (stream : Nat)
  | write (stream : Nat) (payload : Payload)
  | finish (stream : Nat)
  | close (notice : CloseNotice)
  deriving DecidableEq, Repr

inductive Operation where
  | openStream
  | write
  | finish
  | sendDatagram
  deriving DecidableEq, Repr

/-- A stream from the peer: the parts that can be read, one of which may be an error. When they are
used up the stream has ended, or else it stalls: a read then waits until the connection closes. -/
structure InboundStream where
  parts : List (Except TransportError Payload)
  stalls : Bool

structure Link where
  calls : List Call
  nextStream : Nat
  limit : Option Nat
  datagrams : List (Except TransportError Payload)
  streams : List InboundStream
  closed : Option TransportError
  /-- failures to come, each for the next call of its kind, the oldest first -/
  failures : List (Operation × TransportError)
  acceptFailure : Option TransportError
  /-- With an error here a write waits until the connection closes and then fails with it. -/
  heldWrites : Option TransportError

namespace Link

def new (limit : Option Nat) : Link := ⟨[], 0, limit, [], [], none, [], none, none⟩

/-- Closes this end. Only the first error counts. -/
def shut (l : Link) (e : TransportError) : Link := { l with closed := l.closed.or (some e) }

def pushDatagram (l : Link) (d : Except TransportError Payload) : Link :=
  { l with datagrams := l.datagrams ++ [d] }

def pushStream (l : Link) (s : InboundStream) : Link := { l with streams := l.streams ++ [s] }

def arrange (l : Link) (op : Operation) (e : TransportError) : Link :=
  { l with failures := l.failures ++ [(op, e)] }

inductive Event where
  | datagram (d : Except TransportError Payload)
  | stream (s : InboundStream)
  | peerClosed (notice : CloseNotice)
  | broken (e : TransportError)
  | limitChanged (limit : Option Nat)
  | failureArranged (op : Operation) (e : TransportError)
  | acceptFailed (e : TransportError)
  | writesHeld (e : Option TransportError)

def apply (l : Link) : Event → Link
  | .datagram d => l.pushDatagram d
  | .stream s => l.pushStream s
  | .peerClosed notice => l.shut (.ofNotice notice)
  | .broken e => l.shut e
  | .limitChanged limit => { l with limit := limit }
  | .failureArranged op e => l.arrange op e
  | .acceptFailed e => { l with acceptFailure := some e }
  | .writesHeld e => { l with heldWrites := e }

def record (l : Link) (call : Call) : Link := { l with calls := l.calls ++ [call] }

def takeFailure (l : Link) (op : Operation) : Option (TransportError × Link) :=
  match l.failures.find? (·.1 = op) with
  | some (_, e) => some (e, { l with failures := l.failures.eraseP (·.1 = op) })
  | none => none

def sendDatagram (l : Link) (payload : Payload) : Except TransportError Unit × Link :=
  match l.takeFailure .sendDatagram, l.closed with
  | some (e, l), _ => (.error e, l)
  | none, some e => (.error e, l)
  | none, none => (.ok (), l.record (.sendDatagram payload))

def openStream (l : Link) : Except TransportError Nat × Link :=
  match l.takeFailure .openStream, l.closed with
  | some (e, l), _ => (.error e, l)
  | none, some e => (.error e, l)
  | none, none =>
    (.ok l.nextStream, { l.record (.openStream l.nextStream) with nextStream := l.nextStream + 1 })

inductive Write where
  | ended (result : Except TransportError Unit)
  | held (e : TransportError)

def write (l : Link) (stream : Nat) (payload : Payload) : Write × Link :=
  match l.takeFailure .write, l.heldWrites, l.closed with
  | some (e, l), _, _ => (.ended (.error e), l)
  | none, some e, _ => (.held e, l)
  | none, none, some e => (.ended (.error e), l)
  | none, none, none => (.ended (.ok ()), l.record (.write stream payload))

/-- Ends a stream. This does not look whether the connection is closed. -/
def finish (l : Link) (stream : Nat) : Except TransportError Unit × Link :=
  match l.takeFailure .finish with
  | some (e, l) => (.error e, l)
  | none => (.ok (), l.record (.finish stream))

def close (l : Link) (notice : CloseNotice) : Link := (l.record (.close notice)).shut .locallyClosed

def readDatagram (l : Link) : Option (Except TransportError Payload × Link) :=
  match l.closed, l.datagrams with
  | some e, _ => some (.error e, l)
  | none, d :: rest => some (d, { l with datagrams := rest })
  | none, [] => none

def acceptStream (l : Link) : Option (Except TransportError InboundStream × Link) :=
  match l.acceptFailure, l.closed, l.streams with
  | some e, _, _ => some (.error e, l)
  | none, some e, _ => some (.error e, l)
  | none, none, s :: rest => some (.ok s, { l with streams := rest })
  | none, none, [] => none

def readSize : Nat := 2048

inductive Read where
  | bytes (piece : Payload) (rest : InboundStream)
  | ended
  | failed (e : TransportError)

/-- Reads from a stream; nothing as long as the stream stalls. A part longer than a read is cut, and
its remainder stays in front of the others. -/
def read (l : Link) (s : InboundStream) : Option Read :=
  match s.parts with
  | .ok part :: rest =>
    let left := part.drop readSize
    some (.bytes (part.take readSize)
      { s with parts := if left.isEmpty then rest else .ok left :: rest })
  | .error e :: _ => some (.failed e)
  | [] => if s.stalls then l.closed.map .failed else some .ended

end Link

end MessageTunnel
