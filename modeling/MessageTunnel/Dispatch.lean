import MessageTunnel.Session.Error
import MessageTunnel.Transport.Link
/-!
How a message leaves: short ones as one datagram, where datagrams are enabled, all others on a
stream of their own that is opened, written and finished. A message that was routed to a datagram is
never sent on a stream instead, and nothing is tried twice.
-/
set_option autoImplicit false

namespace MessageTunnel

inductive Channel where
  | datagram
  | stream
  deriving DecidableEq, Repr

def Channel.name : Channel → String
  | datagram => "datagram"
  | stream => "stream"

namespace Dispatch

/-- The longest message that may leave as a datagram: a packet of any usual path holds it. -/
def threshold : Nat := 1200

def route (datagrams : Bool) (length : Nat) : Channel :=
  if datagrams ∧ length ≤ threshold then .datagram else .stream

inductive Stage where
  | datagram
  | openStream
  | write (stream : Nat)
  /-- The write waits for the end of the connection and will fail with this error. -/
  | held (e : TransportError)
  | finish (stream : Nat)
  | ended (result : Except SessionError Channel)

def Stage.first : Channel → Stage
  | .datagram => .datagram
  | .stream => .openStream

def Stage.failed (e : TransportError) : Stage := .ended (.error (.ofTransport e))

def sendDatagram (l : Link) (payload : Payload) : Stage × Link :=
  match l.limit with
  | none => (.ended (.error .datagramsUnavailable), l)
  | some limit =>
    if limit < payload.length then (.ended (.error (.datagramTooLarge payload.length limit)), l)
    else match l.sendDatagram payload with
      | (.ok (), l) => (.ended (.ok .datagram), l)
      | (.error e, l) => (.failed e, l)

/-- Makes the next call for a message. A held write stays where it is until the link closes. -/
def step (payload : Payload) : Stage → Link → Stage × Link
  | .datagram, l => sendDatagram l payload
  | .openStream, l =>
    match l.openStream with
    | (.ok stream, l) => (.write stream, l)
    | (.error e, l) => (.failed e, l)
  | .write stream, l =>
    match l.write stream payload with
    | (.ended (.ok ()), l) => (.finish stream, l)
    | (.ended (.error e), l) => (.failed e, l)
    | (.held e, l) => (.held e, l)
  | .held e, l => if l.closed.isSome then (.failed e, l) else (.held e, l)
  | .finish stream, l =>
    match l.finish stream with
    | (.ok (), l) => (.ended (.ok .stream), l)
    | (.error e, l) => (.failed e, l)
  | .ended result, l => (.ended result, l)

/-- Makes calls for a message until its way is over or held: a stream takes three, and the fourth
ends a write that is held on a closed link. -/
def run (payload : Payload) (start : Stage) (l : Link) : Stage × Link :=
  (List.range 4).foldl (fun (stage, l) _ => step payload stage l) (start, l)

def send (datagrams : Bool) (l : Link) (payload : Payload) : Stage × Link :=
  run payload (.first (route datagrams payload.length)) l

def sendStream (l : Link) (payload : Payload) : Stage × Link := run payload (.first .stream) l

end Dispatch

end MessageTunnel
