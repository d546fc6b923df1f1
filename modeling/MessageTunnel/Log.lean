import MessageTunnel.ConnectionId
import MessageTunnel.Shutdown
import MessageTunnel.Storage.IoError
set_option autoImplicit false

namespace MessageTunnel.Log

inductive Level where
  | trace
  | debug
  | info
  | warn
  | error
  deriving DecidableEq, Repr

def Level.name : Level → String
  | trace => "TRACE"
  | debug => "DEBUG"
  | info => "INFO"
  | warn => "WARN"
  | error => "ERROR"

inductive InboundLoop where
  | datagrams
  | streams
  deriving DecidableEq, Repr

def InboundLoop.name : InboundLoop → String
  | datagrams => "datagrams"
  | streams => "streams"

inductive Entry where
  | datagramSent (length : Nat)
  | streamSent (length : Nat)
  | datagramReceived (length : Nat)
  | streamReceived (length : Nat)
  | streamDiscarded (length : Nat) (error : TransportError)
  | sessionStarted (id : ConnectionId) (datagrams : Bool)
  | sessionStopping (id : ConnectionId)
  | cooperativeClose (id : ConnectionId) (loop : InboundLoop)
  | loopExited (id : ConnectionId) (loop : InboundLoop)
  | transportFault (id : ConnectionId) (loop : InboundLoop) (error : TransportError)
  | loopFailedWhileClosing (id : ConnectionId) (loop : InboundLoop) (error : TransportError)
  | sessionClosed (id : ConnectionId) (reason : CloseReason)
  | traceCreated (path : String)
  | traceUnavailable (id : ConnectionId) (error : String)
  | traceWriteFailed (path : String) (error : IoError)
  | traceFlushFailed (path : String) (error : IoError)
  | nameUnrepresentable (error : String)
  deriving DecidableEq, Repr

namespace Entry

def level : Entry → Level
  | datagramSent _ | streamSent _ | datagramReceived _ | streamReceived _ => .trace
  | loopExited .. | loopFailedWhileClosing .. | traceCreated _ => .debug
  | sessionStarted .. | sessionStopping _ | cooperativeClose .. | sessionClosed .. => .info
  | streamDiscarded .. | traceUnavailable .. | traceWriteFailed .. | traceFlushFailed ..
  | nameUnrepresentable _ => .warn
  | transportFault .. => .error

def text : Entry → String
  | datagramSent _ => "datagram sent"
  | streamSent _ => "stream message sent"
  | datagramReceived _ => "datagram received"
  | streamReceived _ => "stream message received"
  | streamDiscarded .. => "stream aborted before end of data, discarding partial message"
  | sessionStarted .. => "tunnel session started"
  | sessionStopping _ => "stopping tunnel session"
  | cooperativeClose .. => "cooperative close observed"
  | loopExited .. => "inbound loop exited"
  | transportFault .. => "transport fault, tearing down session"
  | loopFailedWhileClosing .. => "inbound loop failed while closing"
  | sessionClosed .. => "tunnel session closed"
  | traceCreated _ => "created diagnostics file"
  | traceUnavailable .. => "diagnostics disabled for connection"
  | traceWriteFailed .. => "diagnostics write failed, disabling writer"
  | traceFlushFailed .. => "failed to flush diagnostics file"
  | nameUnrepresentable _ => "qlog filename is not representable as a C string"

def reasonText : CloseReason → String
  | .cooperative .here => "local"
  | .cooperative .peer => "peer"
  | .fault detail => "fault: " ++ detail

def fields : Entry → List (String × String)
  | datagramSent length | streamSent length | datagramReceived length | streamReceived length =>
    [("len", Decimal.text length)]
  | streamDiscarded length error =>
    [("discarded", Decimal.text length), ("error", error.message)]
  | sessionStarted id datagrams =>
    [("connection_id", id.hex), ("datagrams", if datagrams then "true" else "false")]
  | sessionStopping id => [("connection_id", id.hex)]
  | cooperativeClose id loop | loopExited id loop =>
    [("connection_id", id.hex), ("inbound", loop.name)]
  | transportFault id loop error | loopFailedWhileClosing id loop error =>
    [("connection_id", id.hex), ("inbound", loop.name), ("error", error.message)]
  | sessionClosed id reason => [("connection_id", id.hex), ("reason", reasonText reason)]
  | traceCreated path => [("path", path)]
  | traceUnavailable id error => [("connection_id", id.hex), ("error", error)]
  | traceWriteFailed path error | traceFlushFailed path error =>
    [("path", path), ("error", error.message)]
  | nameUnrepresentable error => [("error", error)]

end Entry

end MessageTunnel.Log
