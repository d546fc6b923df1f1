import MessageTunnel.ConnectionId
import MessageTunnel.Decimal.Binary64
import MessageTunnel.Json.Value
import MessageTunnel.Shutdown
import MessageTunnel.Text.Utf8
/-!
What the trace of a connection says: a header, and then one record for each event. Header and
records are JSON texts; a separator stands before each of them and a line feed after it, and neither
can occur inside.
-/
set_option autoImplicit false

namespace MessageTunnel

inductive Vantage where
  | client
  | server
  deriving DecidableEq, Repr

def Vantage.name : Vantage → String
  | client => "client"
  | server => "server"

inductive TraceEvent where
  | connectionStarted (vantage : Vantage)
  | datagramSent (length : Nat)
  | datagramReceived (length : Nat)
  | streamSent (length : Nat)
  | streamReceived (length : Nat)
  | streamDiscarded (length : Nat) (error : String)
  | connectionClosed (code : UInt64) (reason : String)
  deriving DecidableEq, Repr

namespace TraceEvent

def ofNotice (n : CloseNotice) : TraceEvent := .connectionClosed n.code n.reason

def name : TraceEvent → String
  | connectionStarted _ => "connectivity:connection_started"
  | datagramSent _ => "transport:datagram_sent"
  | datagramReceived _ => "transport:datagram_received"
  | streamSent _ => "transport:stream_sent"
  | streamReceived _ => "transport:stream_received"
  | streamDiscarded .. => "transport:stream_discarded"
  | connectionClosed .. => "connectivity:connection_closed"

def data : TraceEvent → Json
  | connectionStarted vantage => .object [("vantage", .string vantage.name)]
  | datagramSent length | datagramReceived length | streamSent length | streamReceived length =>
    .object [("length", .natural length)]
  | streamDiscarded length error =>
    .object [("length", .natural length), ("error", .string error)]
  | connectionClosed code reason =>
    .object [("code", .natural code.toNat), ("reason", .string reason)]

end TraceEvent

namespace Trace

/-- Nanoseconds as a number of milliseconds: first the seconds, then a thousand times as many. -/
def milliseconds (nanoseconds : Nat) : Json :=
  let seconds := (Binary64.ofQuotient (nanoseconds / 1000000000) 1).sum
    (Binary64.ofQuotient (nanoseconds % 1000000000) 1000000000)
  match seconds.product (Binary64.ofQuotient 1000 1) with
  | .finite _ mantissa exponent =>
    .number (.other (String.ofList (Binary64.compact mantissa exponent)))
  | _ => .null

def header (vantage : Vantage) (id : ConnectionId) : Json :=
  .object [("qlog_version", .string "0.3"), ("qlog_format", .string "JSON-SEQ"),
    ("title", .string "quic-tunnel"),
    ("trace", .object [
      ("vantage_point", .object [("type", .string vantage.name)]),
      ("common_fields", .object [("group_id", .string id.hex),
        ("time_format", .string "relative")])])]

def record (nanoseconds : Nat) (event : TraceEvent) : Json :=
  .object [("time", milliseconds nanoseconds), ("name", .string event.name),
    ("data", event.data)]

def separator : UInt8 := 0x1E

def pieces (entry : Json) : List (List UInt8) :=
  [[separator]] ++ entry.pieces.map Utf8.encode ++ [[10]]

end Trace

end MessageTunnel
