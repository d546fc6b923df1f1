import MessageTunnel.Quic.Operation
import MessageTunnel.Text.Decimal
import MessageTunnel.Text.Utf8
import MessageTunnel.Transport.Error
set_option autoImplicit false

namespace MessageTunnel.Quic

def transportCode (code : Nat) : String :=
  match code with
  | 0x0 => "the connection is being closed abruptly in the absence of any error"
  | 0x1 =>
    "the endpoint encountered an internal error and cannot continue with the connection"
  | 0x2 => "the server refused to accept a new connection"
  | 0x3 => "received more data than permitted in advertised data limits"
  | 0x4 =>
    "received a frame for a stream identifier that exceeded advertised the stream limit for the " ++
      "corresponding stream type"
  | 0x5 => "received a frame for a stream that was not in a state that permitted that frame"
  | 0x6 =>
    "received a STREAM frame or a RESET_STREAM frame containing a different final size to the " ++
      "one already established"
  | 0x7 => "received a frame that was badly formatted"
  | 0x8 =>
    "received transport parameters that were badly formatted, included an invalid value, was " ++
      "absent even though it is mandatory, was present though it is forbidden, or is otherwise " ++
      "in error"
  | 0x9 =>
    "the number of connection IDs provided by the peer exceeds the advertised " ++
      "active_connection_id_limit"
  | 0xA =>
    "detected an error with protocol compliance that was not covered by more specific error codes"
  | 0xB => "received an invalid Retry Token in a client Initial"
  | 0xC =>
    "the application or application protocol caused the connection to be closed during the " ++
      "handshake"
  | 0xD => "received more data in CRYPTO frames than can be buffered"
  | 0xE => "key update error"
  | 0xF => "the endpoint has reached the confidentiality or integrity limit for the AEAD algorithm"
  | 0x10 => "no viable network path exists"
  | code =>
    if 0x100 ≤ code ∧ code < 0x200 then
      "the cryptographic handshake failed: error " ++ Decimal.text (code % 256)
    else "unknown error"

inductive ConnectionError where
  | versionMismatch
  | transport (code : UInt64) (reason : String)
  /-- the same, found by the peer -/
  | connectionClosed (code : UInt64) (reason : List UInt8)
  | applicationClosed (code : UInt64) (reason : List UInt8)
  | reset
  | timedOut
  | locallyClosed
  | cidsExhausted
  deriving DecidableEq, Repr

namespace ConnectionError

def reasonText (reason : List UInt8) : String := String.ofList (Utf8.decodeLossy reason)

def codeAndReason (code : UInt64) (reason : String) : String :=
  transportCode code.toNat ++ (if reason.isEmpty then "" else ": " ++ reason)

def message : ConnectionError → String
  | versionMismatch => "peer doesn't implement any supported version"
  | transport code reason => codeAndReason code reason
  | connectionClosed code reason =>
    "aborted by peer: " ++ codeAndReason code (reasonText reason)
  | applicationClosed code reason =>
    "closed by peer: " ++
      (if reason.isEmpty then Decimal.text code.toNat
       else reasonText reason ++ " (code " ++ Decimal.text code.toNat ++ ")")
  | reset => "reset by peer"
  | timedOut => "timed out"
  | locallyClosed => "closed"
  | cidsExhausted => "CIDs exhausted"

/-- Closing by an application keeps its structure, and so does closing here; all else is a fault of
the operation that met it. -/
def toTransport (op : Operation) : ConnectionError → TransportError
  | applicationClosed code reason => .applicationClosed code (reasonText reason)
  | locallyClosed => .locallyClosed
  | e => .fault op.name e.message

end ConnectionError

end MessageTunnel.Quic
