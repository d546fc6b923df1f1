import MessageTunnel.Quic.ConnectionError
set_option autoImplicit false

namespace MessageTunnel.Quic

inductive SendDatagramError where
  | unsupportedByPeer
  | disabled
  | tooLarge
  | connectionLost (e : ConnectionError)
  deriving DecidableEq, Repr

def SendDatagramError.toTransport (size : Nat) (limit : Option Nat) :
    SendDatagramError → TransportError
  | unsupportedByPeer | disabled => .datagramsUnsupported
  | tooLarge => .datagramTooLarge size (limit.getD 0)
  | connectionLost e => e.toTransport .sendDatagram

inductive WriteError where
  | stopped (code : UInt64)
  | closedStream
  | zeroRttRejected
  | connectionLost (e : ConnectionError)
  deriving DecidableEq, Repr

def closedStreamText : String := "closed stream"

def zeroRttRejectedText : String := "0-RTT rejected"

def WriteError.toTransport : WriteError → TransportError
  | stopped code => .streamReset code
  | closedStream => .fault Operation.write.name closedStreamText
  | zeroRttRejected => .fault Operation.write.name zeroRttRejectedText
  | connectionLost e => e.toTransport .write

inductive ReadError where
  | reset (code : UInt64)
  | closedStream
  | illegalOrderedRead
  | zeroRttRejected
  | connectionLost (e : ConnectionError)
  deriving DecidableEq, Repr

def ReadError.toTransport : ReadError → TransportError
  | reset code => .streamReset code
  | closedStream => .fault Operation.read.name closedStreamText
  | illegalOrderedRead => .fault Operation.read.name "ordered read after unordered read"
  | zeroRttRejected => .fault Operation.read.name zeroRttRejectedText
  | connectionLost e => e.toTransport .read

/-- Finishing a stream fails only if it is closed already. -/
inductive FinishError where
  | closedStream
  deriving DecidableEq, Repr

def FinishError.toTransport : FinishError → TransportError
  | closedStream => .fault Operation.finish.name closedStreamText

end MessageTunnel.Quic
