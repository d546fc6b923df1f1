import MessageTunnel.Quic.StreamError
set_option autoImplicit false

namespace MessageTunnel.Quic

inductive SeamError where
  | openStream (e : ConnectionError)
  | acceptStream (e : ConnectionError)
  | readDatagram (e : ConnectionError)
  /-- with the size of the datagram and the limit of the moment -/
  | sendDatagram (size : Nat) (limit : Option Nat) (e : SendDatagramError)
  | write (e : WriteError)
  | read (e : ReadError)
  | finish (e : FinishError)
  deriving DecidableEq, Repr

namespace SeamError

def toTransport : SeamError → TransportError
  | openStream e => e.toTransport .openStream
  | acceptStream e => e.toTransport .acceptStream
  | readDatagram e => e.toTransport .readDatagram
  | sendDatagram size limit e => e.toTransport size limit
  | write e => e.toTransport
  | read e => e.toTransport
  | finish e => e.toTransport

def lost? : SeamError → Option ConnectionError
  | openStream e | acceptStream e | readDatagram e => some e
  | sendDatagram _ _ (.connectionLost e) | write (.connectionLost e) | read (.connectionLost e) =>
    some e
  | _ => none

end SeamError

end MessageTunnel.Quic
