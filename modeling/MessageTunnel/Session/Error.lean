import MessageTunnel.Transport.Error
set_option autoImplicit false

namespace MessageTunnel

inductive SessionError where
  | closed
  | datagramTooLarge (size limit : Nat)
  | datagramsUnavailable
  | transport (cause : TransportError)
  deriving DecidableEq, Repr

namespace SessionError

def message : SessionError → String
  | closed => "session closed"
  | datagramTooLarge size limit =>
    "datagram of " ++ Decimal.text size ++ " bytes exceeds the transport limit of " ++
      Decimal.text limit ++ " bytes"
  | datagramsUnavailable => "datagrams are unavailable on this connection"
  | transport cause => cause.message

def code : SessionError → String
  | closed => "tunnel.session.closed"
  | datagramTooLarge .. => "tunnel.session.datagram_too_large"
  | datagramsUnavailable => "tunnel.session.datagrams_unavailable"
  | transport _ => "tunnel.session.transport_failed"

def ofTransport (e : TransportError) : SessionError :=
  if e.isCooperative then closed
  else match e with
    | .datagramTooLarge size limit => datagramTooLarge size limit
    | .datagramsUnsupported => datagramsUnavailable
    | e => transport e

theorem ofTransport_eq_closed_iff (cause : TransportError) :
    ofTransport cause = .closed ↔ cause.isCooperative = true := by
  unfold ofTransport
  cases hc : cause.isCooperative with
  | true => simp
  | false => cases cause <;> simp

end SessionError

end MessageTunnel
