import MessageTunnel.Foreign.Status
import MessageTunnel.Proofs.Text.Utf8
import MessageTunnel.Quic.Seam
import MessageTunnel.Shutdown
/-!
Whether a connection ended in agreement is decided once, from the code and the bytes of the reason, and
every layer says the same of it: the transport, the loop that meets the end, the sender that meets it,
and the status that a foreign caller is given. The reason is compared as text, but the reading of its
bytes lets no others pass for those of a normal shutdown.
-/
set_option autoImplicit false

namespace MessageTunnel

namespace Quic

/-- The connection was closed here, or by the peer with the notice of a normal shutdown. -/
def ConnectionError.IsCooperative (e : ConnectionError) : Prop :=
  e = .locallyClosed ∨
    e = .applicationClosed CloseNotice.cooperative.code
      (Utf8.encode CloseNotice.cooperative.reason.toList)

theorem ConnectionError.reasonText_eq_cooperative_iff (reason : List UInt8) :
    reasonText reason = CloseNotice.cooperative.reason ↔
      reason = Utf8.encode CloseNotice.cooperative.reason.toList := by
  have plain : Char.ofNat 0xFFFD ∉ CloseNotice.cooperative.reason.toList := by decide +kernel
  rw [← Utf8.decodeLossy_eq_iff plain, reasonText]
  constructor
  · intro h
    rw [← h, String.toList_ofList]
  · intro h
    rw [h, String.ofList_toList]

theorem ConnectionError.isCooperative_toTransport (op : Operation) (e : ConnectionError) :
    (e.toTransport op).isCooperative = true ↔ e.IsCooperative := by
  rw [TransportError.isCooperative_iff]
  cases e with
  | applicationClosed code reason =>
    simp [toTransport, IsCooperative, TransportError.ofNotice, reasonText_eq_cooperative_iff]
  | _ => simp [toTransport, IsCooperative, TransportError.ofNotice]

theorem SeamError.isCooperative_toTransport (e : SeamError) :
    e.toTransport.isCooperative = true ↔ ∃ lost, e.lost? = some lost ∧ lost.IsCooperative := by
  have mapped : (∃ lost op, e.lost? = some lost ∧ e.toTransport = lost.toTransport op) ∨
      e.lost? = none ∧ e.toTransport.isCooperative = false := by
    cases e with
    | openStream e | acceptStream e | readDatagram e => exact .inl ⟨e, _, rfl, rfl⟩
    | sendDatagram size limit e =>
      cases e with
      | connectionLost e => exact .inl ⟨e, _, rfl, rfl⟩
      | _ => exact .inr ⟨rfl, rfl⟩
    | write e | read e =>
      cases e with
      | connectionLost e => exact .inl ⟨e, _, rfl, rfl⟩
      | _ => exact .inr ⟨rfl, rfl⟩
    | finish e => exact .inr ⟨rfl, rfl⟩
  obtain ⟨lost, op, reported, same⟩ | ⟨none, fault⟩ := mapped
  · rw [same, ConnectionError.isCooperative_toTransport, reported]
    simp
  · simp [none, fault]

end Quic

theorem CloseReason.isFault_ofTransport (e : TransportError) :
    (CloseReason.ofTransport e).isFault = !e.isCooperative := by
  unfold CloseReason.ofTransport TransportError.isCooperative
  cases e.disposition with
  | cooperative => cases e <;> rfl
  | fault => rfl

theorem Foreign.Status.code_ofSessionError_eq_closed_iff (e : SessionError) :
    (ofSessionError e).code = -3 ↔ e = .closed := by
  cases e <;> simp [ofSessionError, code]

theorem SessionError.of_ofTransport_eq_transport {e cause : TransportError}
    (passed : ofTransport e = .transport cause) :
    cause = e ∧ e.isCooperative = false ∧ (∀ size limit, e ≠ .datagramTooLarge size limit) ∧
      e ≠ .datagramsUnsupported := by
  unfold ofTransport at passed
  cases quiet : e.isCooperative with
  | true => simp [quiet] at passed
  | false =>
    rw [quiet] at passed
    cases e with
    | datagramTooLarge | datagramsUnsupported => simp at passed
    | _ => exact ⟨(SessionError.transport.inj passed).symm, rfl, by simp, by simp⟩

/-- All layers take an error for a cooperative end of the connection, or none of them does. -/
structure Classified (e : TransportError) (ends : Prop) : Prop where
  transport : e.isCooperative = true ↔ ends
  /-- the reason for which a session closes when the error ends one of its loops -/
  loop : (CloseReason.ofTransport e).isFault = false ↔ ends
  caller : SessionError.ofTransport e = .closed ↔ ends
  foreign : (Foreign.Status.ofSessionError (.ofTransport e)).code = -3 ↔ ends
  passed : ∀ cause, SessionError.ofTransport e = .transport cause →
    cause.isCooperative = false ∧ (∀ size limit, cause ≠ .datagramTooLarge size limit) ∧
      cause ≠ .datagramsUnsupported

theorem Classified.of_iff {e : TransportError} {ends : Prop}
    (transport : e.isCooperative = true ↔ ends) : Classified e ends where
  transport := transport
  loop := by rw [CloseReason.isFault_ofTransport, Bool.not_eq_false', transport]
  caller := (SessionError.ofTransport_eq_closed_iff e).trans transport
  foreign := (Foreign.Status.code_ofSessionError_eq_closed_iff _).trans
    ((SessionError.ofTransport_eq_closed_iff e).trans transport)
  passed := by
    intro cause passed
    obtain ⟨rfl, others⟩ := SessionError.of_ofTransport_eq_transport passed
    exact others

/-- Whatever error the connection reports, at whatever operation, it counts as a cooperative end just
if it reports a cooperative loss; a stream that the peer gave up is none, whatever its code. -/
theorem classified_alike :
    (∀ e : TransportError, Classified e (e = .locallyClosed ∨ e = .ofNotice .cooperative)) ∧
      (∀ e : Quic.SeamError,
        Classified e.toTransport (∃ lost, e.lost? = some lost ∧ lost.IsCooperative)) ∧
      ∀ code, Classified (Quic.SeamError.read (.reset code)).toTransport False ∧
        Classified (Quic.SeamError.write (.stopped code)).toTransport False := by
  refine ⟨fun e => .of_iff e.isCooperative_iff, fun e => .of_iff e.isCooperative_toTransport,
    fun code => ⟨.of_iff ?_, .of_iff ?_⟩⟩
  · simpa [Quic.SeamError.lost?] using (Quic.SeamError.read (.reset code)).isCooperative_toTransport
  · simpa [Quic.SeamError.lost?] using
      (Quic.SeamError.write (.stopped code)).isCooperative_toTransport

end MessageTunnel
