import MessageTunnel.Text.Decimal
set_option autoImplicit false

namespace MessageTunnel

structure CloseNotice where
  code : UInt64
  reason : String
  deriving DecidableEq, Repr

def CloseNotice.cooperative : CloseNotice := ⟨0, "normal shutdown"⟩

def CloseNotice.fault : CloseNotice := ⟨1, "transport fault"⟩

inductive TransportError where
  | applicationClosed (code : UInt64) (reason : String)
  | locallyClosed
  | datagramsUnsupported
  | datagramTooLarge (size limit : Nat)
  | streamReset (code : UInt64)
  | fault (operation detail : String)
  deriving DecidableEq, Repr

inductive Disposition where
  | cooperative
  | fault
  deriving DecidableEq, Repr

namespace TransportError

def ofNotice (notice : CloseNotice) : TransportError := .applicationClosed notice.code notice.reason

def message : TransportError → String
  | applicationClosed code reason =>
    "application closed with code " ++ Decimal.text code.toNat ++ ": " ++ reason
  | locallyClosed => "connection closed locally"
  | datagramsUnsupported => "datagrams are not supported on this connection"
  | datagramTooLarge size limit =>
    "datagram of " ++ Decimal.text size ++ " bytes exceeds the " ++ Decimal.text limit ++
      " byte limit"
  | streamReset code => "stream reset by peer with code " ++ Decimal.text code.toNat
  | fault operation detail => operation ++ ": " ++ detail

def disposition : TransportError → Disposition
  | locallyClosed => .cooperative
  | applicationClosed code reason =>
    if CloseNotice.mk code reason = .cooperative then .cooperative else .fault
  | _ => .fault

def isCooperative (e : TransportError) : Bool := e.disposition == .cooperative

theorem isCooperative_iff (e : TransportError) :
    e.isCooperative = true ↔ e = locallyClosed ∨ e = ofNotice .cooperative := by
  cases e with
  | applicationClosed code reason =>
    by_cases h : CloseNotice.mk code reason = .cooperative
    · simp [isCooperative, disposition, ofNotice, ← h]
    · have : ¬ (code = CloseNotice.cooperative.code ∧ reason = CloseNotice.cooperative.reason) :=
        fun ⟨hc, hr⟩ => h (by rw [hc, hr])
      simp [isCooperative, disposition, ofNotice, h, this]
  | _ => simp [isCooperative, disposition, ofNotice]

end TransportError

end MessageTunnel
