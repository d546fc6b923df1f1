import MessageTunnel.Quic.StartError
import MessageTunnel.Settings.Basic
set_option autoImplicit false

namespace MessageTunnel.Quic

structure Parameters where
  maxIdleTimeout : Option UInt64
  initialMtu : UInt16
  keepAlive : Option UInt64
  /-- in bytes; without one no datagrams are received -/
  datagramBuffer : Option Nat
  congestion : CongestionControl
  deriving DecidableEq, Repr

def leastInitialMtu : UInt16 := 1200

def varintBound : Nat := 0x4000000000000000

def defaultDatagramBuffer : Nat := 1250000

structure Library where
  /-- an idle timeout as the library takes it, or why it cannot be one -/
  timeout : UInt64 → Except String UInt64
  mtu : UInt16 → UInt16
  defaultMtu : UInt16
  datagramBuffer : Nat

def Library.quinn : Library where
  timeout ms :=
    if varintBound ≤ ms.toNat then .error "value too large for varint encoding" else .ok ms
  mtu := max leastInitialMtu
  defaultMtu := leastInitialMtu
  datagramBuffer := defaultDatagramBuffer

/-- Hands settings over to a library. What it does not take is a fault of the settings. -/
def Library.parameters (q : Library) (s : Settings) : Except StartError Parameters := do
  let timeout ← (s.idleTimeout?.mapM q.timeout).mapError (⟨.config, ·⟩)
  return {
    maxIdleTimeout := timeout
    initialMtu := (s.initialMtu?.map q.mtu).getD q.defaultMtu
    keepAlive := s.keepAlive?
    datagramBuffer := if s.datagrams then some q.datagramBuffer else none
    congestion := s.congestion }

def Parameters.ofSettings : Settings → Except StartError Parameters := Library.quinn.parameters

end MessageTunnel.Quic
