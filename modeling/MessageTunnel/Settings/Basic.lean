import MessageTunnel.Settings.CongestionControl
import MessageTunnel.Text.Decimal
set_option autoImplicit false

namespace MessageTunnel

structure Settings where
  datagrams : Bool := true
  /-- where traces are written; an empty path is none -/
  traceDir : Option String := none
  alpn : String := "quic-echo-example"
  congestion : CongestionControl := .newReno
  /-- in milliseconds; zero is none -/
  idleTimeout : UInt64 := 30000
  keepAlive : Option UInt64 := none
  initialMtu : Option UInt16 := none
  deriving DecidableEq, Repr

def Settings.defaultAddress : String := "localhost:4242"

structure ClientSettings where
  remote : String := Settings.defaultAddress
  serverName : String := "localhost"
  trustedCertificate : Option String := none
  shared : Settings := {}
  deriving DecidableEq, Repr

structure ServerSettings where
  bind : String := Settings.defaultAddress
  shared : Settings := {}
  deriving DecidableEq, Repr

inductive SettingsFault where
  | emptyAlpn
  | initialMtuTooSmall (mtu : UInt16)
  deriving DecidableEq, Repr

def SettingsFault.message : SettingsFault → String
  | emptyAlpn => "alpn must not be empty"
  | initialMtuTooSmall mtu =>
    "initial_mtu " ++ Decimal.text mtu.toNat ++ " is below the QUIC minimum of 1200"

namespace Settings

def clientTraceDir : String := "tunnel-in-logs"

def serverTraceDir : String := "tunnel-out-logs"

def leastMtu : UInt16 := 1200

/-- The size of first packets with datagrams: any message short enough for a datagram then fits into
one from the beginning. -/
def datagramMtu : UInt16 := 1280

def traceDir? (s : Settings) : Option String := s.traceDir.filter fun dir => !dir.isEmpty

def idleTimeout? (s : Settings) : Option UInt64 :=
  if s.idleTimeout = 0 then none else some s.idleTimeout

def keepAlive? (s : Settings) : Option UInt64 := s.keepAlive.filter (· ≠ 0)

/-- An MTU that is set goes first; without one the transport decides, unless there are datagrams. -/
def initialMtu? (s : Settings) : Option UInt16 :=
  s.initialMtu.or (if s.datagrams then some datagramMtu else none)

def check (s : Settings) : Except SettingsFault Unit :=
  if s.alpn.isEmpty then .error .emptyAlpn
  else match s.initialMtu with
    | some mtu => if mtu < leastMtu then .error (.initialMtuTooSmall mtu) else .ok ()
    | none => .ok ()

end Settings

def ClientSettings.ofRemote (remote : String) : ClientSettings := { remote := remote }

def ServerSettings.ofBind (bind : String) : ServerSettings := { bind := bind }

end MessageTunnel
