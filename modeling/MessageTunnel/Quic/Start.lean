import MessageTunnel.Quic.Certificates
import MessageTunnel.Quic.Parameters
import MessageTunnel.Quic.ServerName
import MessageTunnel.Settings.Basic
set_option autoImplicit false

namespace MessageTunnel.Quic

structure Surroundings where
  files : FileSystem
  lookUp : String → Except String IpAddress
  bindFailure : IpAddress → Option IoError
  isCertificate : Bytes → Bool

def namedPort? (digits : List Char) : Option UInt16 :=
  match digits with
  | '+' :: rest => SocketAddress.port? rest
  | _ => SocketAddress.port? digits

def resolve (s : Surroundings) (address : String) : Except StartError SocketAddress := do
  if let some a := SocketAddress.ofText? address then return a
  let some (host, port) := SocketAddress.splitLast ':' address.toList
    | throw ⟨.resolve, "invalid socket address"⟩
  let some port := namedPort? port | throw ⟨.resolve, "invalid port value"⟩
  let ip ← (s.lookUp (String.ofList host)).mapError fun e => ⟨.resolve, e⟩
  return ⟨ip, port⟩

def trustedCertificates (s : Surroundings) (c : ClientSettings) :
    Except StartError (Option (List Bytes)) := do
  match c.trustedCertificate with
  | none => return none
  | some path =>
    let certificates ← Certificates.load s.files path
    if !certificates.all s.isCertificate then throw (.ofTls .badEncoding)
    return some certificates

def checkConnect (remote : SocketAddress) (serverName : String) : Except ConnectError Unit :=
  if remote.port = 0 ∨ remote.ip.isUnspecified then .error (.invalidRemoteAddress remote)
  else if !ServerName.isValid serverName then .error (.invalidServerName serverName)
  else .ok ()

structure Dial where
  remote : SocketAddress
  trusted : Option (List Bytes)
  parameters : Parameters

def dial (s : Surroundings) (c : ClientSettings) : Except StartError Dial := do
  c.shared.check.mapError .ofFault
  let remote ← resolve s c.remote
  let trusted ← trustedCertificates s c
  let parameters ← Parameters.ofSettings c.shared
  (checkConnect remote c.serverName).mapError (.ofConnect .connect)
  return ⟨remote, trusted, parameters⟩

def checkNames (names : List String) : Except IdentityError Unit :=
  match names.find? fun name => name.toList.any fun c => 128 ≤ c.toNat with
  | some name => .error (.invalidName name)
  | none => .ok ()

/-- A server that is bound and waits for its connection. Port zero stands for any free one. -/
structure Listener where
  address : SocketAddress
  parameters : Parameters

def listen (s : Surroundings) (c : ServerSettings) (names : List String := ["localhost"]) :
    Except StartError Listener := do
  (checkNames names).mapError .ofIdentity
  c.shared.check.mapError .ofFault
  let address ← resolve s c.bind
  let parameters ← Parameters.ofSettings c.shared
  if let some e := s.bindFailure address.ip then throw ⟨.bind, e.message⟩
  return ⟨address, parameters⟩

inductive Outcome where
  | failed (e : StartError)
  | waiting
  deriving DecidableEq, Repr

/-- How a client stands if nothing answers it: it waits until its idle timeout ends the attempt. -/
def unanswered (s : Surroundings) (c : ClientSettings) (patience : UInt64) : Outcome :=
  match dial s c with
  | .error e => .failed e
  | .ok d =>
    match d.parameters.maxIdleTimeout with
    | some timeout =>
      if timeout < patience then .failed (.ofHandshake .connect .timedOut) else .waiting
    | none => .waiting

end MessageTunnel.Quic
