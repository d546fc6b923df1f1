import MessageTunnel.Quic.Address
import MessageTunnel.Quic.ConnectionError
import MessageTunnel.Settings.Basic
set_option autoImplicit false

namespace MessageTunnel.Quic

structure StartError where
  operation : Operation
  detail : String
  deriving DecidableEq, Repr

inductive ConnectError where
  | endpointStopping
  | cidsExhausted
  | invalidServerName (name : String)
  | invalidRemoteAddress (a : SocketAddress)
  | noDefaultSettings
  | unsupportedVersion
  deriving DecidableEq, Repr

def ConnectError.message : ConnectError → String
  | endpointStopping => "endpoint stopping"
  | cidsExhausted => "CIDs exhausted"
  | invalidServerName name => "invalid server name: " ++ name
  | invalidRemoteAddress a => "invalid remote address: " ++ a.text
  | noDefaultSettings => "no default client config"
  | unsupportedVersion => "unsupported QUIC version"

inductive TlsError where
  | general (detail : String)
  | noCertificates
  | badEncoding
  deriving DecidableEq, Repr

def TlsError.message : TlsError → String
  | general detail => "unexpected error: " ++ detail
  | noCertificates => "peer sent no certificates"
  | badEncoding => "invalid peer certificate: BadEncoding"

inductive IdentityError where
  | invalidName (name : String)
  | malformedCertificate
  | malformedKey
  deriving DecidableEq, Repr

def IdentityError.message : IdentityError → String
  | invalidName name => "Invalid IA5String: '" ++ name ++ "'"
  | malformedCertificate => "Could not parse certificate"
  | malformedKey => "Could not parse key pair"

namespace StartError

def message (e : StartError) : String := e.operation.name ++ ": " ++ e.detail

def code (e : StartError) : String := e.operation.code

def ofFault (f : SettingsFault) : StartError := ⟨.config, f.message⟩

def ofConnect (op : Operation) (e : ConnectError) : StartError := ⟨op, e.message⟩

def ofHandshake (op : Operation) (e : ConnectionError) : StartError := ⟨op, e.message⟩

def ofTls (e : TlsError) : StartError := ⟨.tls, e.message⟩

def ofIdentity (e : IdentityError) : StartError := ⟨.credentials, e.message⟩

end StartError

end MessageTunnel.Quic
