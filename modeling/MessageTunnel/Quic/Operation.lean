set_option autoImplicit false

namespace MessageTunnel.Quic

inductive Operation where
  | resolve
  | bind
  | credentials
  | tls
  | config
  | connect
  | accept
  | openStream
  | acceptStream
  | read
  | write
  | finish
  | sendDatagram
  | readDatagram
  deriving DecidableEq, Repr

namespace Operation

def all : List Operation :=
  [resolve, bind, credentials, tls, config, connect, accept, openStream, acceptStream, read, write,
    finish, sendDatagram, readDatagram]

def word : Operation → String
  | resolve => "resolve"
  | bind => "bind"
  | credentials => "credentials"
  | tls => "tls"
  | config => "config"
  | connect => "connect"
  | accept => "accept"
  | openStream => "open_stream"
  | acceptStream => "accept_stream"
  | read => "read"
  | write => "write"
  | finish => "finish"
  | sendDatagram => "send_datagram"
  | readDatagram => "read_datagram"

def name (op : Operation) : String := "quic " ++ op.word

/-- Settings are found invalid; every other operation fails. -/
def code : Operation → String
  | config => "tunnel.quic.config_invalid"
  | op => "tunnel.quic." ++ op.word ++ "_failed"

end Operation

end MessageTunnel.Quic
