import MessageTunnel.Json.Value
import MessageTunnel.Settings.Basic
set_option autoImplicit false

namespace MessageTunnel

def Settings.members (s : Settings) : List (String × Json) :=
  [("enable_datagrams", .boolean s.datagrams),
    ("qlog_dir", .ofOption .string s.traceDir),
    ("alpn", .string s.alpn),
    ("congestion_control", .string s.congestion.name),
    ("idle_timeout_ms", .natural s.idleTimeout.toNat),
    ("keep_alive_ms", .ofOption (fun n => .natural n.toNat) s.keepAlive),
    ("initial_mtu", .ofOption (fun n => .natural n.toNat) s.initialMtu)]

def Settings.toJson (s : Settings) : Json := .object s.members

def ClientSettings.toJson (s : ClientSettings) : Json :=
  .object ([("remote", .string s.remote), ("server_name", .string s.serverName),
    ("trusted_certificate", .ofOption .string s.trustedCertificate)] ++ s.shared.members)

def ServerSettings.toJson (s : ServerSettings) : Json :=
  .object (("bind", .string s.bind) :: s.shared.members)

end MessageTunnel
