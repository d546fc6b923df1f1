import MessageTunnel.Json.Value
import MessageTunnel.Settings.CongestionControl
set_option autoImplicit false

namespace MessageTunnel

structure Capabilities where
  implementation : String
  datagrams : Bool
  streams : Bool
  congestionControls : List CongestionControl
  deriving DecidableEq, Repr

namespace Capabilities

def current : Capabilities := ⟨"quinn", true, true, CongestionControl.all⟩

def toJson (c : Capabilities) : Json :=
  .object [("implementation", .string c.implementation), ("datagrams", .boolean c.datagrams),
    ("streams", .boolean c.streams),
    ("congestion_controls", .array (c.congestionControls.map fun a => .string a.name))]

end Capabilities

end MessageTunnel
