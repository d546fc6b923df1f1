import MessageTunnel.Session.Error
set_option autoImplicit false

namespace MessageTunnel.Foreign

inductive Status where
  | ok
  /-- a null pointer, text that is no UTF-8, or a length without data -/
  | invalidArgument
  | startFailed
  | sessionClosed
  | datagramTooLarge
  | datagramsUnavailable
  | transportFailed
  /-- no runtime, or a call from a thread that must not block -/
  | runtimeUnavailable
  | configInvalid
  deriving DecidableEq, Repr

namespace Status

def code : Status → Int
  | ok => 0
  | invalidArgument => -1
  | startFailed => -2
  | sessionClosed => -3
  | datagramTooLarge => -4
  | datagramsUnavailable => -5
  | transportFailed => -6
  | runtimeUnavailable => -7
  | configInvalid => -8

def ofSessionError : SessionError → Status
  | .closed => sessionClosed
  | .datagramTooLarge .. => datagramTooLarge
  | .datagramsUnavailable => datagramsUnavailable
  | .transport _ => transportFailed

def ofResult {α : Type} : Except Status α → Status
  | .ok _ => ok
  | .error status => status

end Status

end MessageTunnel.Foreign
