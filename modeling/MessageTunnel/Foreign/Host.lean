import MessageTunnel.Session.World
/-!
A host on the other side of the C interface. It is told of events through callbacks, each of which
may be missing. Strings cross as bytes that end at the first zero byte, so no text handed over holds
one.
-/
set_option autoImplicit false

namespace MessageTunnel.Foreign

structure Callbacks where
  onMessage : Bool
  onFileName : Bool
  onClosed : Bool
  deriving DecidableEq, Repr

inductive CloseKind where
  | localStop
  | peerClose
  | fault
  deriving DecidableEq, Repr

def CloseKind.code : CloseKind → Nat
  | localStop => 0
  | peerClose => 1
  | fault => 2

inductive Notice where
  | message (payload : Payload)
  | fileName (name : String)
  | closed (kind : CloseKind) (detail : String)
  deriving DecidableEq, Repr

def withoutNul (text : String) : String :=
  String.ofList (text.toList.map fun c => if c.toNat = 0 then ' ' else c)

def closeNotice : CloseReason → Notice
  | .cooperative .here => .closed .localStop ""
  | .cooperative .peer => .closed .peerClose ""
  | .fault detail => .closed .fault (withoutNul detail)

def nulPosition (text : String) : Option Nat :=
  (Utf8.encode text.toList).findIdx? (· == 0)

def Callbacks.deliver (c : Callbacks) : Session.Effect → List Notice × List Log.Entry
  | .message payload => (if c.onMessage then [.message payload] else [], [])
  | .announced name =>
    if !c.onFileName then ([], [])
    else match nulPosition name with
      | none => ([.fileName name], [])
      | some position =>
        ([], [.nameUnrepresentable
          ("nul byte found in provided data at position: " ++ Decimal.text position)])
  | .sessionClosed reason => (if c.onClosed then [closeNotice reason] else [], [])
  | _ => ([], [])

end MessageTunnel.Foreign
