import MessageTunnel.Foreign.Host
import MessageTunnel.Foreign.Status
import MessageTunnel.Session.Schedule
import MessageTunnel.Settings.Load
set_option autoImplicit false

namespace MessageTunnel.Foreign

abbrev CString := Option Bytes

/-- The text of a string that has to be given. It ends before the first zero byte. -/
def readText (s : CString) : Except Status String :=
  match s with
  | none => .error .invalidArgument
  | some bytes =>
    match Utf8.decode (bytes.takeWhile (· ≠ 0)) with
    | some text => .ok (String.ofList text)
    | none => .error .invalidArgument

/-- A directory for traces. A null pointer means a default one, and empty text none. -/
def readTraceDir (s : CString) (missing : String) : Except Status String :=
  match s with
  | none => .ok missing
  | s => readText s

/-- The bytes of a payload. Without data only the length zero is admitted. -/
def readPayload (data : Option Bytes) (length : Nat) : Except Status Payload :=
  match data with
  | none => if length = 0 then .ok [] else .error .invalidArgument
  | some bytes => .ok (bytes.take length)

def clientSettings (address : CString) (datagrams : Bool) (traceDir : CString) :
    Except Status ClientSettings := do
  let remote ← readText address
  let dir ← readTraceDir traceDir Settings.clientTraceDir
  return { remote := remote, shared := { datagrams := datagrams, traceDir := some dir } }

def serverSettings (address : CString) (datagrams : Bool) (traceDir : CString) :
    Except Status ServerSettings := do
  let bind ← readText address
  let dir ← readTraceDir traceDir Settings.serverTraceDir
  return { bind := bind, shared := { datagrams := datagrams, traceDir := some dir } }

def clientSettingsOfFile (fs : FileSystem) (path : CString) : Except Status ClientSettings := do
  (ClientSettings.ofFile fs (← readText path)).mapError fun _ => .configInvalid

def serverSettingsOfFile (fs : FileSystem) (path : CString) : Except Status ServerSettings := do
  (ServerSettings.ofFile fs (← readText path)).mapError fun _ => .configInvalid

inductive Slot (η : Type) where
  | untouched
  | null
  | handle (h : η)
  deriving DecidableEq, Repr

/-- How a start call ends: the status, the slot, and a handle that nobody was given and that is
released. -/
structure Started (η : Type) where
  status : Status
  slot : Slot η
  released : Option η
  deriving DecidableEq, Repr

def publish {η : Type} (hasSlot : Bool) (result : Except Status η) : Started η :=
  match hasSlot, result with
  | false, .ok h => ⟨.invalidArgument, .untouched, some h⟩
  | false, .error _ => ⟨.invalidArgument, .untouched, none⟩
  | true, .ok h => ⟨.ok, .handle h, none⟩
  | true, .error status => ⟨status, .null, none⟩

def start {σ η : Type} (settings : Except Status σ) (begin_ : σ → Except Status η)
    (hasSlot : Bool) : Started η := publish hasSlot (settings >>= begin_)

inductive Call where
  | stop
  | sendStream (data : Option Bytes) (length : Nat)
  | sendDatagram (data : Option Bytes) (length : Nat)

def Call.request : Call → Except Status Session.Request
  | stop => .ok .stop
  | sendStream data length => .sendStream <$> readPayload data length
  | sendDatagram data length => .send <$> readPayload data length

def Status.ofReply : Session.Reply → Status
  | .failed e => ofSessionError e
  | _ => ok

/-- A call from a thread that may block, as far as it goes without other tasks. There is no status
as long as it waits. -/
def Call.perform (s : Session) (c : Call) : Option Status × Session :=
  match c.request with
  | .error status => (some status, s)
  | .ok r =>
    let number := s.callers.length
    let s := Session.Schedule.alone (s.ask r) (.caller number)
    ((s.callers[number]?.bind Session.Caller.reply?).map Status.ofReply, s)

def Call.performOn (handle : Option Session) (c : Call) : Option Status × Option Session :=
  match handle with
  | none => (some .invalidArgument, none)
  | some s =>
    let (status, s) := c.perform s
    (status, some s)

end MessageTunnel.Foreign
