import MessageTunnel.Session.Error
/-!
The shutdown of a session. A session runs until someone begins to close it, is closing until the
last of its loops has ended, and is closed for good after that. The reason it closes for is the one
given by whoever began first; `publish` hands it to everyone who waits.
-/
set_option autoImplicit false

namespace MessageTunnel

inductive SessionState where
  | running
  | closing
  | closed
  deriving DecidableEq, Repr

namespace SessionState

def all : List SessionState := [running, closing, closed]

def mayBecome : SessionState → SessionState → Bool
  | running, running | running, closing => true
  | closing, closing | closing, closed => true
  | closed, closed => true
  | _, _ => false

def isTerminal (s : SessionState) : Bool := s == closed

def name : SessionState → String
  | running => "running"
  | closing => "closing"
  | closed => "closed"

end SessionState

inductive Initiator where
  | here
  | peer
  deriving DecidableEq, Repr

inductive CloseReason where
  | cooperative (initiator : Initiator)
  | fault (detail : String)
  deriving DecidableEq, Repr

namespace CloseReason

def isFault : CloseReason → Bool
  | cooperative _ => false
  | fault _ => true

def ofTransport (e : TransportError) : CloseReason :=
  match e.disposition, e with
  | .cooperative, .locallyClosed => cooperative .here
  | .cooperative, _ => cooperative .peer
  | .fault, e => fault e.message

def notice : CloseReason → CloseNotice
  | cooperative _ => .cooperative
  | fault detail => ⟨CloseNotice.fault.code, detail⟩

end CloseReason

structure Shutdown where
  state : SessionState
  reason : Option CloseReason
  liveLoops : Nat
  published : Option CloseReason
  deriving DecidableEq, Repr

namespace Shutdown

def start (loops : Nat) : Shutdown := ⟨.running, none, loops, none⟩

def ensureRunning (s : Shutdown) : Except SessionError Unit :=
  if s.state = .running then .ok () else .error .closed

/-- Only the first to begin succeeds, and its reason is kept. -/
def beginClosing (s : Shutdown) (reason : CloseReason) : Bool × Shutdown :=
  if s.state = .running then (true, { s with state := .closing, reason := some reason })
  else (false, s)

/-- One loop has ended. Whoever ends the last one is given the reason and has to publish it. -/
def loopExited (s : Shutdown) : Option CloseReason × Shutdown :=
  let s := { s with liveLoops := s.liveLoops - 1 }
  if s.liveLoops = 0 ∧ s.state ≠ .closed then
    (some (s.reason.getD (.cooperative .here)), { s with state := .closed })
  else (none, s)

def publish (s : Shutdown) (reason : CloseReason) : Shutdown :=
  { s with published := some reason }

end Shutdown

end MessageTunnel
