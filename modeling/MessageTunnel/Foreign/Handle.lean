import MessageTunnel.Foreign.Api
import MessageTunnel.Quic.Start
/-!
What the four start calls begin, and how it is let go of. A handle is a session on a runtime of its
own, and whoever calls waits for that runtime. A runtime with nothing to run is dropped again, which
panics inside of another one. What comes back from the network is given from outside.
-/
set_option autoImplicit false

namespace MessageTunnel.Foreign

inductive Flavour where
  | single
  | multi
  deriving DecidableEq, Repr

/-- The thread of a call, as the runtimes see it. -/
inductive Thread where
  | plain
  /-- has a runtime at hand, but runs none of its tasks -/
  | guest (r : Flavour)
  /-- runs a task of a runtime -/
  | inside (r : Flavour)
  /-- runs a task that no other thread of its runtime can take over -/
  | pinned
  deriving DecidableEq, Repr

/-- A thread may wait if others can go on with what it has at hand. -/
def Thread.mayWait : Thread → Bool
  | guest .single | inside .single | pinned => false
  | plain | guest .multi | inside .multi => true

/-- A runtime waits for its threads when it is dropped, and a task must not wait for that. -/
def Thread.mayDrop : Thread → Bool
  | inside _ | pinned => false
  | plain | guest _ => true

structure Connection where
  id : ConnectionId
  /-- the longest datagram that it takes, if it takes any -/
  limit : Option Nat

structure World where
  quic : Quic.Surroundings
  thread : Thread
  /-- whether a runtime can be built -/
  hasRuntime : Bool
  connect : Quic.Dial → Except Quic.StartError Connection
  accept : Quic.Listener → Except Quic.StartError Connection
  clock : Nat

inductive Plan where
  | client (c : ClientSettings)
  | server (c : ServerSettings)

namespace World

def establish (w : World) (s : Settings) (vantage : Vantage) (c : Connection) : Session :=
  .spawn c.id ⟨s.datagrams, vantage⟩ (.new c.limit) (.new s.traceDir? vantage w.quic.files) w.clock

def begin (w : World) : Plan → Except Quic.StartError Session
  | .client c => do return w.establish c.shared .client (← w.connect (← Quic.dial w.quic c))
  | .server c => do return w.establish c.shared .server (← w.accept (← Quic.listen w.quic c))

def await (w : World) (started : Except Quic.StartError Session) : Except Status Session :=
  if w.hasRuntime && w.thread.mayWait then started.mapError fun _ => .startFailed
  else .error .runtimeUnavailable

end World

/-- How a call ends. A panic does not pass the C interface: it ends the process. -/
inductive Outcome (α : Type) where
  | returned (a : α)
  | aborted

inductive StartCall where
  | client (address : CString) (datagrams : Bool) (traceDir : CString)
  | server (address : CString) (datagrams : Bool) (traceDir : CString)
  | clientOfFile (path : CString)
  | serverOfFile (path : CString)

namespace StartCall

def plan (files : FileSystem) : StartCall → Except Status Plan
  | client address datagrams traceDir => .client <$> clientSettings address datagrams traceDir
  | server address datagrams traceDir => .server <$> serverSettings address datagrams traceDir
  | clientOfFile path => .client <$> clientSettingsOfFile files path
  | serverOfFile path => .server <$> serverSettingsOfFile files path

def result (w : World) (hasSlot : Bool) (c : StartCall) : Started Session :=
  start (c.plan w.quic.files) (fun p => w.await (w.begin p)) hasSlot

/-- Whether the runtime that was built for a call is dropped where that panics. -/
def panics (w : World) (c : StartCall) : Bool :=
  match c.plan w.quic.files with
  | .error _ => false
  | .ok p => w.hasRuntime && !w.thread.mayDrop && !(w.await (w.begin p)).isOk

def perform (w : World) (hasSlot : Bool) (c : StartCall) : Outcome (Started Session) :=
  if c.panics w then .aborted else .returned (c.result w hasSlot)

end StartCall

/-- A handle that is let go of: its session is stopped, then once more by whoever waits for its end,
and at last its end is waited for. -/
structure Release where
  session : Session
  caller : Nat
  left : List Session.Request

namespace Release

def start (s : Session) : Release := ⟨s.ask .stop, s.callers.length, [.stop, .awaitClosed]⟩

def isAnswered (r : Release) : Bool :=
  (r.session.callers[r.caller]?.bind Session.Caller.reply?).isSome

inductive Move where
  | session (a : Session.Action)
  /-- Who lets go of the handle goes on, if what it waits for is there. -/
  | goOn

def step (r : Release) : Move → Release
  | .session a => { r with session := r.session.act a }
  | .goOn =>
    match r.isAnswered, r.left with
    | true, request :: left => ⟨r.session.ask request, r.session.callers.length, left⟩
    | _, _ => r

def run (r : Release) (moves : List Move) : Release := moves.foldl step r

/-- A plain thread waits for the end. One that has a runtime at hand could wait for itself, so it
returns after the first stop, and another thread does the rest; where none can be started, the
runtime is shut down with all that is left of the session. -/
def hasReturned (r : Release) : Thread → Bool
  | .plain => r.left.isEmpty && r.isAnswered
  | .guest _ | .inside _ | .pinned => r.left.length < 2 || r.isAnswered

end Release

end MessageTunnel.Foreign
