import MessageTunnel.Session.Step
/-!
One way to let the tasks of a session take their turns: they queue, the first one runs until it has
to wait, and then those that can go on and are not in the queue yet line up behind the others.
-/
set_option autoImplicit false

namespace MessageTunnel.Session

structure Schedule where
  session : Session
  queue : List Task

namespace Schedule

def lineUp (s : Schedule) : Schedule :=
  { s with queue := s.queue ++ s.session.tasks.filter fun t =>
      s.session.canStep t && !s.queue.contains t }

def start (session : Session) : Schedule := ⟨session, [.reader, .acceptor]⟩

def act (s : Schedule) (a : Action) : Schedule := { s with session := s.session.act a }.lineUp

/-- One step of the task in front, or its leaving the queue; nothing if the queue is empty. -/
def turn? (s : Schedule) : Option Schedule :=
  match s.queue with
  | [] => none
  | t :: rest =>
    match s.session.step? t with
    | some session => some { s with session := session }
    | none => some (lineUp { s with queue := rest })

def turns : Nat → Schedule → Schedule
  | 0, s => s
  | n + 1, s =>
    match s.turn? with
    | none => s
    | some s => turns n s

def total (counts : List Nat) : Nat := counts.foldr (· + ·) 0

def streamWork (s : InboundStream) : Nat :=
  s.parts.length + total (s.parts.map fun
    | .ok part => part.length
    | .error _ => 0) + 8

def work (s : Session) : Nat :=
  4 * s.link.datagrams.length + total (s.link.streams.map streamWork) +
    total (s.drains.map fun
      | .reading rest _ => streamWork rest
      | _ => 4) +
    8 * s.callers.length + 32

def settle (s : Schedule) : Schedule :=
  turns (2 * (work s.session + s.queue.length + s.session.tasks.length)) s

def alone (s : Session) (t : Task) : Session :=
  (List.range 8).foldl (fun s _ => s.act (.step t)) s

def ask (s : Schedule) (r : Request) : Schedule :=
  lineUp { s with session := alone (s.session.ask r) (.caller s.session.callers.length) }

def askLater (s : Schedule) (r : Request) : Schedule := s.act (.request r)

end Schedule

end MessageTunnel.Session
