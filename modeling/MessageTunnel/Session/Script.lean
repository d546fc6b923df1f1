import MessageTunnel.Session.Schedule
set_option autoImplicit false

namespace MessageTunnel.Session.Script

inductive Step where
  | request (r : Request)
  | later (r : Request)
  | describe
  | dropHandle
  | idle
  | event (e : Link.Event)

inductive Answer where
  | done
  | reply (r : Reply)
  | waiting
  | started
  | description (id : ConnectionId) (limit : Option Nat) (listing : String)
  | noSession

structure Play where
  schedule : Schedule
  hasHandle : Bool
  later : List Nat

namespace Play

def session (p : Play) : Session := p.schedule.session

def start (session : Session) : Play := ⟨.start session, true, []⟩

def settleIf (settle : Bool) (p : Play) : Play :=
  if settle then { p with schedule := p.schedule.settle } else p

/-- Plays one step. Without a handle nothing can be asked. -/
def step (p : Play) (step : Step) (settle : Bool) : Answer × Play :=
  let usesHandle := match step with
    | .request _ | .later _ | .describe | .dropHandle => true
    | _ => false
  if usesHandle && !p.hasHandle then (.noSession, p.settleIf settle)
  else match step with
    | .request r =>
      let number := p.session.callers.length
      let p := settleIf settle { p with schedule := p.schedule.ask r }
      match p.session.callers[number]?.bind Caller.reply? with
      | some reply => (.reply reply, p)
      | none => (.waiting, p)
    | .later r =>
      let number := p.session.callers.length
      (.started,
        settleIf settle { p with schedule := p.schedule.askLater r, later := p.later ++ [number] })
    | .describe =>
      (.description p.session.id p.session.link.limit p.session.listing, p.settleIf settle)
    | .dropHandle => (.done, settleIf settle { p with hasHandle := false })
    | .idle => (.done, p.settleIf settle)
    | .event e => (.done, settleIf settle { p with schedule := p.schedule.act (.event e) })

def replyOf (p : Play) (number : Nat) : Option Reply :=
  p.session.callers[number]?.bind Caller.reply?

def repliesSince (before after : Play) : List (Request × Reply) :=
  after.later.filterMap fun number =>
    match before.replyOf number, after.session.callers[number]?, after.replyOf number with
    | none, some c, some reply => some (c.request, reply)
    | _, _, _ => none

end Play

end MessageTunnel.Session.Script
