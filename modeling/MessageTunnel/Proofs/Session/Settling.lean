import Mathlib.Data.List.Induction
import MessageTunnel.Proofs.Queues
import MessageTunnel.Proofs.Session.Answers
import MessageTunnel.Proofs.Session.Arrivals
import MessageTunnel.Proofs.Session.Convergence
/-!
What a session comes to when it is left alone. As long as no error stands in the way of one loop
only, the order in which its tasks take their turns is all the same: what the core will be, which
datagrams will be handed over and which streams accepted can be read off the core at any moment, and
no turn changes it. Where all is quiet, the core is what it had to come to.
-/
set_option autoImplicit false

namespace MessageTunnel.Session

variable {id : ConnectionId} {loop : Log.InboundLoop} {sh sh' : Shutdown} {l l' : Link}
  {c c' : Core} {t : Task} {a : Action} {d d' : Drain} {s : Session} {e : TransportError}
  {effects known : List Effect} {calls taken : List CloseReason}

/-! What is to come -/

def Drain.final : Drain → Drain
  | .reading rest message =>
    .ended (match rest.failure? with
      | none => .delivered (message ++ rest.content)
      | some e => .discarded (message ++ rest.content).length e)
  | .record outcome => .ended outcome
  | .deliver message => .ended (.delivered message)
  | .ended outcome => .ended outcome

def overWith (reason : CloseReason) : Shutdown := ⟨.closed, some reason, 0, some reason⟩

/-- The link of a session whose connection was closed with this error, once its loops have ended:
the first to meet a fault closes the connection on this side too. -/
def linkAfter (sh : Shutdown) (l : Link) (e : TransportError) (a b : Option Ending) : Link :=
  if sh.state = .running ∧ e.disposition = .fault ∨ a = some .hangUp ∨ b = some .hangUp then
    l.close .fault
  else l

/-- What a core comes to when the callers have their answers and all other tasks take their turns,
in any order. -/
def Core.settled (c : Core) : Core :=
  match c.link.closed with
  | none =>
    { c with
      link := c.link.withQueues [] [], reader := .reading
      drains :=
        (c.drains ++ c.link.streams.map fun stream => Drain.reading stream []).map Drain.final }
  | some e =>
    { c with
      shutdown := overWith (c.shutdown.reason.getD (lossReason e))
      link := linkAfter c.shutdown c.link e c.reader.ending? c.acceptor.ending?
      reader := .ending .ended, acceptor := .ending .ended, drains := c.drains.map Drain.final }

theorem callers_settled (c : Core) : c.settled.callers = c.callers := by
  unfold Core.settled
  split <;> rfl

theorem isEnded_settled (c : Core) : ∀ d ∈ c.settled.drains, d.isEnded = true := by
  have final (d : Drain) : d.final.isEnded = true := by cases d <;> rfl
  intro d mem
  unfold Core.settled at mem
  split at mem <;>
  · obtain ⟨d, -, rfl⟩ := List.mem_map.1 mem
    exact final d

def Core.incoming (c : Core) : List (Except TransportError Payload) :=
  c.reader.pending.map .ok ++ if c.link.closed = none then c.link.datagrams else []

def Core.waiting (c : Core) : List InboundStream :=
  if c.link.closed = none then c.link.streams else []

/-! Sessions in which both loops meet the same error -/

/-- What both loops do not meet alike is left out, and so is what makes callers wait. -/
def Action.isFair : Action → Bool
  | .request .awaitClosed => false
  | .event (.datagram (.error _)) | .event (.acceptFailed _) | .event (.writesHeld _) => false
  | .event (.stream stream) => !stream.hangs
  | _ => true

structure Core.IsFair (c : Core) : Prop where
  loses : ∀ e, c.Loses e → c.link.closed = some e
  working : c.link.closed = none → c.reader.ending? = none ∧ c.acceptor = .accepting
  streams : ∀ stream ∈ c.link.streams, stream.hangs = false
  drains : ∀ d ∈ c.drains, d.hangs = false
  once : ¬ (c.reader.ending? = some .hangUp ∧ c.acceptor.ending? = some .hangUp)
  unheld : c.link.heldWrites = none
  asks : ∀ k ∈ c.callers, k.request ≠ .awaitClosed ∧ ∀ e, k.stage ≠ .sending (.held e)

theorem DrainMove.flows (move : DrainMove l d d' effects) (flows : d.hangs = false) :
    d'.hangs = false := by
  cases move with
  | @piece stream part message rest parts =>
    simpa [Drain.hangs, InboundStream.hangs, InboundStream.failure?, parts, firstError?,
      firstError?_partsLeft] using flows
  | _ => rfl

theorem DrainMove.final_eq (move : DrainMove l d d' effects) (flows : d.hangs = false) :
    d'.final = d.final := by
  cases move with
  | @piece stream part message rest parts =>
    have content := content_partsLeft part rest
    simp only [Drain.final, InboundStream.failure?, InboundStream.content, parts, firstError?,
      firstError?_partsLeft, untilError, List.flatten_cons, List.append_assoc, content]
  | complete parts | broken parts =>
    simp [Drain.final, InboundStream.failure?, InboundStream.content, parts, firstError?,
      untilError]
  | cut parts stalls =>
    simp [Drain.hangs, InboundStream.hangs, InboundStream.failure?, parts, firstError?,
      stalls] at flows
  | _ => rfl

theorem not_held_of_step {payload : Payload} {stage : Dispatch.Stage} (unheld : l.heldWrites = none)
    (step : (Dispatch.step payload stage l).1 = .held e) : stage = .held e := by
  have called := Dispatch.called payload stage l
  rw [step] at called
  generalize (Dispatch.step payload stage l).2 = l' at called
  cases called with
  | hold =>
    cases taken : l.takeFailure .write <;> cases closed : l.closed <;>
      simp [Dispatch.step, Link.write, taken, closed, unheld, Dispatch.Stage.failed] at step
  | wait => rfl

theorem SendMove.unheld {payload : Payload} {channel : Channel} {stage stage' : Stage}
    (move : SendMove payload channel sh l stage l' stage' effects) (unheld : l.heldWrites = none)
    (free : ∀ e, stage ≠ .sending (.held e)) :
    l'.heldWrites = none ∧ ∀ e, stage' ≠ .sending (.held e) := by
  cases move with
  | admitted => cases channel <;> exact ⟨unheld, by simp [Dispatch.Stage.first]⟩
  | @call _ stage next goesOn moves step =>
    have called := Dispatch.called payload stage l
    rw [step] at called
    refine ⟨by cases called <;> exact unheld, ?_⟩
    rintro e same
    obtain rfl : next = .held e := by simpa using same
    exact free e (by rw [not_held_of_step unheld (congrArg Prod.fst step)])
  | _ => exact ⟨unheld, by simp⟩

theorem CallerMove.unheld {o : Options} {k : Caller} {stage : Stage}
    (move : CallerMove id o sh l k sh' l' stage effects) (unheld : l.heldWrites = none)
    (free : ∀ e, k.stage ≠ .sending (.held e)) :
    l'.heldWrites = none ∧ ∀ e, stage ≠ .sending (.held e) := by
  cases move with
  | send out move => exact move.unheld unheld free
  | _ => exact ⟨unheld, by simp⟩

theorem loss?_of_isFair (fair : a.isFair = true) : a.loss? = none := by
  unfold Action.isFair at fair
  unfold Action.loss?
  split <;> simp at fair ⊢

theorem Core.IsFair.working_acts (h : c.IsFair) (acts : Acts c a c' effects)
    (fair : a.isFair = true) (opened : c'.link.closed = none) :
    c'.reader.ending? = none ∧ c'.acceptor = .accepting := by
  have before : c.link.closed = none := by
    rw [acts.closed_eq, Option.or_eq_none_iff] at opened
    exact opened.1
  have lossless (e : TransportError) : ¬ c.Loses e := fun loses => by
    simp [h.loses e loses] at before
  obtain ⟨reader, acceptor⟩ := h.working before
  cases acts with
  | moves move =>
    cases move with
    | take | recordDatagram | deliverDatagram => exact ⟨rfl, acceptor⟩
    | @takeError e _ _ _ queue => exact absurd (.datagram (by simp [queue])) (lossless e)
    | readClosed _ closed => simp [before] at closed
    | endReader ending => simp [ending, Reader.ending?] at reader
    | acceptError _ fails =>
      obtain fails | closed := fails
      · exact absurd (.stream fails) (lossless _)
      · simp [before] at closed
    | join joining => simp [acceptor] at joining
    | endAcceptor ending => simp [acceptor] at ending
    | _ => exact ⟨reader, acceptor⟩
  | _ => exact ⟨reader, acceptor⟩

theorem Core.IsFair.streams_acts (h : c.IsFair) (acts : Acts c a c' effects)
    (fair : a.isFair = true) : (∀ stream ∈ c'.link.streams, stream.hangs = false) ∧
      ∀ d ∈ c'.drains, d.hangs = false := by
  cases acts with
  | moves move =>
    cases move with
    | endReader _ move | endAcceptor _ move => exact ⟨move.inbound.2 ▸ h.streams, h.drains⟩
    | call _ move => exact ⟨move.inbound.2 ▸ h.streams, h.drains⟩
    | @accept stream rest _ _ _ queue =>
      have flows := h.streams
      rw [queue] at flows
      refine ⟨fun stream mem => flows stream (List.mem_cons_of_mem _ mem), fun d mem => ?_⟩
      obtain old | rfl := by simpa using mem
      · exact h.drains d old
      · exact flows stream (by simp)
    | drain drain move =>
      refine ⟨h.streams, fun d mem => ?_⟩
      obtain old | rfl := List.mem_or_eq_of_mem_set mem
      · exact h.drains d old
      · exact move.flows (h.drains _ (List.mem_of_getElem? drain))
    | _ => exact ⟨h.streams, h.drains⟩
  | @event event =>
    refine ⟨fun stream mem => ?_, h.drains⟩
    cases event with
    | stream pushed =>
      obtain old | rfl := by simpa [Link.apply, Link.pushStream] using mem
      · exact h.streams stream old
      · simpa [Action.isFair] using fair
    | _ => exact h.streams stream mem
  | _ => exact ⟨h.streams, h.drains⟩

theorem Core.IsFair.asks_acts (h : c.IsFair) (acts : Acts c a c' effects)
    (fair : a.isFair = true) : c'.link.heldWrites = none ∧
      ∀ k ∈ c'.callers, k.request ≠ .awaitClosed ∧ ∀ e, k.stage ≠ .sending (.held e) := by
  cases acts with
  | moves move =>
    cases move with
    | endReader _ move | endAcceptor _ move =>
      refine ⟨?_, h.asks⟩
      cases move <;> exact h.unheld
    | call caller move =>
      obtain ⟨asks, free⟩ := h.asks _ (List.mem_of_getElem? caller)
      obtain ⟨unheld, free⟩ := move.unheld h.unheld free
      refine ⟨unheld, fun k mem => ?_⟩
      obtain old | rfl := List.mem_or_eq_of_mem_set mem
      · exact h.asks k old
      · exact ⟨asks, free⟩
    | _ => exact ⟨h.unheld, h.asks⟩
  | request =>
    refine ⟨h.unheld, fun k mem => ?_⟩
    obtain old | rfl := by simpa using mem
    · exact h.asks k old
    · exact ⟨by rintro rfl; simp [Action.isFair] at fair, by simp⟩
  | @event event =>
    cases event with
    | writesHeld => simp [Action.isFair] at fair
    | _ => exact ⟨h.unheld, h.asks⟩
  | _ => exact ⟨h.unheld, h.asks⟩

theorem Closure.idle_of_running {a b : Option Ending} (h : Closure sh known a b)
    (running : sh.state = .running) : a ≠ some .hangUp ∧ b ≠ some .hangUp := by
  have called := h.called
  rw [h.running_iff.1 running] at called
  constructor <;> rintro rfl <;> simp [hasCalled] at called

/-- Only one loop closes the connection: the other one comes too late to begin with it. -/
theorem Core.IsFair.once_acts (h : c.IsFair) (acts : Acts c a c' effects)
    (closing : Closing c calls taken known) :
    ¬ (c'.reader.ending? = some .hangUp ∧ c'.acceptor.ending? = some .hangUp) := by
  cases acts with
  | moves move =>
    cases move with
    | endReader reader move =>
      cases move with
      | beginFault running => exact fun both => (closing.closure.idle_of_running running).2 both.2
      | _ => simp [Reader.ending?]
    | endAcceptor acceptor move =>
      cases move with
      | beginFault running => exact fun both => (closing.closure.idle_of_running running).1 both.1
      | _ => simp [Acceptor.ending?]
    | take | takeError | readClosed | recordDatagram | deliverDatagram => simp [Reader.ending?]
    | acceptError | join => simp [Acceptor.ending?]
    | _ => exact h.once
  | _ => exact h.once

theorem Core.IsFair.acts (h : c.IsFair) (acts : Acts c a c' effects)
    (closing : Closing c calls taken known) (fair : a.isFair = true) : c'.IsFair where
  loses := by
    intro e loses
    obtain old | closed | new := acts.loses loses
    · exact acts.closed_stays (h.loses e old)
    · exact acts.closed_stays closed
    · simp [loss?_of_isFair fair] at new
  working := h.working_acts acts fair
  streams := (h.streams_acts acts fair).1
  drains := (h.streams_acts acts fair).2
  once := h.once_acts acts closing
  unheld := (h.asks_acts acts fair).1
  asks := (h.asks_acts acts fair).2

theorem isFair_turns {actions : List Action} (fair : ∀ a ∈ actions, a.isFair = true)
    (turns : List Task) : ∀ a ∈ actions ++ turns.map .step, a.isFair = true := by
  intro a mem
  obtain mem | mem := List.mem_append.1 mem
  · exact fair a mem
  · obtain ⟨t, -, rfl⟩ := List.mem_map.1 mem
    rfl

theorem isFair_run (id : ConnectionId) (options : Options) (limit : Option Nat)
    (registry : Trace.Registry) (clock : Nat) {actions : List Action}
    (fair : ∀ a ∈ actions, a.isFair = true) :
    ((spawn id options (.new limit) registry clock).run actions).core.IsFair := by
  refine run_induction (P := fun actions s => (∀ a ∈ actions, a.isFair = true) → s.core.IsFair)
    ?_ ?_ actions fair
  · intro _
    refine ⟨fun e loses => absurd loses (not_loses_spawn id options limit registry clock), ?_, ?_,
      ?_, ?_, ?_, ?_⟩ <;> simp [core_spawn, Link.new, Reader.ending?]
  · intro actions a h fair
    have closing := closing_run id options (.new limit) registry clock actions
    exact (h fun b mem => fair b (by simp [mem])).acts (Session.acts _ a) closing (fair a (by simp))

/-! Nothing that is to come depends on whose turn is next -/

theorem map_final_set {drains : List Drain} {number : Nat} (drain : drains[number]? = some d)
    (final : d'.final = d.final) :
    (drains.set number d').map Drain.final = drains.map Drain.final := by
  obtain ⟨less, rfl⟩ := List.getElem?_eq_some_iff.1 drain
  have stays := congrArg (List.map Drain.final) (List.set_getElem_self less)
  rwa [List.map_set, ← final, ← List.map_set] at stays

theorem linkAfter_symm (sh : Shutdown) (l : Link) (e : TransportError) (a b : Option Ending) :
    linkAfter sh l e a b = linkAfter sh l e b a := by
  simp only [linkAfter, or_comm (a := a = some .hangUp)]

theorem EndMove.reason_kept {stage stage' : Ending} {b : Option Ending}
    (move : EndMove id loop sh l stage sh' l' stage' effects)
    (closure : Closure sh known (some stage) b) (met : ∀ e', stage = .classify e' → e' = e) :
    sh'.reason.getD (lossReason e) = sh.reason.getD (lossReason e) := by
  cases move with
  | beginQuiet running | beginFault running =>
    simp [begun, closure.running_iff.1 running, ofTransport_eq, met _ rfl]
  | leave exited => rw [(loopExited_reason exited).1]
  | leaveLast exited => rw [(loopExited_reason exited).1]
  | _ => rfl

theorem EndMove.linkAfter_eq {stage stage' : Ending} {b : Option Ending}
    (move : EndMove id loop sh l stage sh' l' stage' effects)
    (closure : Closure sh known (some stage) b) (met : ∀ e', stage = .classify e' → e' = e)
    (once : ¬ (some stage = some .hangUp ∧ b = some .hangUp)) :
    linkAfter sh' l' e (some stage') b = linkAfter sh l e (some stage) b := by
  have late (called : hasCalled (some stage) = true) : sh.state ≠ .running := fun running => by
    simpa [closure.running_iff.1 running, called] using closure.called
  cases move with
  | beginQuiet running quiet =>
    obtain rfl := met _ rfl
    simp [linkAfter, begun, quiet, (closure.idle_of_running running).2]
  | beginFault running fault =>
    obtain rfl := met _ rfl
    simp [linkAfter, running, fault]
  | late closing => simp [linkAfter, closing]
  | hangUp =>
    have other : b ≠ some .hangUp := fun other => once ⟨rfl, other⟩
    simp [linkAfter, late rfl, other]
  | leave exited =>
    obtain same | closed := loopExited_state exited
    · simp [linkAfter, same, late rfl]
    · simp [linkAfter, closed, late rfl]
  | leaveLast exited =>
    obtain same | closed := loopExited_state exited
    · simp [linkAfter, same, late rfl]
    · simp [linkAfter, closed, late rfl]
  | _ => simp [linkAfter, Shutdown.publish, late rfl]

structure Preserves (c : Core) (t : Task) (c' : Core) (effects : List Effect) : Prop where
  settled : c'.settled = c.settled
  incoming : (seenIn Effect.message? .reader (.step t) effects).map .ok ++ c'.incoming = c.incoming
  waiting : c.accepts (.step t) ++ c'.waiting = c.waiting

theorem Move.preserves_open (move : Move c t c' effects) (fair : c.IsFair)
    (answered : c.isAnswered = true) (opened : c.link.closed = none) :
    Preserves c t c' effects := by
  obtain ⟨going, accepting⟩ := fair.working opened
  have lossless (e : TransportError) : ¬ c.Loses e := fun loses => by
    simp [fair.loses e loses] at opened
  cases move with
  | take reading _ queue =>
    constructor
    · simp [Core.settled, opened, Link.withQueues]
    · simp [Core.incoming, opened, reading, queue, Reader.pending, seenIn, Effect.message?]
    · simp [Core.waiting, Core.accepts, opened]
  | @takeError e _ _ _ queue => exact absurd (.datagram (by simp [queue])) (lossless e)
  | readClosed _ closed => simp [opened] at closed
  | recordDatagram reader =>
    constructor
    · simp [Core.settled, opened]
    · simp [Core.incoming, reader, Reader.pending, seenIn, Effect.message?]
    · simp [Core.waiting, Core.accepts]
  | deliverDatagram reader =>
    constructor
    · simp [Core.settled, opened]
    · simp [Core.incoming, reader, Reader.pending, seenIn, Effect.message?]
    · simp [Core.waiting, Core.accepts]
  | endReader ending => simp [ending, Reader.ending?] at going
  | accept _ works _ queue =>
    constructor
    · simp [Core.settled, opened, queue, Link.withQueues]
    · simp [Core.incoming, seenIn]
    · simp [Core.waiting, opened, queue, accepts_eq accepting works opened queue]
  | acceptError _ fails =>
    obtain fails | closed := fails
    · exact absurd (.stream fails) (lossless _)
    · simp [opened] at closed
  | join joining => simp [accepting] at joining
  | endAcceptor ending => simp [accepting] at ending
  | drain drain move =>
    have final := move.final_eq (fair.drains _ (List.mem_of_getElem? drain))
    constructor
    · simp [Core.settled, opened, map_final_set drain final]
    · simp [Core.incoming, seenIn]
    · simp [Core.waiting, Core.accepts]
  | call caller move => exact absurd rfl ((Move.call caller move).not_answered answered)

theorem settled_of_loop {r : Reader} {p : Acceptor} (closed : c.link.closed = some e)
    (closed' : l.closed = some e)
    (reason : sh.reason.getD (lossReason e) = c.shutdown.reason.getD (lossReason e))
    (link : linkAfter sh l e r.ending? p.ending? =
      linkAfter c.shutdown c.link e c.reader.ending? c.acceptor.ending?) :
    Core.settled { c with shutdown := sh, link := l, reader := r, acceptor := p } = c.settled := by
  simp only [Core.settled, closed, closed', reason, link]

theorem Move.preserves_closed (move : Move c t c' effects) (fair : c.IsFair)
    (answered : c.isAnswered = true) (closed : c.link.closed = some e)
    (closing : Closing c calls taken known) : Preserves c t c' effects := by
  have still := (Acts.moves move).closed_stays closed
  have same {e' : TransportError} (loses : c.Loses e') : e' = e :=
    Option.some.inj ((fair.loses e' loses).symm.trans closed)
  have closure := closing.closure
  have once := fair.once
  have shut : c.link.closed ≠ none := by simp [closed]
  cases move with
  | take _ opened | takeError _ opened | accept _ _ opened => exact absurd opened shut
  | readClosed reading =>
    constructor
    · exact settled_of_loop closed closed rfl (by simp [linkAfter, reading, Reader.ending?])
    · simp [Core.incoming, shut, reading, Reader.pending, seenIn]
    · simp [Core.waiting, Core.accepts, shut]
  | recordDatagram reader | deliverDatagram reader =>
    constructor
    · exact settled_of_loop closed closed rfl (by simp [linkAfter, reader, Reader.ending?])
    · simp [Core.incoming, shut, reader, Reader.pending, seenIn, Effect.message?]
    · simp [Core.waiting, Core.accepts, shut]
  | @endReader _ l' stage _ _ reader move =>
    have gone : l'.closed ≠ none := by simp [show l'.closed = some e from still]
    rw [reader, Reader.ending?] at closure once
    have met (e' : TransportError) (h : stage = .classify e') : e' = e :=
      same (.reader (by rw [reader, h]; rfl))
    constructor
    · refine settled_of_loop closed still (move.reason_kept closure met) ?_
      rw [reader]
      exact move.linkAfter_eq closure met once
    · simp [Core.incoming, shut, gone, reader, Reader.pending, seenIn, move.messages]
    · simp [Core.waiting, Core.accepts, shut, gone]
  | acceptError accepting fails =>
    constructor
    · exact settled_of_loop closed closed rfl (by simp [linkAfter, accepting, Acceptor.ending?])
    · simp [Core.incoming, shut, seenIn]
    · simp [Core.waiting, shut, accepts_of_fails (.inr closed)]
  | join joining =>
    constructor
    · exact settled_of_loop closed closed rfl (by simp [linkAfter, joining, Acceptor.ending?])
    · simp [Core.incoming, shut, seenIn]
    · simp [Core.waiting, shut, accepts_of_fails (.inr closed)]
  | @endAcceptor _ l' stage _ _ acceptor move =>
    have gone : l'.closed ≠ none := by simp [show l'.closed = some e from still]
    rw [acceptor, Acceptor.ending?] at closure once
    have met (e' : TransportError) (h : stage = .classify e') : e' = e :=
      same (.acceptor (by rw [acceptor, h]; rfl))
    constructor
    · refine settled_of_loop closed still (move.reason_kept closure.symm met) ?_
      rw [acceptor, linkAfter_symm, linkAfter_symm c.shutdown]
      exact move.linkAfter_eq closure.symm met fun both => once both.symm
    · simp [Core.incoming, shut, gone, seenIn]
    · simp [Core.waiting, shut, gone, accepts_of_fails (.inr closed)]
  | drain drain move =>
    have final := move.final_eq (fair.drains _ (List.mem_of_getElem? drain))
    constructor
    · simp [Core.settled, closed, map_final_set drain final]
    · simp [Core.incoming, seenIn]
    · simp [Core.waiting, Core.accepts]
  | call caller move => exact absurd rfl ((Move.call caller move).not_answered answered)

/-- No turn of a task changes what is to come, whichever task it is. -/
theorem Acts.preserves (acts : Acts c (.step t) c' effects) (fair : c.IsFair)
    (answered : c.isAnswered = true) (closing : Closing c calls taken known) :
    Preserves c t c' effects ∧ c'.callers = c.callers := by
  cases acts with
  | moves move =>
    refine ⟨?_, ?_⟩
    · cases closed : c.link.closed with
      | none => exact move.preserves_open fair answered closed
      | some e => exact move.preserves_closed fair answered closed closing
    · cases move with
      | call caller move => exact absurd rfl ((Move.call caller move).not_answered answered)
      | _ => rfl
  | waits blocked =>
    exact ⟨⟨rfl, by simp [seenIn], by simp [accepts_of_blocked blocked]⟩, rfl⟩

/-! Where all is quiet -/

theorem withQueues_of_empty (datagrams : l.datagrams = []) (streams : l.streams = []) :
    l.withQueues [] [] = l := by
  cases l
  simp_all [Link.withQueues]

theorem map_final_of_ended {drains : List Drain} (ended : ∀ d ∈ drains, d.isEnded = true) :
    drains.map Drain.final = drains := by
  refine (List.map_congr_left fun d mem => ?_).trans (List.map_id drains)
  cases d with
  | ended => rfl
  | _ => simpa [Drain.isEnded] using ended _ mem

theorem shutdown_of_ended (closing : Closing c calls taken known)
    (reader : c.reader = .ending .ended) (acceptor : c.acceptor = .ending .ended) :
    ∃ reason, c.shutdown = overWith reason := by
  obtain ⟨state, reason, published⟩ := closing.published_of_ended reader acceptor
  have closure := closing.closure
  simp only [reader, acceptor, Reader.ending?, Acceptor.ending?] at closure
  have live : c.shutdown.liveLoops = 0 := closure.live
  have given : c.shutdown.published = c.shutdown.reason := closure.published
  refine ⟨reason, ?_⟩
  rw [published] at given
  generalize c.shutdown = sh at *
  cases sh
  simp_all [overWith]

theorem settled_of_quiet (quiet : s.isQuiet = true) (fair : s.core.IsFair)
    (closing : Closing s.core calls taken known) :
    s.core.settled = s.core ∧ s.core.incoming = [] ∧ s.core.waiting = [] := by
  have ended (d : Drain) (mem : d ∈ s.drains) : d.isEnded = true := by
    obtain ⟨number, hd⟩ := List.getElem?_of_mem mem
    refine (Drain.ended_or_hangs quiet hd).resolve_right fun hangs => ?_
    simp [fair.drains d mem] at hangs
  have drains : s.core.drains.map Drain.final = s.core.drains := map_final_of_ended ended
  cases closed : s.core.link.closed with
  | none =>
    obtain ⟨going, accepting⟩ := fair.working closed
    cases blocked_at_rest quiet .reader with
    | readerEnded reader => simp [reader, Reader.ending?] at going
    | noDatagram reading _ datagrams =>
      cases blocked_at_rest quiet .acceptor with
      | joining joining => simp [accepting] at joining
      | acceptorEnded acceptor => simp [accepting] at acceptor
      | noStream _ _ _ streams =>
        have link := withQueues_of_empty datagrams streams
        refine ⟨?_, by simp [Core.incoming, reading, datagrams, Reader.pending],
          by simp [Core.waiting, streams]⟩
        simp only [Core.settled, closed, link, streams, List.map_nil, List.append_nil, drains]
        rw [← reading]
  | some e =>
    have shut : s.link.closed.isSome = true := by simp [show s.link.closed = some e from closed]
    have acceptor : s.core.acceptor = .ending .ended := acceptor_at_rest quiet shut
    obtain ⟨-, opened⟩ | reader := reader_at_rest quiet
    · simp [opened] at shut
    have reader : s.core.reader = .ending .ended := reader
    obtain ⟨reason, shutdown⟩ := shutdown_of_ended closing reader acceptor
    refine ⟨?_, by simp [Core.incoming, closed, reader, Reader.pending],
      by simp [Core.waiting, closed]⟩
    have link : linkAfter s.core.shutdown s.core.link e s.core.reader.ending?
        s.core.acceptor.ending? = s.core.link := by
      simp [linkAfter, shutdown, overWith, reader, acceptor, Reader.ending?, Acceptor.ending?]
    have given : overWith (s.core.shutdown.reason.getD (lossReason e)) = s.core.shutdown := by
      rw [shutdown]
      rfl
    simp only [Core.settled, closed, link, drains, given]
    rw [← reader, ← acceptor]

/-! A session left alone -/

structure Awaits (first : Session) (actions : List Action) (turns : List Task) : Prop where
  callers : (first.run (actions ++ turns.map .step)).callers = (first.run actions).callers
  settled : (first.run (actions ++ turns.map .step)).core.settled = (first.run actions).core.settled
  datagrams : (messagesOf .reader first (actions ++ turns.map .step)).map .ok ++
      (first.run (actions ++ turns.map .step)).core.incoming =
    (messagesOf .reader first actions).map .ok ++ (first.run actions).core.incoming
  accepted : acceptedIn first (actions ++ turns.map .step) ++
      (first.run (actions ++ turns.map .step)).core.waiting =
    acceptedIn first actions ++ (first.run actions).core.waiting

theorem awaits (id : ConnectionId) (options : Options) (limit : Option Nat)
    (registry : Trace.Registry) (clock : Nat) {actions : List Action}
    (fair : ∀ a ∈ actions, a.isFair = true)
    (answered : ((spawn id options (.new limit) registry clock).run actions).core.isAnswered = true)
    (turns : List Task) : Awaits (spawn id options (.new limit) registry clock) actions turns := by
  induction turns using List.reverseRecOn with
  | nil => constructor <;> simp
  | append_singleton turns t ih =>
    have turn : actions ++ (turns ++ [t]).map Action.step =
        (actions ++ turns.map .step) ++ [.step t] := by simp
    have isFair := isFair_run id options limit registry clock (isFair_turns fair turns)
    have closing := closing_run id options (.new limit) registry clock (actions ++ turns.map .step)
    generalize spawn id options (.new limit) registry clock = first at *
    have still : (first.run (actions ++ turns.map .step)).core.isAnswered = true := by
      rw [Core.isAnswered] at answered ⊢
      rwa [show (first.run (actions ++ turns.map .step)).core.callers = _ from ih.callers]
    have happens := acts (first.run (actions ++ turns.map .step)) (.step t)
    obtain ⟨keeps, callers⟩ := happens.preserves isFair still closing
    constructor
    · rw [turn, run_concat]
      exact callers.trans ih.callers
    · rw [turn, run_concat, keeps.settled, ih.settled]
    · rw [turn, run_concat, messagesOf, seenOf_concat fun _ => message?_of_isDiagnostic,
        List.map_append, List.append_assoc, keeps.incoming]
      exact ih.datagrams
    · rw [turn, run_concat, acceptedIn, along_concat, List.append_assoc, keeps.waiting]
      exact ih.accepted

/-- What a session has come to that was left alone until all was quiet, in whatever order its tasks
took their turns. -/
structure Settles (first : Session) (actions : List Action) (turns : List Task) : Prop where
  core : (first.run (actions ++ turns.map .step)).core = (first.run actions).core.settled
  datagrams : (messagesOf .reader first (actions ++ turns.map .step)).map .ok =
    (messagesOf .reader first actions).map .ok ++ (first.run actions).core.incoming
  accepted : acceptedIn first (actions ++ turns.map .step) =
    acceptedIn first actions ++ (first.run actions).core.waiting

theorem settles (id : ConnectionId) (options : Options) (limit : Option Nat)
    (registry : Trace.Registry) (clock : Nat) {actions : List Action} {turns : List Task}
    (fair : ∀ a ∈ actions, a.isFair = true)
    (answered : ((spawn id options (.new limit) registry clock).run actions).core.isAnswered = true)
    (quiet : ((spawn id options (.new limit) registry clock).run
      (actions ++ turns.map .step)).isQuiet = true) :
    Settles (spawn id options (.new limit) registry clock) actions turns := by
  have awaits := awaits id options limit registry clock fair answered turns
  have isFair := isFair_run id options limit registry clock (isFair_turns fair turns)
  have closing := closing_run id options (.new limit) registry clock (actions ++ turns.map .step)
  obtain ⟨settled, incoming, waiting⟩ := settled_of_quiet quiet isFair closing
  exact {
    core := by rw [← awaits.settled, settled]
    datagrams := by rw [← awaits.datagrams, incoming, List.append_nil]
    accepted := by rw [← awaits.accepted, waiting, List.append_nil] }

end MessageTunnel.Session
