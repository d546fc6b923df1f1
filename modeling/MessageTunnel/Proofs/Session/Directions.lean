import MessageTunnel.Proofs.Queues
import MessageTunnel.Proofs.Session.Answers
import MessageTunnel.Proofs.Session.Arrivals
/-!
The two directions of a session that nobody ends. What goes out is the work of the callers and of
what is arranged for their calls, what comes in is the work of the reader, the acceptor and the
drains. Each direction has its part of the core: its own actions depend on that part alone, and
those of the other direction leave it as it is. So a run does to either part what its own actions do.
-/
set_option autoImplicit false

namespace MessageTunnel.Session

variable {id : ConnectionId} {o : Options} {sh sh' : Shutdown} {l l' : Link} {k : Caller}
  {c c' c₁ c₂ c₁' c₂' : Core} {a : Action} {t : Task} {s s₁ s₂ : Session}
  {effects effects₁ effects₂ : List Effect}

/-- Nothing that ends a session: no stop, no end of the connection, no error in the way of a loop.
-/
def Action.isCalm : Action → Bool
  | .request .stop => false
  | .event (.datagram (.error _)) | .event (.peerClosed _) | .event (.broken _)
  | .event (.acceptFailed _) => false
  | _ => true

def Action.isOutbound : Action → Bool
  | .step (.caller _) | .request _ => true
  | .event (.limitChanged _) | .event (.failureArranged ..) | .event (.writesHeld _) => true
  | _ => false

def Action.isInbound : Action → Bool
  | .step .reader | .step .acceptor | .step (.drain _) => true
  | .event (.datagram _) | .event (.stream _) => true
  | _ => false

/-! A session that nobody ends -/

structure Core.IsCalm (c : Core) : Prop where
  running : c.shutdown.state = .running
  unpublished : c.shutdown.published = none
  opened : c.link.closed = none
  accepts : c.link.acceptFailure = none
  sound : ∀ e, .error e ∉ c.link.datagrams
  reader : c.reader.ending? = none
  acceptor : c.acceptor = .accepting
  stops : ∀ k ∈ c.callers, k.request = .stop → ∃ r, k.stage = .replied r

theorem SendMove.keeps {payload : Payload} {channel : Channel} {stage stage' : Stage}
    (move : SendMove payload channel sh l stage l' stage' effects) :
    l'.closed = l.closed ∧ l'.acceptFailure = l.acceptFailure ∧ l'.datagrams = l.datagrams ∧
      ∀ notice, .close notice ∈ l'.calls → .close notice ∈ l.calls := by
  cases move with
  | @call _ stage _ _ _ step =>
    have called := Dispatch.called payload stage l
    rw [step] at called
    cases called <;> simp [Link.record]
  | _ => simp

theorem CallerMove.sends {stage : Stage} (move : CallerMove id o sh l k sh' l' stage effects)
    (unpublished : sh.published = none) (stops : k.request = .stop → ∃ r, k.stage = .replied r) :
    sh' = sh ∧ ∃ payload channel, k.request.outgoing? o = some (payload, channel) ∧
      SendMove payload channel sh l k.stage l' stage effects := by
  cases move with
  | send out move => exact ⟨rfl, _, _, out, move⟩
  | told published => simp [unpublished] at published
  | _ => simp at stops

theorem Core.IsCalm.call {number : Nat} {stage : Stage} (calm : c.IsCalm)
    (caller : c.callers[number]? = some k)
    (move : CallerMove c.id c.options c.shutdown c.link k sh l stage effects) :
    sh = c.shutdown ∧ ∃ payload channel, k.request.outgoing? c.options = some (payload, channel) ∧
      SendMove payload channel c.shutdown c.link k.stage l stage effects :=
  move.sends calm.unpublished (calm.stops k (List.mem_of_getElem? caller))

theorem Core.IsCalm.acts (calm : c.IsCalm) (acts : Acts c a c' effects)
    (quiet : a.isCalm = true) : c'.IsCalm := by
  obtain ⟨running, unpublished, opened, accepts, sound, reader, acceptor, stops⟩ := calm
  cases acts with
  | moves move =>
    cases move with
    | take reading _ queue =>
      exact ⟨running, unpublished, opened, accepts, fun e mem => sound e (by simp [queue, mem]),
        rfl, acceptor, stops⟩
    | @takeError e _ reading _ queue => exact absurd (by simp [queue]) (sound e)
    | readClosed reading closed => simp [opened] at closed
    | recordDatagram | deliverDatagram =>
      exact ⟨running, unpublished, opened, accepts, sound, rfl, acceptor, stops⟩
    | endReader ending => simp [ending, Reader.ending?] at reader
    | accept => exact ⟨running, unpublished, opened, accepts, sound, reader, acceptor, stops⟩
    | acceptError _ fails => simp [accepts, opened] at fails
    | join joining => simp [acceptor] at joining
    | endAcceptor ending => simp [acceptor] at ending
    | drain => exact ⟨running, unpublished, opened, accepts, sound, reader, acceptor, stops⟩
    | call caller move =>
      obtain ⟨rfl, payload, channel, out, send⟩ :=
        move.sends unpublished (stops _ (List.mem_of_getElem? caller))
      obtain ⟨closed, failure, datagrams, -⟩ := send.keeps
      refine ⟨running, unpublished, closed.trans opened, failure.trans accepts,
        fun e mem => sound e (datagrams ▸ mem), reader, acceptor, fun k' mem stop => ?_⟩
      obtain old | rfl := List.mem_or_eq_of_mem_set mem
      · exact stops k' old stop
      · rw [show _ = Request.stop from stop] at out
        simp [Request.outgoing?] at out
  | waits | pass => exact ⟨running, unpublished, opened, accepts, sound, reader, acceptor, stops⟩
  | @request r =>
    refine ⟨running, unpublished, opened, accepts, sound, reader, acceptor, fun k mem stop => ?_⟩
    obtain old | rfl := by simpa using mem
    · exact stops k old stop
    · obtain rfl : r = .stop := stop
      simp [Action.isCalm] at quiet
  | @event e =>
    cases e with
    | datagram d =>
      cases d with
      | ok payload =>
        exact ⟨running, unpublished, opened, accepts,
          by simpa [Link.apply, Link.pushDatagram] using sound, reader, acceptor, stops⟩
      | error e => simp [Action.isCalm] at quiet
    | peerClosed | broken | acceptFailed => simp [Action.isCalm] at quiet
    | _ => exact ⟨running, unpublished, opened, accepts, sound, reader, acceptor, stops⟩

theorem isCalm_spawn (id : ConnectionId) (options : Options) (limit : Option Nat)
    (registry : Trace.Registry) (clock : Nat) :
    (spawn id options (.new limit) registry clock).core.IsCalm := by
  rw [core_spawn]
  constructor <;> simp [Shutdown.start, Link.new, Reader.ending?]

theorem isCalm_run {first : Session} (calm : first.core.IsCalm) {actions : List Action}
    (quiet : ∀ a ∈ actions, a.isCalm = true) : (first.run actions).core.IsCalm := by
  induction actions generalizing first with
  | nil => exact calm
  | cons a rest ih =>
    refine ih (calm.acts (acts first a) (quiet a (by simp))) fun b mem => quiet b ?_
    exact List.mem_cons_of_mem a mem

/-- On a calm core an action has one outcome. -/
theorem Acts.unique (h₁ : Acts c a c₁ effects₁) (h₂ : Acts c a c₂ effects₂)
    (opened : c.link.closed = none) (accepts : c.link.acceptFailure = none) :
    c₁ = c₂ ∧ effects₁ = effects₂ := by
  have steps {t : Task} {c' : Core} {effects : List Effect} (move : Move c t c' effects) :
      Steps c t c' effects := by
    refine ⟨move, fun e accepting joining => ?_⟩
    cases move with
    | acceptError _ fails => simp [accepts, opened] at fails
    | join before => simp [accepting] at before
    | endAcceptor before => simp [accepting] at before
    | _ => simp [accepting] at joining
  cases h₁ with
  | moves move₁ =>
    cases h₂ with
    | moves move₂ => exact (steps move₁).unique (steps move₂)
    | waits blocked => exact absurd blocked move₁.not_blocked
  | waits blocked =>
    cases h₂ with
    | moves move₂ => exact absurd blocked move₂.not_blocked
    | waits => exact ⟨rfl, rfl⟩
  | _ =>
    cases h₂
    exact ⟨rfl, rfl⟩

/-! The part of each direction -/

def Core.outbound (c : Core) : Core :=
  { c with
    link := c.link.withQueues [] [], reader := .reading, acceptor := .accepting, drains := [] }

def Core.inbound (c : Core) : Core :=
  { c with
    link := { c.link with
      calls := [], nextStream := 0, limit := none, failures := [], heldWrites := none }
    callers := [] }

/-- A part of the core that is the business of some actions: they depend on it alone, and no others
touch it. -/
structure IsPart (part : Core → Core) (own : Action → Bool) : Prop where
  frame : ∀ {c c' : Core} {a : Action} {effects : List Effect}, Acts c a c' effects → c.IsCalm →
    a.isCalm = true → own a = false → part c' = part c
  depends : ∀ {c c' : Core} {a : Action} {effects : List Effect}, Acts c a c' effects →
    c.IsCalm → own a = true → Acts (part c) a (part c') effects
  link : ∀ c, (part c).link.closed = c.link.closed ∧
    (part c).link.acceptFailure = c.link.acceptFailure

theorem SendMove.withQueues {payload : Payload} {channel : Channel} {stage stage' : Stage}
    (datagrams : List (Except TransportError Payload)) (streams : List InboundStream)
    (move : SendMove payload channel sh l stage l' stage' effects) :
    SendMove payload channel sh (l.withQueues datagrams streams) stage
      (l'.withQueues datagrams streams) stage' effects := by
  cases move with
  | refused closing => exact .refused closing
  | admitted running => exact .admitted running
  | call goesOn moves step =>
    exact .call goesOn moves (by rw [Dispatch.step_withQueues, step])
  | sent => exact .sent
  | failed => exact .failed

theorem CallerMove.withQueues {stage : Stage}
    (datagrams : List (Except TransportError Payload)) (streams : List InboundStream)
    (move : CallerMove id o sh l k sh' l' stage effects) :
    CallerMove id o sh (l.withQueues datagrams streams) k sh' (l'.withQueues datagrams streams)
      stage effects := by
  cases move with
  | send out move => exact .send out (move.withQueues datagrams streams)
  | stopFirst running => exact .stopFirst running
  | stopLate closing => exact .stopLate closing
  | stopHangUp => exact .stopHangUp
  | told published => exact .told published

theorem isPart_outbound : IsPart Core.outbound Action.isOutbound where
  frame := by
    intro c c' a effects acts calm quiet other
    cases acts with
    | moves move =>
      cases move with
      | endReader ending => exact absurd calm.reader (by simp [ending, Reader.ending?])
      | endAcceptor ending => exact absurd calm.acceptor (by simp [ending])
      | call => simp [Action.isOutbound] at other
      | _ => rfl
    | @event e =>
      cases e with
      | datagram | stream => rfl
      | peerClosed | broken | acceptFailed => simp [Action.isCalm] at quiet
      | _ => simp [Action.isOutbound] at other
    | request => simp [Action.isOutbound] at other
    | _ => rfl
  depends := by
    intro c c' a effects acts calm own
    cases acts with
    | moves move =>
      cases move with
      | call caller move => exact .moves (.call caller (move.withQueues [] []))
      | _ => simp [Action.isOutbound] at own
    | waits blocked =>
      refine .waits ?_
      cases blocked with
      | noCaller caller => exact .noCaller caller
      | answered caller stage => exact .answered caller stage
      | held caller stage opened => exact .held caller stage opened
      | untold caller unpublished => exact .untold caller unpublished
      | misplaced caller misplaced => exact .misplaced caller misplaced
      | _ => simp [Action.isOutbound] at own
    | request => exact .request
    | @event e =>
      cases e with
      | limitChanged | failureArranged | writesHeld => exact .event
      | _ => simp [Action.isOutbound] at own
    | pass => simp [Action.isOutbound] at own
  link := fun c => ⟨rfl, rfl⟩

theorem isPart_inbound : IsPart Core.inbound Action.isInbound where
  frame := by
    intro c c' a effects acts calm quiet other
    cases acts with
    | moves move =>
      cases move with
      | call caller move =>
        obtain ⟨rfl, payload, channel, -, send⟩ := calm.call caller move
        obtain ⟨closed, failure, datagrams, -⟩ := send.keeps
        simp [Core.inbound, closed, failure, datagrams, send.inbound.2]
      | _ => simp [Action.isInbound] at other
    | @event e =>
      cases e with
      | datagram | stream => simp [Action.isInbound] at other
      | peerClosed | broken | acceptFailed => simp [Action.isCalm] at quiet
      | _ => rfl
    | request | pass | waits => rfl
  depends := by
    intro c c' a effects acts calm own
    cases acts with
    | moves move =>
      cases move with
      | take reading opened queue => exact .moves (.take reading opened queue)
      | takeError reading opened queue => exact .moves (.takeError reading opened queue)
      | readClosed reading closed => exact .moves (.readClosed reading closed)
      | recordDatagram reader => exact .moves (.recordDatagram reader)
      | deliverDatagram reader => exact .moves (.deliverDatagram reader)
      | endReader ending => exact absurd calm.reader (by simp [ending, Reader.ending?])
      | accept accepting works opened queue => exact .moves (.accept accepting works opened queue)
      | acceptError accepting fails => exact .moves (.acceptError accepting fails)
      | join joining drained => exact .moves (.join joining drained)
      | endAcceptor ending => exact absurd calm.acceptor (by simp [ending])
      | drain drain move =>
        refine .moves (.drain drain ?_)
        cases move with
        | piece parts => exact .piece parts
        | complete parts ends => exact .complete parts ends
        | broken parts => exact .broken parts
        | cut parts stalls closed => exact .cut parts stalls closed
        | recordDelivered => exact .recordDelivered
        | recordDiscarded => exact .recordDiscarded
        | deliver => exact .deliver
      | call => simp [Action.isInbound] at own
    | waits blocked =>
      refine .waits ?_
      cases blocked with
      | noDatagram reading opened queue => exact .noDatagram reading opened queue
      | readerEnded reader => exact .readerEnded reader
      | noStream accepting works opened queue => exact .noStream accepting works opened queue
      | joining joining draining => exact .joining joining draining
      | acceptorEnded acceptor => exact .acceptorEnded acceptor
      | noDrain drain => exact .noDrain drain
      | stalled drain parts stalls opened => exact .stalled drain parts stalls opened
      | drained drain => exact .drained drain
      | _ => simp [Action.isInbound] at own
    | @event e =>
      cases e with
      | datagram | stream => exact .event
      | _ => simp [Action.isInbound] at own
    | request | pass => simp [Action.isInbound] at own
  link := fun c => ⟨rfl, rfl⟩

theorem IsPart.act {part : Core → Core} {own : Action → Bool} (is : IsPart part own)
    (same : part s₁.core = part s₂.core) (calm₁ : s₁.core.IsCalm) (calm₂ : s₂.core.IsCalm)
    (mine : own a = true) : part (s₁.act a).core = part (s₂.act a).core ∧
      visible (s₁.news a) = visible (s₂.news a) := by
  have acts₁ := is.depends (acts s₁ a) calm₁ mine
  have acts₂ := is.depends (acts s₂ a) calm₂ mine
  rw [same] at acts₁
  obtain ⟨closed, failure⟩ := is.link s₂.core
  exact acts₁.unique acts₂ (closed.trans calm₂.opened) (failure.trans calm₂.accepts)

theorem IsPart.run_filter {part : Core → Core} {own : Action → Bool} (is : IsPart part own)
    {actions : List Action} (quiet : ∀ a ∈ actions, a.isCalm = true)
    (same : part s₁.core = part s₂.core) (calm₁ : s₁.core.IsCalm) (calm₂ : s₂.core.IsCalm) :
    part (s₁.run actions).core = part (s₂.run (actions.filter own)).core ∧
      ∀ (α : Type) (f : Effect → Option α), (∀ e, e.isDiagnostic = true → f e = none) →
        ∀ t, own (.step t) = true → seenOf f t (s₁.chronicle actions) =
          seenOf f t (s₂.chronicle (actions.filter own)) := by
  induction actions generalizing s₁ s₂ with
  | nil => exact ⟨same, fun _ _ _ _ _ => rfl⟩
  | cons a rest ih =>
    have quietly := quiet a (by simp)
    have later : ∀ b ∈ rest, b.isCalm = true := fun b mem => quiet b (by simp [mem])
    have next := calm₁.acts (acts s₁ a) quietly
    cases mine : own a with
    | true =>
      obtain ⟨same', news⟩ := is.act same calm₁ calm₂ mine
      obtain ⟨ends, sees⟩ := ih later same' next (calm₂.acts (acts s₂ a) quietly)
      rw [List.filter_cons_of_pos mine]
      refine ⟨ends, fun α f blind t turn => ?_⟩
      have rests := sees α f blind t turn
      simp only [chronicle] at rests
      simp only [chronicle, along, seenOf_append, seenOf_newsByTask blind, news, rests]
    | false =>
      have framed := is.frame (acts s₁ a) calm₁ quietly mine
      obtain ⟨ends, sees⟩ := ih later (framed.trans same) next calm₂
      rw [List.filter_cons_of_neg (by simp [mine])]
      refine ⟨ends, fun α f blind t turn => ?_⟩
      have other : a ≠ .step t := by
        rintro rfl
        simp [turn] at mine
      have rests := sees α f blind t turn
      simp only [chronicle] at rests
      simp only [chronicle, along, seenOf_append, seenOf_newsByTask blind, seenIn_other f _ other,
        rests, List.nil_append]

theorem IsPart.run {part : Core → Core} {own : Action → Bool} (is : IsPart part own)
    {first : Session} (calm : first.core.IsCalm) {actions actions' : List Action}
    (quiet : ∀ a ∈ actions, a.isCalm = true) (quiet' : ∀ a ∈ actions', a.isCalm = true)
    (same : actions.filter own = actions'.filter own) :
    part (first.run actions).core = part (first.run actions').core ∧
      ∀ (α : Type) (f : Effect → Option α), (∀ e, e.isDiagnostic = true → f e = none) →
        ∀ t, own (.step t) = true → seenOf f t (first.chronicle actions) =
          seenOf f t (first.chronicle actions') := by
  obtain ⟨ends, sees⟩ := is.run_filter quiet rfl calm calm
  obtain ⟨ends', sees'⟩ := is.run_filter quiet' rfl calm calm
  rw [same] at ends sees
  exact ⟨ends.trans ends'.symm, fun α f blind t turn =>
    (sees α f blind t turn).trans (sees' α f blind t turn).symm⟩

theorem Acts.unclosed (h : Acts c a c' effects) (calm : c.IsCalm)
    (unclosed : ∀ notice, .close notice ∉ c.link.calls) :
    ∀ notice, .close notice ∉ c'.link.calls := by
  cases h with
  | moves move =>
    cases move with
    | endReader ending => exact absurd calm.reader (by simp [ending, Reader.ending?])
    | endAcceptor ending => exact absurd calm.acceptor (by simp [ending])
    | call caller move =>
      obtain ⟨-, payload, channel, -, send⟩ := calm.call caller move
      exact fun notice mem => unclosed notice (send.keeps.2.2.2 notice mem)
    | _ => exact unclosed
  | @event e => cases e <;> exact unclosed
  | _ => exact unclosed

theorem unclosed_run {first : Session} (calm : first.core.IsCalm)
    (unclosed : ∀ notice, .close notice ∉ first.link.calls) {actions : List Action}
    (quiet : ∀ a ∈ actions, a.isCalm = true) :
    ∀ notice, .close notice ∉ (first.run actions).link.calls := by
  induction actions generalizing first with
  | nil => exact unclosed
  | cons a rest ih =>
    have happens := acts first a
    exact ih (calm.acts happens (quiet a (by simp))) (happens.unclosed calm unclosed)
      fun b mem => quiet b (List.mem_cons_of_mem a mem)

/-! Callers that wait for one another -/

def Action.isErrand : Action → Bool
  | .request _ => true
  | .event (.limitChanged _) | .event (.failureArranged ..) | .event (.writesHeld _) => true
  | _ => false

/-- Every caller has its answer before anything else is asked or arranged, and in the end. -/
def isPrompt (s : Session) : List Action → Bool
  | [] => s.core.isAnswered
  | a :: rest => (!a.isErrand || s.core.isAnswered) && (s.act a).isPrompt rest

def Core.IsSingle (c : Core) : Prop :=
  ∀ (i j : Nat) (k k' : Caller), c.callers[i]? = some k → c.callers[j]? = some k' →
    k.reply? = none → k'.reply? = none → i = j

theorem Core.IsSingle.acts (single : c.IsSingle) (h : Acts c a c' effects)
    (prompt : a.isErrand = true → c.isAnswered = true) : c'.IsSingle := by
  intro i j k k' hk hk' open_ open'
  obtain ⟨k₁, before, waits⟩ | ⟨r, rfl, rfl⟩ := h.waiting hk open_
  · obtain ⟨k₂, before', waits'⟩ | ⟨r, rfl, rfl⟩ := h.waiting hk' open'
    · exact single i j k₁ k₂ before before' waits waits'
    · exact absurd waits (Core.answer (prompt rfl) before)
  · obtain ⟨k₂, before', waits'⟩ | ⟨-, -, rfl⟩ := h.waiting hk' open'
    · exact absurd waits' (Core.answer (prompt rfl) before')
    · rfl

/-- The action is an errand, or the turn of a caller that waits for its answer. -/
def Core.IsStirredBy (c : Core) (a : Action) : Prop :=
  a.isErrand = true ∨
    ∃ number k, a = .step (.caller number) ∧ c.callers[number]? = some k ∧ k.reply? = none

theorem Acts.idle_or_stirs (h : Acts c a c' effects) (calm : c.IsCalm) (quiet : a.isCalm = true) :
    (a.isErrand = false ∧ c'.outbound = c.outbound) ∨ c.IsStirredBy a := by
  cases plain : a.isErrand with
  | true => exact .inr (.inl plain)
  | false =>
    cases own : a.isOutbound with
    | false => exact .inl ⟨rfl, isPart_outbound.frame h calm quiet own⟩
    | true =>
      cases h with
      | moves move =>
        cases move with
        | call caller move =>
          exact .inr (.inr ⟨_, _, rfl, caller, reply?_eq_none fun r => move.not_answered⟩)
        | _ => simp [Action.isOutbound] at own
      | waits => exact .inl ⟨rfl, rfl⟩
      | request => simp [Action.isErrand] at plain
      | @event e => cases e <;> simp [Action.isOutbound, Action.isErrand] at own plain
      | pass => simp [Action.isOutbound] at own

theorem Core.IsStirredBy.isOutbound (h : c.IsStirredBy a) : a.isOutbound = true := by
  obtain errand | ⟨number, k, rfl, -⟩ := h
  · unfold Action.isErrand at errand
    split at errand <;> first | rfl | simp at errand
  · rfl

theorem Core.IsStirredBy.not_answered (h : c.IsStirredBy a) (answered : c.isAnswered = true) :
    a.isErrand = true := by
  refine h.resolve_right ?_
  rintro ⟨number, k, -, caller, open_⟩
  exact Core.answer answered caller open_

/-- Of what stirs a core, the errands to come fix which it is. -/
theorem Core.IsStirredBy.unique {b : Action} {rest rest' : List Action} (ha : c.IsStirredBy a)
    (hb : c.IsStirredBy b) (single : c.IsSingle) (prompt : a.isErrand = true → c.isAnswered = true)
    (prompt' : b.isErrand = true → c.isAnswered = true)
    (errands : (a :: rest).filter Action.isErrand = (b :: rest').filter Action.isErrand) :
    a = b ∧ rest.filter Action.isErrand = rest'.filter Action.isErrand := by
  by_cases answered : c.isAnswered = true
  · rw [List.filter_cons_of_pos (ha.not_answered answered),
      List.filter_cons_of_pos (hb.not_answered answered)] at errands
    exact List.cons.inj errands
  · obtain ⟨i, k, rfl, caller, open_⟩ := ha.resolve_left fun errand => answered (prompt errand)
    obtain ⟨j, k', rfl, caller', open'⟩ := hb.resolve_left fun errand => answered (prompt' errand)
    obtain rfl := single i j k k' caller caller' open_ open'
    exact ⟨rfl, errands⟩

structure TakesTurns (s : Session) (actions : List Action) : Prop where
  calm : s.core.IsCalm
  single : s.core.IsSingle
  quiet : ∀ a ∈ actions, a.isCalm = true
  prompt : s.isPrompt actions = true

theorem TakesTurns.answered {rest : List Action} (h : TakesTurns s (a :: rest))
    (errand : a.isErrand = true) : s.core.isAnswered = true := by
  have prompt := h.prompt
  simp only [isPrompt, errand, Bool.not_true, Bool.false_or, Bool.and_eq_true] at prompt
  exact prompt.1

theorem TakesTurns.act {rest : List Action} (h : TakesTurns s (a :: rest)) : TakesTurns (s.act a) rest where
  calm := h.calm.acts (acts s a) (h.quiet a List.mem_cons_self)
  single := h.single.acts (acts s a) h.answered
  quiet := fun b mem => h.quiet b (List.mem_cons_of_mem a mem)
  prompt := by
    have prompt := h.prompt
    rw [isPrompt, Bool.and_eq_true] at prompt
    exact prompt.2

def IsIdle (s : Session) (actions : List Action) : Prop :=
  ∃ a rest, actions = a :: rest ∧ a.isErrand = false ∧ (s.act a).core.outbound = s.core.outbound

theorem TakesTurns.stirs {rest : List Action} (h : TakesTurns s (a :: rest))
    (busy : ¬ s.IsIdle (a :: rest)) : s.core.IsStirredBy a :=
  ((acts s a).idle_or_stirs h.calm (h.quiet a List.mem_cons_self)).resolve_left
    fun idle => busy ⟨a, rest, rfl, idle⟩

/-- Where the callers wait for one another, what goes out depends on the errands alone, and not on
when the turns of the callers come. -/
theorem outbound_of_errands {actions actions' : List Action} (h₁ : TakesTurns s₁ actions)
    (h₂ : TakesTurns s₂ actions') (same : s₁.core.outbound = s₂.core.outbound)
    (errands : actions.filter Action.isErrand = actions'.filter Action.isErrand) :
    (s₁.run actions).core.outbound = (s₂.run actions').core.outbound := by
  induction hn : actions.length + actions'.length using Nat.strongRecOn
    generalizing s₁ s₂ actions actions' with
  | ind n ih =>
    subst hn
    -- Either run goes on alone while what it does changes nothing of what goes out.
    by_cases idle₁ : s₁.IsIdle actions
    · obtain ⟨a, rest, rfl, plain, kept⟩ := idle₁
      rw [List.filter_cons_of_neg (by simp [plain])] at errands
      have later := ih (rest.length + actions'.length) (by simp) h₁.act h₂ (kept.trans same)
        errands rfl
      exact later
    by_cases idle₂ : s₂.IsIdle actions'
    · obtain ⟨a, rest, rfl, plain, kept⟩ := idle₂
      rw [List.filter_cons_of_neg (by simp [plain])] at errands
      have later := ih (actions.length + rest.length) (by simp) h₁ h₂.act (same.trans kept.symm)
        errands rfl
      exact later
    -- So the next action of each, if there is one, stirs what both have in common.
    have callers : s₁.core.callers = s₂.core.callers := (congrArg Core.callers same :)
    have answers : s₁.core.isAnswered = s₂.core.isAnswered := by
      rw [Core.isAnswered, Core.isAnswered, callers]
    have stirs₂ {a : Action} {rest : List Action} (head : actions' = a :: rest) :
        s₁.core.IsStirredBy a := by
      subst head
      rw [Core.IsStirredBy, callers]
      exact h₂.stirs idle₂
    cases actions with
    | nil =>
      cases actions' with
      | nil => exact same
      | cons b rest' => simp [(stirs₂ rfl).not_answered h₁.prompt] at errands
    | cons a rest =>
      have stirs₁ := h₁.stirs idle₁
      cases actions' with
      | nil => simp [stirs₁.not_answered (answers.trans h₂.prompt)] at errands
      | cons b rest' =>
        obtain ⟨rfl, left⟩ := stirs₁.unique (stirs₂ rfl) h₁.single h₁.answered
          (fun errand => answers.trans (h₂.answered errand)) errands
        have later := ih (rest.length + rest'.length) (by simp; omega) h₁.act h₂.act
          (isPart_outbound.act same h₁.calm h₂.calm stirs₁.isOutbound).1 left rfl
        exact later

/-! What has arrived where all is quiet -/

theorem hanging_run (id : ConnectionId) (options : Options) (limit : Option Nat)
    (registry : Trace.Registry) (clock : Nat) {actions : List Action}
    (quiet : ∀ a ∈ actions, a.isCalm = true) :
    let first := spawn id options (.new limit) registry clock
    Hanging (first.run actions).core (acceptedIn first actions) := by
  intro first
  refine run_induction (P := fun actions s => (∀ a ∈ actions, a.isCalm = true) →
    Hanging s.core (acceptedIn first actions)) ?_ ?_ actions quiet
  · intro _ number stream d hs
    simp [acceptedIn, along] at hs
  · intro actions a h quiet
    have before : ∀ b ∈ actions, b.isCalm = true := fun b mem => quiet b (by simp [mem])
    have delivered := delivered_run id options (.new limit) registry clock actions
    have calm := isCalm_run (isCalm_spawn id options limit registry clock) before
    rw [acceptedIn, along_concat]
    exact (h before).acts delivered.drains.length (Session.acts (first.run actions) a) calm.opened

structure HasArrived (first : Session) (actions : List Action) : Prop where
  datagrams : (messagesOf .reader first actions).map .ok = injectedDatagrams first actions
  messages : (streamMessages first actions).Perm
    ((injectedStreams first actions).filterMap InboundStream.message?)
  discards : (streamDiscards first actions).Perm
    ((injectedStreams first actions).filterMap InboundStream.discard?)

theorem hasArrived (id : ConnectionId) (options : Options) (limit : Option Nat)
    (registry : Trace.Registry) (clock : Nat) {actions : List Action}
    (calmly : ∀ a ∈ actions, a.isCalm = true)
    (quiet : ((spawn id options (.new limit) registry clock).run actions).isQuiet = true) :
    HasArrived (spawn id options (.new limit) registry clock) actions := by
  have calm := isCalm_run (isCalm_spawn id options limit registry clock) calmly
  have delivered := delivered_run id options (.new limit) registry clock actions
  obtain ⟨datagrams, accepted, -⟩ := delivered.of_quiet quiet calm.reader calm.acceptor
  have hanging := hanging_run id options limit registry clock calmly
  have spent (number : Nat) (stream : InboundStream) (d : Drain)
      (hs : (acceptedIn (spawn id options (.new limit) registry clock) actions)[number]? =
        some stream)
      (hd : ((spawn id options (.new limit) registry clock).run actions).drains[number]? = some d) :
      IsSpent stream d := by
    cases hangs : stream.hangs with
    | true => exact .inr ⟨hanging number stream d hs hd hangs, hangs⟩
    | false =>
      have holds := delivered.drains.holds number stream d hs hd
      refine .inl ⟨(Drain.ended_or_hangs quiet hd).resolve_right fun hung => ?_, hangs⟩
      simp [holds.hangs hung] at hangs
  obtain ⟨messages, discards⟩ := arrived id options (.new limit) registry clock actions spent
  rw [accepted] at messages discards
  exact ⟨datagrams, messages, discards⟩

/-- What two runs that nobody ends have in common, where they agree in one direction. -/
structure Apart (first : Session) (actions actions' : List Action) : Prop where
  running : (first.run actions).state = .running ∧ (first.run actions).link.closed = none ∧
    ∀ notice, .close notice ∉ (first.run actions).link.calls
  inbound : actions.filter Action.isInbound = actions'.filter Action.isInbound →
    (first.run actions).reader = (first.run actions').reader ∧
      (first.run actions).drains = (first.run actions').drains ∧
      ∀ t, t = .reader ∨ t.isDrain = true →
        messagesOf t first actions = messagesOf t first actions' ∧
          discardsOf t first actions = discardsOf t first actions'
  /-- Whatever the order of the turns, where all is quiet it is what came in that counts. -/
  arrivals : (first.run actions).isQuiet = true → (first.run actions').isQuiet = true →
    actions.filterMap Action.datagram? = actions'.filterMap Action.datagram? →
    actions.filterMap Action.stream? = actions'.filterMap Action.stream? →
      messagesOf .reader first actions = messagesOf .reader first actions' ∧
        (streamMessages first actions).Perm (streamMessages first actions') ∧
        (streamDiscards first actions).Perm (streamDiscards first actions')
  outbound : actions.filter Action.isOutbound = actions'.filter Action.isOutbound →
    (first.run actions).callers = (first.run actions').callers ∧
      (first.run actions).link.calls = (first.run actions').link.calls
  /-- Where the callers wait for one another, the order of their turns does not count either. -/
  errands : first.isPrompt actions = true → first.isPrompt actions' = true →
    actions.filter Action.isErrand = actions'.filter Action.isErrand →
    (first.run actions).callers = (first.run actions').callers ∧
      (first.run actions).link.calls = (first.run actions').link.calls

theorem callers_of_outbound (same : c.outbound = c'.outbound) :
    c.callers = c'.callers ∧ c.link.calls = c'.link.calls :=
  ⟨(congrArg Core.callers same :), (congrArg (·.link.calls) same :)⟩

/-- As long as nobody ends a session, its two directions have nothing to do with one another. -/
theorem directions_apart (id : ConnectionId) (options : Options) (limit : Option Nat)
    (registry : Trace.Registry) (clock : Nat) (actions actions' : List Action)
    (calm : actions.all Action.isCalm = true) (calm' : actions'.all Action.isCalm = true) :
    Apart (spawn id options (.new limit) registry clock) actions actions' := by
  have calmly := List.all_eq_true.1 calm
  have calmly' := List.all_eq_true.1 calm'
  have start := isCalm_spawn id options limit registry clock
  have arrived := hasArrived id options limit registry clock calmly
  have arrived' := hasArrived id options limit registry clock calmly'
  have core := core_spawn id options (.new limit) registry clock
  generalize spawn id options (.new limit) registry clock = first at *
  exact {
    running := by
      have ends := isCalm_run start calmly
      refine ⟨ends.running, ends.opened, unclosed_run start ?_ calmly⟩
      intro notice mem
      rw [show first.link = .new limit from congrArg Core.link core] at mem
      simp [Link.new] at mem
    inbound := by
      intro same
      obtain ⟨ends, sees⟩ := isPart_inbound.run start calmly calmly' same
      refine ⟨(congrArg Core.reader ends :), (congrArg Core.drains ends :), fun t turn => ?_⟩
      have own : Action.isInbound (.step t) = true := by
        cases t <;> simp_all [Action.isInbound, Task.isDrain]
      exact ⟨sees _ _ (fun _ => message?_of_isDiagnostic) t own,
        sees _ _ (fun _ => discard?_of_isDiagnostic) t own⟩
    arrivals := by
      intro quiet quiet' datagrams streams
      have h := arrived quiet
      have h' := arrived' quiet'
      have same : injectedDatagrams first actions = injectedDatagrams first actions' := by
        rw [injectedDatagrams, injectedDatagrams, datagrams]
      have same' : injectedStreams first actions = injectedStreams first actions' := by
        rw [injectedStreams, injectedStreams, streams]
      refine ⟨?_, ?_, ?_⟩
      · have handed := h.datagrams.trans (same.trans h'.datagrams.symm)
        exact (List.map_inj_right fun _ _ => Except.ok.inj).1 handed
      · exact h.messages.trans (same' ▸ h'.messages.symm)
      · exact h.discards.trans (same' ▸ h'.discards.symm)
    outbound := fun same =>
      callers_of_outbound (isPart_outbound.run start calmly calmly' same).1
    errands := by
      intro prompt prompt' same
      have single : first.core.IsSingle := by
        intro i j k k' caller
        simp [core] at caller
      have turns : TakesTurns first actions := ⟨start, single, calmly, prompt⟩
      have turns' : TakesTurns first actions' := ⟨start, single, calmly', prompt'⟩
      exact callers_of_outbound (outbound_of_errands turns turns' rfl same) }

def itemsArrive : List Action :=
  [.event (.datagram (.ok [1])), .event (.stream ⟨[.ok [2], .ok [3]], false⟩), .step .reader,
    .step .acceptor, .step .reader, .step (.drain 0), .step .reader] ++
    List.replicate 4 (.step (.drain 0))

def sendFails : List Action :=
  [.event (.failureArranged .sendDatagram .locallyClosed), .request (.send [7])] ++
    List.replicate 3 (.step (.caller 0))

theorem directions_apart_sendFails :
    let first := spawn (.ofNumber 2) .server (.new (some 9)) untraced 0
    let early := sendFails ++ itemsArrive
    let late := itemsArrive ++ sendFails
    early.all Action.isCalm = true ∧ late.all Action.isCalm = true ∧
      (first.run early).isQuiet = true ∧ first.isPrompt early = true ∧
      (first.run early).callers = (first.run late).callers ∧
      ((first.run early).callers[0]?.bind Caller.reply?) = some (.failed .closed) ∧
      (first.run early).state = .running ∧
      messagesOf .reader first early = messagesOf .reader first late ∧
      messagesOf .reader first early = [[1]] ∧
      (streamMessages first early).Perm (streamMessages first late) ∧
      streamMessages first early = [[2, 3]] := by
  intro first early late
  have calm : early.all Action.isCalm = true := rfl
  have calm' : late.all Action.isCalm = true := rfl
  have quiet : (first.run early).isQuiet = true := by decide +kernel
  have quiet' : (first.run late).isQuiet = true := by decide +kernel
  have prompt : first.isPrompt early = true := by decide +kernel
  have prompt' : first.isPrompt late = true := by decide +kernel
  have apart : Apart first early late :=
    directions_apart (.ofNumber 2) .server (some 9) untraced 0 early late calm calm'
  obtain ⟨datagrams, streams, -⟩ := apart.arrivals quiet quiet' rfl rfl
  exact ⟨calm, calm', quiet, prompt, (apart.errands prompt prompt' rfl).1, by decide +kernel,
    apart.running.1, datagrams, by decide +kernel, streams, by decide +kernel⟩

end MessageTunnel.Session
