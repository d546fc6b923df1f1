import MessageTunnel.Proofs.Session.Losses
import MessageTunnel.Proofs.Session.Rest
import MessageTunnel.Proofs.Session.RoundTrip
/-!
A session that begins to close comes to its end. Whoever begins the closing closes the connection
with its next step, unless the connection was what ended the loop; a closed connection ends all
reads, so that both loops leave. Left alone, the session comes to rest, and by then they have left.
-/
set_option autoImplicit false

namespace MessageTunnel

theorem Link.read_of_closed {l : Link} (closed : l.closed.isSome = true) (s : InboundStream) :
    (l.read s).isSome = true := by
  unfold Link.read
  split
  · rfl
  · rfl
  · split <;> simp [closed]

namespace Session

variable {id : ConnectionId} {loop : Log.InboundLoop} {sh sh' : Shutdown} {l l' : Link}
  {stage stage' : Ending} {k : Caller} {c c' : Core} {s : Session} {t : Task} {a : Action}
  {effects : List Effect} {begun : List (Task × CloseReason)} {reason : CloseReason}

/-- An error that says the connection was closed in agreement is put in the way of a loop though
the connection is open. -/
def misleading (s : Session) (a : Action) : List TransportError :=
  if s.link.closed = none then a.loss?.toList.filter (·.isCooperative) else []

def misledBy (first : Session) (actions : List Action) : List TransportError :=
  along misleading first actions

/-- As long as the connection is open, a loop can only meet faults. -/
def Core.IsHonest (c : Core) : Prop :=
  c.link.closed = none → ∀ e, c.Loses e → e.disposition = .fault

theorem Core.IsHonest.acts (h : c.IsHonest) (acts : Acts c a c' effects)
    (leads : c.link.closed = none → ∀ e, a.loss? = some e → e.disposition = .fault) :
    c'.IsHonest := by
  intro opened e loses
  have before : c.link.closed = none := by
    rw [acts.closed_eq, Option.or_eq_none_iff] at opened
    exact opened.1
  obtain old | closed | new := acts.loses loses
  · exact h before e old
  · simp [before] at closed
  · exact leads before e new

theorem Acts.hangsUp (h : Acts c a c' effects) (hangs : c.hangsUp t = true) :
    c'.link.closed.isSome = true ∨ c'.hangsUp t = true := by
  by_cases turn : a = .step t
  · subst turn
    refine .inl ?_
    rw [h.closed_eq, Core.closes?, if_pos hangs]
    cases c.link.closed <;> rfl
  · refine .inr ?_
    cases t with
    | reader => simpa [Core.hangsUp, h.reader_eq turn] using hangs
    | acceptor => simpa [Core.hangsUp, h.acceptor_eq turn] using hangs
    | drain number => simp [Core.hangsUp] at hangs
    | caller number =>
      cases hk : c.callers[number]? with
      | none => simp [Core.hangsUp, hk] at hangs
      | some k =>
        obtain ⟨-, same⟩ | ⟨same, -⟩ | ⟨same, -⟩ := h.caller hk
        · simpa [Core.hangsUp, hk, same] using hangs
        · exact absurd same turn
        · exact absurd same turn

/-- A loop that begins the closing closes the connection next, or has found it closed. -/
theorem EndMove.began (move : EndMove id loop sh l stage sh' l' stage' effects)
    (running : sh.state = .running) (called : reason ∈ stage.call?)
    (honest : l.closed = none → ∀ e, stage = .classify e → e.disposition = .fault) :
    l'.closed.isSome = true ∨ stage' = .hangUp := by
  cases move with
  | beginQuiet _ quiet =>
    refine .inl ?_
    cases closed : l.closed with
    | none => simp [honest closed _ rfl] at quiet
    | some e => rfl
  | beginFault => exact .inr rfl
  | late closing => exact absurd running closing
  | _ => simp [Ending.call?] at called

theorem Core.IsHonest.began (h : c.IsHonest) (acts : Acts c a c' effects)
    (mem : (t, reason) ∈ c.beganBy a) : c'.link.closed.isSome = true ∨ c'.hangsUp t = true := by
  cases a with
  | step t' =>
    obtain ⟨taken, took, same⟩ := List.mem_map.1 mem
    obtain ⟨rfl, rfl⟩ := Prod.mk.inj same
    rw [took_eq] at took
    split at took
    · rename_i running
      have called := Option.mem_toList.1 took
      cases acts with
      | moves move =>
        cases move with
        | endReader reader move =>
          simp only [Core.call?, reader, Reader.ending?, Option.bind_some] at called
          refine (move.began running called fun opened e he => ?_).imp_right fun next => ?_
          · exact h opened e (.reader (by rw [reader, he]; rfl))
          · simp [Core.hangsUp, next]
        | endAcceptor acceptor move =>
          simp only [Core.call?, acceptor, Acceptor.ending?, Option.bind_some] at called
          refine (move.began running called fun opened e he => ?_).imp_right fun next => ?_
          · exact h opened e (.acceptor (by rw [acceptor, he]; rfl))
          · simp [Core.hangsUp, next]
        | take reading | takeError reading | readClosed reading =>
          simp [Core.call?, reading, Reader.ending?] at called
        | recordDatagram reader | deliverDatagram reader =>
          simp [Core.call?, reader, Reader.ending?] at called
        | accept accepting | acceptError accepting =>
          simp [Core.call?, accepting, Acceptor.ending?] at called
        | join joining => simp [Core.call?, joining, Acceptor.ending?] at called
        | drain => simp [Core.call?] at called
        | call caller move =>
          have less := (List.getElem?_eq_some_iff.1 caller).1
          cases move with
          | stopFirst => exact .inr (by simp [Core.hangsUp, less])
          | stopLate closing => exact absurd running closing
          | send out =>
            rw [call?_caller caller (by rintro rfl; simp [Request.outgoing?] at out)] at called
            simp at called
          | _ => simp [call?_caller caller] at called
      | waits blocked => simp [call?_of_blocked blocked] at called
    · simp at took
  | _ => simp [Core.beganBy] at mem

structure Sound (c : Core) (begun : List (Task × CloseReason)) : Prop where
  honest : c.IsHonest
  hangingUp : ∀ b ∈ begun, c.link.closed.isSome = true ∨ c.hangsUp b.1 = true

theorem Sound.acts (h : Sound c begun) (acts : Acts c a c' effects)
    (leads : c.link.closed = none → ∀ e, a.loss? = some e → e.disposition = .fault) :
    Sound c' (begun ++ c.beganBy a) where
  honest := h.honest.acts acts leads
  hangingUp := by
    rintro ⟨t, reason⟩ mem
    obtain old | new := List.mem_append.1 mem
    · obtain closed | hangs := h.hangingUp _ old
      · obtain ⟨e, he⟩ := Option.isSome_iff_exists.1 closed
        exact .inl (by simp [acts.closed_stays he])
      · exact acts.hangsUp hangs
    · exact h.honest.began acts new

theorem mem_misleading {e : TransportError} (opened : s.link.closed = none)
    (loss : a.loss? = some e) (fair : misleading s a = []) : e.disposition = .fault := by
  rw [misleading, if_pos opened, loss, List.filter_eq_nil_iff] at fair
  cases he : e.disposition with
  | fault => rfl
  | cooperative => simp [TransportError.isCooperative, he] at fair

theorem sound_run {first : Session} (honest : first.core.IsHonest) (actions : List Action)
    (fair : misledBy first actions = []) :
    Sound (first.run actions).core (begunBy first actions) := by
  refine run_induction (P := fun actions s => misledBy first actions = [] →
    Sound s.core (begunBy first actions)) ?_ ?_ actions fair
  · exact fun _ => ⟨honest, by simp [begunBy, along]⟩
  · intro actions a h fair
    rw [misledBy, along_concat, List.append_eq_nil_iff] at fair
    rw [begunBy, along_concat]
    exact (h fair.1).acts (acts (first.run actions) a) fun opened e loss =>
      mem_misleading opened loss fair.2

theorem Sound.exists_began {first : Session} {actions : List Action} {calls : List CloseReason}
    {known : List Effect} (h : Sound (first.run actions).core (begunBy first actions))
    (closing : Closing (first.run actions).core calls (begunFor first actions) known)
    (ends : (first.run actions).state ≠ .running) : ∃ t reason,
      begunBy first actions = [(t, reason)] ∧ ((first.run actions).link.closed.isSome = true ∨
        (first.run actions).core.hangsUp t = true) := by
  cases reasoned : (first.run actions).core.shutdown.reason with
  | none => exact absurd (closing.closure.running_iff.2 reasoned) ends
  | some reason =>
    have snd := begunBy_snd first actions
    rw [closing.taken_eq, reasoned, Option.toList_some, List.map_eq_singleton_iff] at snd
    obtain ⟨⟨t, given⟩, begun, rfl⟩ := snd
    exact ⟨t, given, begun, h.hangingUp (t, given) (by simp [begun])⟩

theorem misledBy_append (first : Session) (actions : List Action) {more : List Action}
    (lossless : ∀ a ∈ more, a.loss? = none) :
    misledBy first (actions ++ more) = misledBy first actions := by
  have silent (s : Session) : along misleading s more = [] := by
    induction more generalizing s with
    | nil => rfl
    | cons a rest ih =>
      obtain ⟨none, later⟩ := List.forall_mem_cons.1 lossless
      simp [along, misleading, none, ih later]
  rw [misledBy, along_append, silent, List.append_nil, misledBy]

theorem misledBy_turns (first : Session) (actions : List Action) (turns : List Task) :
    misledBy first (actions ++ turns.map .step) = misledBy first actions :=
  misledBy_append first actions (by simp [Action.loss?])

theorem reader_at_rest (quiet : s.isQuiet = true) :
    (s.reader = .reading ∧ s.link.closed = none) ∨ s.reader = .ending .ended := by
  cases blocked_at_rest quiet .reader with
  | noDatagram reading opened => exact .inl ⟨reading, opened⟩
  | readerEnded reader => exact .inr reader

theorem drains_at_rest (quiet : s.isQuiet = true) (closed : s.link.closed.isSome = true) :
    s.core.drains.all Drain.isEnded = true := by
  refine List.all_eq_true.2 fun d mem => ?_
  obtain ⟨number, hd⟩ := List.getElem?_of_mem mem
  cases blocked_at_rest quiet (.drain number) with
  | noDrain drain => simp [hd] at drain
  | stalled drain parts stalls opened => simp [show s.link.closed = none from opened] at closed
  | drained drain =>
    obtain rfl := Option.some.inj (hd.symm.trans drain)
    rfl

theorem acceptor_at_rest (quiet : s.isQuiet = true) (closed : s.link.closed.isSome = true) :
    s.acceptor = .ending .ended := by
  cases blocked_at_rest quiet .acceptor with
  | noStream accepting works opened =>
    simp [show s.link.closed = none from opened] at closed
  | joining joining draining => simp [drains_at_rest quiet closed] at draining
  | acceptorEnded acceptor => exact acceptor

/-- Who still waits for an answer is held by the transport, or waits for the end. -/
theorem caller_at_rest {number : Nat} (quiet : s.isQuiet = true)
    (caller : s.callers[number]? = some k) (fit : k.isFit = true) :
    (∃ reply, k.stage = .replied reply) ∨ (∃ e, k.stage = .sending (.held e)) ∨
      (k = ⟨.awaitClosed, .asked⟩ ∧ s.shutdown.published = none) := by
  cases blocked_at_rest quiet (.caller number) with
  | noCaller absent => exact absurd (caller.symm.trans absent) (by simp)
  | @answered _ k' reply there replied =>
    obtain rfl := Option.some.inj (caller.symm.trans there)
    exact .inl ⟨reply, replied⟩
  | @held _ k' e there sending =>
    obtain rfl := Option.some.inj (caller.symm.trans there)
    exact .inr (.inl ⟨e, sending⟩)
  | untold there unpublished =>
    exact .inr (.inr ⟨Option.some.inj (caller.symm.trans there), unpublished⟩)
  | @misplaced _ k' there misplaced =>
    obtain rfl := Option.some.inj (caller.symm.trans there)
    obtain ⟨request, stage⟩ := k
    cases request <;> cases stage <;> simp [Caller.isMisplaced, Caller.isFit] at misplaced fit

structure IsAtWork (s : Session) : Prop where
  state : s.state = .running
  opened : s.link.closed = none
  loops : s.shutdown.liveLoops = 2
  reader : s.reader = .reading
  acceptor : s.acceptor = .accepting ∨ ∃ e, s.acceptor = .joining e

structure IsOver (s : Session) (reason : CloseReason) : Prop where
  state : s.state = .closed
  reader : s.reader = .ending .ended
  acceptor : s.acceptor = .ending .ended
  host : s.history.filterMap Effect.closeReason? = [reason]
  waiters : ∀ k ∈ s.callers, k.request = .awaitClosed → k.stage = .replied (.closed reason)

theorem isAtWork_of_quiet {calls taken : List CloseReason} {known : List Effect}
    (h : Closing s.core calls taken known) (quiet : s.isQuiet = true)
    (running : s.state = .running) : s.IsAtWork := by
  obtain ⟨reader, acceptor⟩ := ending?_of_quiet h quiet running
  have live := h.closure.live
  rw [show s.core.reader.ending? = _ from reader, show s.core.acceptor.ending? = _ from acceptor]
    at live
  obtain ⟨reading, opened⟩ | ended := reader_at_rest quiet
  · refine ⟨running, opened, live, reading, ?_⟩
    cases hs : s.acceptor with
    | accepting => exact .inl rfl
    | joining e => exact .inr ⟨e, rfl⟩
    | ending stage => simp [hs, Acceptor.ending?] at acceptor
  · simp [ended, Reader.ending?] at reader

theorem isOver_of_quiet {calls taken : List CloseReason} {known : List Effect}
    (h : Closing s.core calls taken known) (history : known = s.history.filter Effect.isClosing)
    (fit : ∀ k ∈ s.callers, k.isFit = true) (quiet : s.isQuiet = true)
    (closed : s.link.closed.isSome = true) : ∃ reason, s.IsOver reason := by
  have reader : s.reader = .ending .ended := by
    obtain ⟨-, opened⟩ | ended := reader_at_rest quiet
    · simp [opened] at closed
    · exact ended
  have acceptor := acceptor_at_rest quiet closed
  obtain ⟨state, reason, published⟩ := h.published_of_ended reader acceptor
  refine ⟨reason, state, reader, acceptor, ?_, fun k mem waits => ?_⟩
  · rw [filterMap_closeReason?, ← history, (h.of_published published).2]
    rfl
  · obtain ⟨request, stage⟩ := k
    obtain rfl : request = .awaitClosed := waits
    have fits := fit _ mem
    obtain ⟨number, hk⟩ := List.getElem?_of_mem mem
    obtain ⟨reply, rfl⟩ | ⟨e, rfl⟩ | ⟨-, unpublished⟩ := caller_at_rest quiet hk fits
    · cases reply with
      | closed told =>
        obtain rfl := Option.some.inj ((h.told _ mem told rfl).symm.trans published)
        rfl
      | _ => simp [Caller.isFit] at fits
    · simp [Caller.isFit] at fits
    · exact absurd (published.symm.trans unpublished) (by simp)

/-- A session that is not misled rests only at work or at its end. -/
theorem atWork_or_over (id : ConnectionId) (options : Options) (link : Link)
    (registry : Trace.Registry) (clock : Nat) (actions : List Action)
    (honest : (spawn id options link registry clock).core.IsHonest)
    (fair : misledBy (spawn id options link registry clock) actions = [])
    (quiet : ((spawn id options link registry clock).run actions).isQuiet = true) :
    ((spawn id options link registry clock).run actions).IsAtWork ∨
      ∃ reason, ((spawn id options link registry clock).run actions).IsOver reason := by
  have closing := closing_run id options link registry clock actions
  have fresh := callers_spawn id options link registry clock
  have sound := sound_run honest actions fair
  by_cases running : ((spawn id options link registry clock).run actions).state = .running
  · exact .inl (isAtWork_of_quiet closing quiet running)
  · obtain ⟨t, reason, -, closed | hangs⟩ := sound.exists_began closing running
    · exact .inr (isOver_of_quiet closing rfl (fit_run fresh actions) quiet closed)
    · simp [hangsUp_of_blocked (blocked_at_rest quiet t)] at hangs

/-- How a session comes to its end that started as `first`, seen after some actions. -/
structure Converges (first : Session) (actions : List Action) : Prop where
  /-- It never rests on its way out. -/
  quiet : (first.run actions).isQuiet = true →
    (first.run actions).IsAtWork ∨ ∃ reason, (first.run actions).IsOver reason
  closing : (first.run actions).state = .closing →
    (first.run actions).link.closed.isSome = true ∨
      ∃ t reason, begunBy first actions = [(t, reason)] ∧
        (first.run actions).core.hangsUp t = true ∧ (first.run actions).canStep t = true
  reads : ∀ stream, (first.run actions).link.closed.isSome = true →
    ((first.run actions).link.read stream).isSome = true
  /-- Whatever turns are taken first, it comes to its end when it is left alone. -/
  ends : (first.run actions).state ≠ .running → ∀ turns,
    ((first.run actions).taken turns).length ≤ (first.run actions).core.work ∧
      ∃ more reason, ((first.run actions).alone (turns ++ more)).IsOver reason

theorem canStep_of_hangsUp (hangs : s.core.hangsUp t = true) : s.canStep t = true :=
  canStep_of_not_blocked fun blocked => by simp [hangsUp_of_blocked blocked] at hangs

/-- If no loop is told of a closing in agreement while the connection is open, a session is always
at work, on its way to the end or there. It rests only at work or at the end, and left alone on its
way it gets there. -/
theorem converges (id : ConnectionId) (options : Options) (link : Link)
    (registry : Trace.Registry) (clock : Nat) (actions : List Action)
    (honest : (spawn id options link registry clock).core.IsHonest)
    (fair : misledBy (spawn id options link registry clock) actions = []) :
    Converges (spawn id options link registry clock) actions := by
  have closing := closing_run id options link registry clock actions
  have sound := sound_run honest actions fair
  have rests (more : List Action) := atWork_or_over id options link registry clock more honest
  generalize spawn id options link registry clock = first at *
  exact {
    quiet := rests actions fair
    closing := by
      intro state
      obtain ⟨t, reason, begun, closed | hangs⟩ := sound.exists_began closing (by simp [state])
      · exact .inl closed
      · exact .inr ⟨t, reason, begun, hangs, canStep_of_hangsUp hangs⟩
    reads := fun stream closed => Link.read_of_closed closed stream
    ends := by
      intro state turns
      refine ⟨Nat.le_of_add_left_le (work_alone (first.run actions) turns), ?_⟩
      -- Where it comes to rest it is not at work, since it has begun to close.
      obtain ⟨more, quiet⟩ := exists_rest ((first.run actions).alone turns)
      have all : ((first.run actions).alone turns).alone more =
          first.run (actions ++ (turns ++ more).map .step) := by
        rw [← alone_append, alone, run_append]
      refine ⟨more, ?_⟩
      rw [alone_append, all]
      rw [all] at quiet
      obtain working | ended := rests _ (by rw [misledBy_turns, fair]) quiet
      · have stays := closing_stays state ((turns ++ more).map .step)
        rw [← run_append] at stays
        exact absurd working.state stays
      · exact ended }

theorem isHonest_spawn (id : ConnectionId) (options : Options) (limit : Option Nat)
    (registry : Trace.Registry) (clock : Nat) :
    (spawn id options (.new limit) registry clock).core.IsHonest :=
  fun _ _ loses => absurd loses (not_loses_spawn id options limit registry clock)

def faultAtReader : List Action :=
  [.request .awaitClosed, .event (.stream ⟨[.ok [1]], true⟩), .step .acceptor, .step (.drain 0),
    .event (.datagram (.error (.fault "read" "lost"))), .step .reader, .step .reader]

def itsEnd : List Action :=
  List.replicate 2 (.step .reader) ++ .step .acceptor :: List.replicate 2 (.step (.drain 0)) ++
    List.replicate 7 (.step .acceptor) ++ [.step (.caller 0)]

theorem converges_faultAtReader :
    receiver.core.IsHonest ∧ misledBy receiver (faultAtReader ++ itsEnd) = [] ∧
      (receiver.run faultAtReader).state = .closing ∧
      (receiver.run faultAtReader).link.closed = none ∧
      (∃ t reason, begunBy receiver faultAtReader = [(t, reason)] ∧
        (receiver.run faultAtReader).core.hangsUp t = true) ∧
      (receiver.run (faultAtReader ++ itsEnd)).isQuiet = true ∧
      ∃ reason, (receiver.run (faultAtReader ++ itsEnd)).IsOver reason := by
  have honest : receiver.core.IsHonest :=
    isHonest_spawn (.ofNumber 2) .server none untraced 0
  have fair : misledBy receiver (faultAtReader ++ itsEnd) = [] := by decide +kernel
  have fairSoFar : misledBy receiver faultAtReader = [] := by decide +kernel
  have state : (receiver.run faultAtReader).state = .closing := by decide +kernel
  have opened : (receiver.run faultAtReader).link.closed = none := by decide +kernel
  have quiet : (receiver.run (faultAtReader ++ itsEnd)).isQuiet = true := by decide +kernel
  have closed : (receiver.run (faultAtReader ++ itsEnd)).state = .closed := by decide +kernel
  have before : Converges receiver faultAtReader :=
    converges (.ofNumber 2) .server (.new none) untraced 0 faultAtReader honest fairSoFar
  have after : Converges receiver (faultAtReader ++ itsEnd) :=
    converges (.ofNumber 2) .server (.new none) untraced 0 (faultAtReader ++ itsEnd) honest fair
  refine ⟨honest, fair, state, opened, ?_, quiet, ?_⟩
  · obtain closed | ⟨t, reason, begun, hangs, -⟩ := before.closing state
    · rw [opened] at closed
      simp at closed
    · exact ⟨t, reason, begun, hangs⟩
  · obtain working | ended := after.quiet quiet
    · have running := working.state
      rw [closed] at running
      simp at running
    · exact ended

end Session

end MessageTunnel
