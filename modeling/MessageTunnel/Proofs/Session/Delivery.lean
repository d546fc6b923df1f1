import MessageTunnel.Proofs.Session.Inbound
/-!
What comes in is delivered exactly once, whatever the order in which the tasks of a session run.
Only the reader and the drains hand messages over; what they hand over is what the invariants of the
two queues and of the drains account for, and where all is quiet nothing is left in the queues.
-/
set_option autoImplicit false

namespace MessageTunnel.Session

variable {c c' : Core} {s : Session} {a : Action} {effects : List Effect}
  {datagrams : List (Except TransportError Payload)} {streams accepted : List InboundStream}
  {messages : Task → List Payload} {discards : Task → List (Nat × TransportError)}

def injectedDatagrams (s : Session) (actions : List Action) :
    List (Except TransportError Payload) :=
  s.link.datagrams ++ actions.filterMap Action.datagram?

def injectedStreams (s : Session) (actions : List Action) : List InboundStream :=
  s.link.streams ++ actions.filterMap Action.stream?

def acceptedIn (s : Session) (actions : List Action) : List InboundStream :=
  along (fun s a => s.core.accepts a) s actions

def messagesOf (t : Task) (s : Session) (actions : List Action) : List Payload :=
  seenOf Effect.message? t (s.chronicle actions)

def discardsOf (t : Task) (s : Session) (actions : List Action) : List (Nat × TransportError) :=
  seenOf Effect.discard? t (s.chronicle actions)

theorem Acts.silent (h : Acts c a c' effects) {t : Task} (reader : t ≠ .reader)
    (drain : ∀ number, t ≠ .drain number) : seenIn Effect.message? t a effects = [] := by
  by_cases other : a = .step t
  · subst other
    cases h with
    | moves move =>
      cases move with
      | endAcceptor acceptor move => simp [seenIn, move.messages]
      | call caller move => simp [seenIn, move.messages]
      | accept | acceptError | join => rfl
      | drain => exact absurd rfl (drain _)
      | _ => exact absurd rfl reader
    | waits => simp [seenIn]
  · exact seenIn_other _ _ other

/-- What was delivered at a moment of a run, of what came in and was accepted so far. -/
structure Delivered (c : Core) (datagrams : List (Except TransportError Payload))
    (streams accepted : List InboundStream) (messages : Task → List Payload)
    (discards : Task → List (Nat × TransportError)) : Prop where
  inbox : Inbox c datagrams (messages .reader)
  intake : Intake c streams accepted
  drains : Drains c accepted messages discards
  silent : ∀ t, t ≠ .reader → (∀ number, t ≠ .drain number) → messages t = []

theorem delivered_run (id : ConnectionId) (options : Options) (link : Link)
    (registry : Trace.Registry) (clock : Nat) (actions : List Action) :
    let first := spawn id options link registry clock
    Delivered (first.run actions).core (injectedDatagrams first actions)
      (injectedStreams first actions) (acceptedIn first actions)
      (fun t => messagesOf t first actions) (fun t => discardsOf t first actions) := by
  intro first
  have hc : first.core = ⟨id, options, .start 2, link, .reading, .accepting, [], []⟩ :=
    core_spawn id options link registry clock
  have hl : first.link = link := congrArg Core.link hc
  refine run_induction (P := fun actions s => Delivered s.core (injectedDatagrams first actions)
    (injectedStreams first actions) (acceptedIn first actions)
    (fun t => messagesOf t first actions) (fun t => discardsOf t first actions)) ?_ ?_ actions
  · rw [hc]
    exact {
      inbox := ⟨link.datagrams, by simp [injectedDatagrams, hl, messagesOf, seenOf, chronicle,
        along, Reader.pending], fun _ => rfl⟩
      intake := ⟨link.streams, by simp [injectedStreams, hl, acceptedIn, along], fun _ => rfl⟩
      drains := ⟨rfl, by simp, fun _ _ => ⟨rfl, rfl⟩⟩
      silent := fun _ _ _ => rfl }
  · intro actions a h
    have ha := acts (first.run actions) a
    have hm (t : Task) := seenOf_concat (fun _ => message?_of_isDiagnostic) first t actions a
    have hd (t : Task) := seenOf_concat (fun _ => discard?_of_isDiagnostic) first t actions a
    have hi : injectedDatagrams first (actions ++ [a]) =
        injectedDatagrams first actions ++ a.datagram?.toList := by
      cases hg : a.datagram? <;> simp [injectedDatagrams, hg]
    have hs : injectedStreams first (actions ++ [a]) =
        injectedStreams first actions ++ a.stream?.toList := by
      cases hg : a.stream? <;> simp [injectedStreams, hg]
    have hacc : acceptedIn first (actions ++ [a]) =
        acceptedIn first actions ++ (first.run actions).core.accepts a := along_concat ..
    simp only [messagesOf, discardsOf, hm, hd, hi, hs, hacc]
    exact {
      inbox := h.inbox.acts ha
      intake := h.intake.acts ha
      drains := h.drains.acts ha
      silent := by
        intro t reader drain
        have before := h.silent t reader drain
        simp only [messagesOf] at before
        simp only [before, ha.silent reader drain, List.append_nil] }

def HasDrained (s : Session) (number : Nat) : Prop :=
  ∃ outcome, s.drains[number]? = some (.ended outcome)

/-- How a session that started as `first` delivers what comes in, seen after some actions. -/
structure DeliversOnce (first : Session) (actions : List Action) : Prop where
  datagrams : messagesOf .reader first actions <+: untilError (injectedDatagrams first actions)
  accepted : acceptedIn first actions <+: injectedStreams first actions
  drains : (first.run actions).drains.length = (acceptedIn first actions).length
  complete : ∀ (number : Nat) (stream : InboundStream),
    (acceptedIn first actions)[number]? = some stream → stream.IsComplete →
      messagesOf (.drain number) first actions <+: [stream.content] ∧
      discardsOf (.drain number) first actions = [] ∧
      ((first.run actions).HasDrained number →
        messagesOf (.drain number) first actions = [stream.content])
  broken : ∀ (number : Nat) (stream : InboundStream),
    (acceptedIn first actions)[number]? = some stream → ¬ stream.IsComplete →
      messagesOf (.drain number) first actions = [] ∧
      ∃ e, stream.FailsWith e ∧
        discardsOf (.drain number) first actions <+: [(stream.content.length, e)] ∧
        ((first.run actions).HasDrained number →
          discardsOf (.drain number) first actions = [(stream.content.length, e)])
  nothing_else : ((first.run actions).history.filterMap Effect.message?).Perm
    (messagesOf .reader first actions ++
      (List.range (acceptedIn first actions).length).flatMap fun number =>
        messagesOf (.drain number) first actions)
  drained : ∀ (number : Nat) (stream : InboundStream) (d : Drain) (more : List Action),
    (acceptedIn first actions)[number]? = some stream → stream.stalls = false →
      (first.run actions).drains[number]? = some d → d.work ≤ turnsOf (.drain number) more →
      (first.run (actions ++ more)).HasDrained number
  /-- A session that is quiet while neither loop has ended is open, and owes the host nothing. A
  stream that stalls keeps no other from its delivery as long as streams are accepted. -/
  quiet : (first.run actions).isQuiet = true →
    (first.run actions).reader.ending? = none → (first.run actions).acceptor.ending? = none →
    ((∀ stream ∈ injectedStreams first actions, stream.stalls = false) ∨
      (first.run actions).acceptor = .accepting) →
      (messagesOf .reader first actions).map .ok = injectedDatagrams first actions ∧
      ∀ (number : Nat) (stream : InboundStream),
        (injectedStreams first actions)[number]? = some stream → stream.stalls = false →
          (first.run actions).HasDrained number ∧
          (stream.IsComplete → messagesOf (.drain number) first actions = [stream.content])

theorem Holds.complete {stream : InboundStream} {d : Drain} {messages : List Payload}
    {discards : List (Nat × TransportError)} (h : Holds stream d messages discards)
    (complete : stream.IsComplete) :
    messages <+: [stream.content] ∧ discards = [] ∧
      (d.isEnded = true → messages = [stream.content]) := by
  have unfailing (e : TransportError) : ¬ stream.FailsWith e := by
    simp [InboundStream.FailsWith, complete.1, complete.2]
  cases h with
  | reading | recordDelivered | deliver => exact ⟨List.nil_prefix, rfl, by simp [Drain.isEnded]⟩
  | recordDiscarded fails | discarded fails => exact absurd fails (unfailing _)
  | delivered => exact ⟨List.prefix_rfl, rfl, fun _ => rfl⟩

theorem exists_failsWith {stream : InboundStream} (h : ¬ stream.IsComplete) :
    ∃ e, stream.FailsWith e := by
  cases hf : stream.failure? with
  | some e => exact ⟨e, .inl hf⟩
  | none =>
    cases hs : stream.stalls with
    | true => exact ⟨.locallyClosed, .inr ⟨hf, hs⟩⟩
    | false => exact absurd ⟨hf, hs⟩ h

theorem Holds.broken {stream : InboundStream} {d : Drain} {messages : List Payload}
    {discards : List (Nat × TransportError)} (h : Holds stream d messages discards)
    (incomplete : ¬ stream.IsComplete) :
    messages = [] ∧ ∃ e, stream.FailsWith e ∧ discards <+: [(stream.content.length, e)] ∧
      (d.isEnded = true → discards = [(stream.content.length, e)]) := by
  obtain ⟨e, he⟩ := exists_failsWith incomplete
  cases h with
  | reading => exact ⟨rfl, e, he, List.nil_prefix, by simp [Drain.isEnded]⟩
  | recordDiscarded fails => exact ⟨rfl, _, fails, List.prefix_rfl, by simp [Drain.isEnded]⟩
  | discarded fails => exact ⟨rfl, _, fails, List.prefix_rfl, fun _ => rfl⟩
  | recordDelivered complete | deliver complete | delivered complete =>
    exact absurd complete incomplete

theorem HasDrained.isEnded {number : Nat} {d : Drain} (h : s.HasDrained number)
    (hd : s.drains[number]? = some d) : d.isEnded = true := by
  obtain ⟨outcome, ho⟩ := h
  obtain rfl := by simpa [hd] using ho
  rfl

theorem drain_run {number : Nat} {d : Drain} (hd : s.drains[number]? = some d)
    (flows : d.stalls = false) (actions : List Action) :
    ∃ d', (s.run actions).drains[number]? = some d' ∧
      d'.work ≤ d.work - turnsOf (.drain number) actions := by
  induction actions generalizing s d with
  | nil => exact ⟨d, hd, Nat.le_refl _⟩
  | cons a rest ih =>
    rw [turnsOf_cons]
    obtain ⟨other, after⟩ | ⟨rfl, d', after, move⟩ | ⟨rfl, same, -, blocked⟩ := (acts s a).drain hd
    · obtain ⟨last, hl, hle⟩ := ih after flows
      exact ⟨last, hl, by rw [turnsOf_other other]; omega⟩
    · obtain ⟨last, hl, hle⟩ := ih after (move.stalls flows)
      have less := move.work_lt
      exact ⟨last, hl, by rw [turnsOf_self]; omega⟩
    · have after : (s.act (.step (.drain number))).drains[number]? = some d := by
        have hs := congrArg Core.drains same
        exact (congrArg (·[number]?) hs).trans hd
      obtain ⟨last, hl, hle⟩ := ih after flows
      have done : d.work = 0 := by
        cases blocked with
        | noDrain drain => simp [show s.core.drains[number]? = some d from hd] at drain
        | stalled drain parts stalls opened =>
          obtain rfl := Option.some.inj (hd.symm.trans drain)
          simp [Drain.stalls, stalls] at flows
        | drained drain =>
          obtain rfl := Option.some.inj (hd.symm.trans drain)
          rfl
      exact ⟨last, hl, by omega⟩

theorem blocked_of_quiet (quiet : s.isQuiet = true) {t : Task} (ht : t ∈ s.tasks) :
    Blocked s.core t := by
  have hs := List.all_eq_true.1 quiet t ht
  exact blocked (by simpa [canStep] using hs)

theorem mem_tasks_drain {number : Nat} (h : number < s.drains.length) :
    .drain number ∈ s.tasks := by
  simp [tasks, h]

theorem blocked_at_rest (quiet : s.isQuiet = true) (t : Task) : Blocked s.core t := by
  cases t with
  | reader => exact blocked_of_quiet quiet (by simp [tasks])
  | acceptor => exact blocked_of_quiet quiet (by simp [tasks])
  | drain number =>
    by_cases less : number < s.drains.length
    · exact blocked_of_quiet quiet (mem_tasks_drain less)
    · exact .noDrain (List.getElem?_eq_none_iff.2 (Nat.not_lt.1 less))
  | caller number =>
    by_cases less : number < s.callers.length
    · exact blocked_of_quiet quiet (by simp [tasks, less])
    · exact .noCaller (List.getElem?_eq_none_iff.2 (Nat.not_lt.1 less))

theorem hasDrained_of_quiet (quiet : s.isQuiet = true) {number : Nat} {d : Drain}
    (hd : s.drains[number]? = some d) (flows : d.stalls = false) : s.HasDrained number := by
  have hn := (List.getElem?_eq_some_iff.1 hd).1
  have hb := blocked_of_quiet quiet (mem_tasks_drain hn)
  cases hb with
  | noDrain drain => simp [show s.core.drains[number]? = some d from hd] at drain
  | stalled drain parts stalls opened =>
    obtain rfl := Option.some.inj (hd.symm.trans drain)
    simp [Drain.stalls, stalls] at flows
  | drained drain => exact ⟨_, drain⟩

theorem Inbox.of_quiet {injected : List (Except TransportError Payload)} {handed : List Payload}
    (h : Inbox s.core injected handed) (quiet : s.isQuiet = true)
    (going : s.reader.ending? = none) : handed.map .ok = injected := by
  obtain ⟨rest, hi, hr⟩ := h
  have hb : Blocked s.core .reader := blocked_of_quiet quiet (by simp [tasks])
  cases hb with
  | noDatagram reading opened queue =>
    rw [hr going, queue] at hi
    rw [hi, reading]
    simp [Reader.pending]
  | readerEnded reader => simp [show s.reader = _ from reader, Reader.ending?] at going

theorem Intake.of_quiet {injected accepted : List InboundStream}
    (h : Intake s.core injected accepted) (quiet : s.isQuiet = true)
    (accepting : s.acceptor = .accepting) : accepted = injected := by
  obtain ⟨rest, hi, hr⟩ := h
  have hb : Blocked s.core .acceptor := blocked_of_quiet quiet (by simp [tasks])
  cases hb with
  | noStream _ works opened queue =>
    rw [hr accepting, queue, List.append_nil] at hi
    exact hi.symm
  | joining joining => simp [show s.acceptor = _ from joining] at accepting
  | acceptorEnded acceptor => simp [show s.acceptor = _ from acceptor] at accepting

theorem filterMap_message?_spawn (id : ConnectionId) (options : Options) (link : Link)
    (registry : Trace.Registry) (clock : Nat) :
    (spawn id options link registry clock).history.filterMap Effect.message? = [] := by
  rw [← filterMap_visible fun _ => message?_of_isDiagnostic, visible_spawn]
  rfl

def deliverers (drains : Nat) : List Task := .reader :: (List.range drains).map .drain

theorem nodup_deliverers (drains : Nat) : (deliverers drains).Nodup := by
  refine List.nodup_cons.2 ⟨by simp, ?_⟩
  refine List.pairwise_map.2 (List.nodup_range.imp ?_)
  simp

theorem Delivered.only (h : Delivered c datagrams streams accepted messages discards) {t : Task}
    (speaks : messages t ≠ []) : t ∈ deliverers accepted.length := by
  cases t with
  | reader => simp [deliverers]
  | drain number =>
    have less : number < accepted.length := by
      apply Classical.byContradiction
      intro beyond
      rw [← h.drains.length] at beyond
      exact speaks (h.drains.later number (by omega)).1
    simp [deliverers, less]
  | acceptor => exact absurd (h.silent _ (by simp) (by simp)) speaks
  | caller number => exact absurd (h.silent _ (by simp) (by simp)) speaks

theorem messages_perm (id : ConnectionId) (options : Options) (link : Link)
    (registry : Trace.Registry) (clock : Nat) (actions : List Action) :
    let first := spawn id options link registry clock
    ((first.run actions).history.filterMap Effect.message?).Perm
      (messagesOf .reader first actions ++
        (List.range (acceptedIn first actions).length).flatMap fun number =>
          messagesOf (.drain number) first actions) := by
  intro first
  have h := delivered_run id options link registry clock actions
  have parts := seenOf_perm Effect.message? (deliverers (acceptedIn first actions).length)
    (nodup_deliverers _) (first.chronicle actions) (by
      intro entry mem speaks
      refine h.only fun silent => ?_
      obtain ⟨payload, hp⟩ := Option.isSome_iff_exists.1 speaks
      have heard : payload ∈ messagesOf entry.1 first actions :=
        List.mem_filterMap.2 ⟨entry, mem, by simp [hp]⟩
      rw [silent] at heard
      simp at heard)
  rw [history_run, List.filterMap_append, filterMap_message?_spawn, List.nil_append,
    List.filterMap_map]
  simpa [deliverers, List.flatMap_map, Function.comp_def, messagesOf] using parts

theorem Delivered.exists_drain (h : Delivered c datagrams streams accepted messages discards)
    {number : Nat} {stream : InboundStream} (hs : accepted[number]? = some stream) :
    ∃ d, c.drains[number]? = some d ∧
      Holds stream d (messages (.drain number)) (discards (.drain number)) := by
  have less := (List.getElem?_eq_some_iff.1 hs).1
  rw [← h.drains.length] at less
  have hd := List.getElem?_eq_getElem less
  exact ⟨_, hd, h.drains.holds number stream _ hs hd⟩

theorem Delivered.drained (h : Delivered s.core datagrams streams accepted messages discards)
    (quiet : s.isQuiet = true) {number : Nat} {stream : InboundStream}
    (hs : accepted[number]? = some stream) (flows : stream.stalls = false) :
    s.HasDrained number := by
  obtain ⟨d, hd, holds⟩ := h.exists_drain hs
  exact hasDrained_of_quiet quiet hd (holds.stalls flows)

theorem Delivered.accepting (h : Delivered s.core datagrams streams accepted messages discards)
    (quiet : s.isQuiet = true) (going : s.acceptor.ending? = none)
    (flow : ∀ stream ∈ streams, stream.stalls = false) : s.acceptor = .accepting := by
  have hb : Blocked s.core .acceptor := blocked_of_quiet quiet (by simp [tasks])
  cases hb with
  | noStream accepting => exact accepting
  | joining joining draining =>
    -- It waits for a drain that is not over, but its stream cannot be what holds that drain up.
    have ended (d : Drain) (mem : d ∈ s.drains) : d.isEnded = true := by
      obtain ⟨number, hd⟩ := List.getElem?_of_mem mem
      have less := (List.getElem?_eq_some_iff.1 hd).1
      rw [show s.drains.length = _ from h.drains.length] at less
      have flows : accepted[number].stalls = false := by
        obtain ⟨rest, hi, -⟩ := h.intake
        refine flow _ ?_
        rw [hi]
        exact List.mem_append_left _ (List.getElem_mem less)
      exact (h.drained quiet (List.getElem?_eq_getElem less) flows).isEnded hd
    have all : s.core.drains.all Drain.isEnded = true := List.all_eq_true.2 ended
    rw [all] at draining
    simp at draining
  | acceptorEnded acceptor => simp [show s.acceptor = _ from acceptor, Acceptor.ending?] at going

/-- Where all is quiet and both loops still take what comes in, nothing of it is left. -/
theorem Delivered.of_quiet (h : Delivered s.core datagrams streams accepted messages discards)
    (quiet : s.isQuiet = true) (reader : s.reader.ending? = none)
    (accepting : s.acceptor = .accepting) :
    (messages .reader).map .ok = datagrams ∧ accepted = streams ∧
      ∀ (number : Nat) (stream : InboundStream), streams[number]? = some stream →
        stream.stalls = false → s.HasDrained number ∧
          (stream.IsComplete → messages (.drain number) = [stream.content]) := by
  have all := h.intake.of_quiet quiet accepting
  refine ⟨h.inbox.of_quiet quiet reader, all, ?_⟩
  intro number stream hs flows
  rw [← all] at hs
  obtain ⟨d, hd, holds⟩ := h.exists_drain hs
  have here := h.drained quiet hs flows
  exact ⟨here, fun complete => (holds.complete complete).2.2 (here.isEnded hd)⟩

/-- Whatever comes in, and in whatever order the tasks of a session run, each datagram and each
complete stream is delivered exactly once, and nothing else is. -/
theorem delivers_once (id : ConnectionId) (options : Options) (link : Link)
    (registry : Trace.Registry) (clock : Nat) (actions : List Action) :
    DeliversOnce (spawn id options link registry clock) actions := by
  have h := delivered_run id options link registry clock actions
  exact {
    datagrams := by
      obtain ⟨rest, hi, -⟩ := h.inbox
      rw [hi, untilError_map_ok, List.append_assoc]
      exact List.prefix_append _ _
    accepted := by
      obtain ⟨rest, hi, -⟩ := h.intake
      exact ⟨rest, hi.symm⟩
    drains := h.drains.length
    complete := by
      intro number stream hs complete
      obtain ⟨d, hd, holds⟩ := h.exists_drain hs
      obtain ⟨handed, undiscarded, ended⟩ := holds.complete complete
      exact ⟨handed, undiscarded, fun drained => ended (drained.isEnded hd)⟩
    broken := by
      intro number stream hs incomplete
      obtain ⟨d, hd, holds⟩ := h.exists_drain hs
      obtain ⟨unheard, e, fails, discarded, ended⟩ := holds.broken incomplete
      exact ⟨unheard, e, fails, discarded, fun drained => ended (drained.isEnded hd)⟩
    nothing_else := messages_perm id options link registry clock actions
    drained := by
      intro number stream d more hs flows hd turns
      have holds := h.drains.holds number stream d hs hd
      obtain ⟨d', hd', hle⟩ := drain_run hd (holds.stalls flows) more
      obtain ⟨outcome, rfl⟩ := exists_ended_of_work (show d'.work = 0 by omega)
      exact ⟨outcome, by rw [run_append, hd']⟩
    quiet := by
      intro quiet reader acceptor flow
      have accepting := flow.elim (h.accepting quiet acceptor) fun accepting => accepting
      obtain ⟨datagrams, -, streams⟩ := h.of_quiet quiet reader accepting
      exact ⟨datagrams, streams⟩ }

end MessageTunnel.Session
