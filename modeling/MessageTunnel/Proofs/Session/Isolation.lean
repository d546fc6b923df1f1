import MessageTunnel.Proofs.Session.Closure
import MessageTunnel.Proofs.Session.Delivery
import MessageTunnel.Proofs.Session.Without
/-!
What comes on a stream concerns nobody but its drain. Two runs that differ in one stream agree in
everything else, as long as the other tasks take the same turns, and they can always take the same
turns.
-/
set_option autoImplicit false

namespace MessageTunnel.Session

variable {c c' c₂ : Core} {t : Task} {a : Action} {s s' : Session} {number : Nat}
  {effects seen : List Effect} {l : Link} {stream : InboundStream}

def place (s : Session) : Nat := s.drains.length + s.link.streams.length

def receive (s : Session) (stream : InboundStream) : Session := s.act (.event (.stream stream))

theorem without_start (s : Session) (a b : InboundStream) :
    (s.receive a).core.without s.place = (s.receive b).core.without s.place := by
  have behind : ¬ s.drains.length + s.link.streams.length < s.drains.length := by omega
  simp [receive, act, core, place, Core.without, Link.withStreams, Link.apply, Link.pushStream,
    hollowAt, behind]

def Effect.shown? (e : Effect) : Option Effect := if e.isDiagnostic then none else some e

theorem shown?_of_isDiagnostic {e : Effect} (h : e.isDiagnostic = true) : e.shown? = none :=
  if_pos h

def Drain.shown : Drain → List Effect
  | .reading .. => []
  | .record (.delivered message) => [.logged (.streamReceived message.length)]
  | .record (.discarded length e) => [.logged (.streamDiscarded length e)]
  | .deliver message =>
    [.logged (.streamReceived message.length), .traced (.streamReceived message.length)]
  | .ended (.delivered message) =>
    [.logged (.streamReceived message.length), .traced (.streamReceived message.length),
      .message message]
  | .ended (.discarded length e) =>
    [.logged (.streamDiscarded length e), .traced (.streamDiscarded length e.message)]

theorem DrainMove.shown {d d' : Drain} (move : DrainMove l d d' effects) :
    d'.shown = d.shown ++ effects.filterMap Effect.shown? := by
  cases move <;> rfl

def report (stream : InboundStream) : List Effect :=
  match stream.failure? with
  | none => (Drain.ended (.delivered stream.content)).shown
  | some e => (Drain.ended (.discarded stream.content.length e)).shown

/-- The stream waits for its drain, or it has one that has made so much visible. -/
inductive Tracks (number : Nat) (stream : InboundStream) (c : Core) (seen : List Effect) :
    Prop where
  | waiting (place : c.drains.length ≤ number)
      (queue : c.link.streams[number - c.drains.length]? = some stream) (silent : seen = []) :
      Tracks number stream c seen
  | draining {d : Drain} {messages : List Payload} {discards : List (Nat × TransportError)}
      (drain : c.drains[number]? = some d) (holds : Holds stream d messages discards)
      (told : seen = d.shown) : Tracks number stream c seen

theorem Acts.queue (h : Acts c a c' effects) :
    (c'.drains.length = c.drains.length ∧
        c'.link.streams = c.link.streams ++ a.stream?.toList) ∨
      ∃ stream, c.link.streams = stream :: c'.link.streams ∧
        c'.drains = c.drains ++ [.reading stream []] := by
  cases h with
  | moves move =>
    cases move with
    | accept accepting works opened queue => exact .inr ⟨_, queue, rfl⟩
    | endReader reader move | endAcceptor acceptor move =>
      exact .inl ⟨rfl, by simp [move.inbound.2, Action.stream?]⟩
    | call caller move => exact .inl ⟨rfl, by simp [move.inbound.2, Action.stream?]⟩
    | drain => exact .inl ⟨List.length_set, by simp [Action.stream?]⟩
    | _ => exact .inl ⟨rfl, by simp [Action.stream?]⟩
  | @event e =>
    cases e with
    | stream stream => exact .inl ⟨rfl, rfl⟩
    | _ => exact .inl ⟨rfl, by simp [Action.stream?, Link.apply, Link.pushDatagram, Link.shut,
        Link.arrange]⟩
  | _ => exact .inl ⟨rfl, by simp [Action.stream?]⟩

theorem Tracks.acts (h : Tracks number stream c seen) (acts : Acts c a c' effects) :
    Tracks number stream c' (seen ++ seenIn Effect.shown? (.drain number) a effects) := by
  cases h with
  | waiting place queue silent =>
    rw [silent, acts.unseen Effect.shown? place]
    obtain ⟨same, streams⟩ | ⟨next, streams, grown⟩ := acts.queue
    · refine .waiting (by omega) ?_ rfl
      have less := (List.getElem?_eq_some_iff.1 queue).1
      rw [streams, same, List.getElem?_append_left less, queue]
    · obtain here | beyond := Nat.eq_or_lt_of_le place
      · subst here
        obtain rfl : next = stream := by simpa [streams] using queue
        exact .draining (by simp [grown]) (holds_start next) rfl
      · refine .waiting (by simp [grown]; omega) ?_ rfl
        obtain ⟨gap, rfl⟩ := Nat.exists_eq_add_of_lt beyond
        have back : c.drains.length + gap + 1 - c.drains.length = gap + 1 := by omega
        have back' : c.drains.length + gap + 1 - (c.drains.length + 1) = gap := by omega
        rw [streams, back, List.getElem?_cons_succ] at queue
        rw [grown, List.length_append, List.length_singleton, back', queue]
  | draining drain holds told =>
    obtain ⟨other, after⟩ | ⟨rfl, d', after, move⟩ | ⟨rfl, rfl, rfl, -⟩ := acts.drain drain
    · exact .draining after holds (by simp [seenIn_other _ _ other, told])
    · exact .draining after (holds.move move) (by simp [seenIn_self, told, move.shown])
    · exact .draining drain holds (by simp [seenIn_self, told])

def shownBy (t : Task) (entries : List (Task × Effect)) : List Effect :=
  seenOf Effect.shown? t entries

theorem tracks_run (start : Tracks number stream s.core seen) (actions : List Action) :
    Tracks number stream (s.run actions).core
      (seen ++ shownBy (.drain number) (s.chronicle actions)) := by
  refine run_induction (P := fun actions s' => Tracks number stream s'.core
    (seen ++ shownBy (.drain number) (s.chronicle actions))) ?_ ?_ actions
  · simpa [shownBy, seenOf, chronicle, along] using start
  · intro actions a h
    have ha := h.acts (acts (s.run actions) a)
    rwa [shownBy, seenOf_concat fun _ => shown?_of_isDiagnostic, ← List.append_assoc]

theorem tracks_start (s : Session) (stream : InboundStream) :
    Tracks s.place stream (s.receive stream).core [] :=
  .waiting (Nat.le_add_right ..) (by simp [receive, act, core, place, Link.apply, Link.pushStream])
    rfl

theorem Holds.shown {d : Drain} {messages : List Payload} {discards : List (Nat × TransportError)}
    (h : Holds stream d messages discards) (flows : stream.stalls = false) :
    d.shown <+: report stream ∧ (d.isEnded = true → d.shown = report stream) := by
  have failure {e : TransportError} (fails : stream.FailsWith e) : stream.failure? = some e := by
    obtain own | ⟨-, stalls⟩ := fails
    · exact own
    · simp [flows] at stalls
  cases h with
  | reading => exact ⟨List.nil_prefix, by simp [Drain.isEnded]⟩
  | recordDelivered complete | deliver complete | delivered complete =>
    simp [report, complete.1, Drain.shown, Drain.isEnded]
  | recordDiscarded fails | discarded fails =>
    simp [report, failure fails, Drain.shown, Drain.isEnded]

theorem Tracks.reported (h : Tracks number stream s.core seen) (flows : stream.stalls = false) :
    seen <+: report stream ∧ (s.HasDrained number → seen = report stream) := by
  cases h with
  | waiting place queue silent =>
    refine ⟨silent ▸ List.nil_prefix, fun ⟨outcome, drain⟩ => ?_⟩
    have none : s.drains[number]? = none := List.getElem?_eq_none_iff.2 place
    exact absurd (none.symm.trans drain) (by simp)
  | draining drain holds told =>
    obtain ⟨begins, ended⟩ := holds.shown flows
    rw [told]
    exact ⟨begins, fun drained => ended (drained.isEnded drain)⟩

def Core.IsThrough (number : Nat) (c : Core) : Prop :=
  ∀ d, c.drains[number]? = some d → d.isEnded = true

theorem exists_turns (tracks : Tracks number stream s.core seen) (flows : stream.stalls = false) :
    ∃ turns, (s.run (List.replicate turns (.step (.drain number)))).core.IsThrough number := by
  cases tracks with
  | waiting place =>
    refine ⟨0, fun d hd => ?_⟩
    have none : s.core.drains[number]? = none := List.getElem?_eq_none_iff.2 place
    exact absurd (none.symm.trans hd) (by simp)
  | @draining d _ _ drain holds =>
    obtain ⟨d', hd', less⟩ := drain_run (s := s) drain (holds.stalls flows)
      (List.replicate d.work (.step (.drain number)))
    have turns : turnsOf (.drain number) (List.replicate d.work (.step (.drain number))) =
        d.work := by
      simp [turnsOf, List.countP_replicate]
    obtain ⟨outcome, rfl⟩ := exists_ended_of_work (show d'.work = 0 by omega)
    refine ⟨d.work, fun d hd => ?_⟩
    obtain rfl := Option.some.inj (hd'.symm.trans hd)
    rfl

theorem without_own (number : Nat) (s : Session) (turns : Nat) :
    (s.run (List.replicate turns (.step (.drain number)))).core.without number =
      s.core.without number := by
  have follows := follows_run number s (List.replicate turns (.step (.drain number)))
  rw [scheduleApart_own] at follows
  exact (follows.unique .nil).1

theorem canStep_of_without (through : s.core.IsThrough number) (other : t ≠ .drain number)
    (move : Move (s.core.without number) t c' effects) : s.canStep t = true :=
  canStep_of_not_blocked fun blocked => move.not_blocked (blocked.without other through)

/-- Whatever schedule a core follows without the stream, a session with it can keep to. -/
theorem exists_actions {schedule : List Action} {entries : List (Task × Effect)}
    (follows : Follows number c schedule c' entries) (same : s.core.without number = c)
    (apart : ∀ a ∈ schedule, a ≠ .step (.drain number))
    (tracks : Tracks number stream s.core seen) (flows : stream.stalls = false) :
    ∃ actions, scheduleApart number s actions = schedule ∧
      (s.run actions).core.IsThrough number := by
  induction follows generalizing s seen with
  | nil =>
    obtain ⟨turns, through⟩ := exists_turns tracks flows
    exact ⟨_, scheduleApart_own number s turns, through⟩
  | @cons c c₂ c' a rest effects entries going later ih =>
    -- First the drain is given its turns, so that it cannot be in the way of the others.
    obtain ⟨turns, through⟩ := exists_turns tracks flows
    have own := scheduleApart_own number s turns
    have tracks := tracks_run tracks (List.replicate turns (.step (.drain number)))
    rw [← without_own number s turns] at same
    generalize hs : s.run (List.replicate turns (.step (.drain number))) = s₁ at *
    have other := apart a List.mem_cons_self
    have able (t : Task) (ht : a = .step t) : s₁.canStep t = true := by
      subst ht
      rw [← same] at going
      cases going with
      | steps steps => exact canStep_of_without through (fun h => other (congrArg _ h)) steps.move
    obtain ⟨c₃, going', next⟩ := (goes s₁ a able).without other
    rw [same] at going'
    obtain ⟨rfl, -⟩ := going.unique going'
    obtain ⟨more, schedule, through⟩ := ih next.symm
      (fun b mem => apart b (List.mem_cons_of_mem _ mem)) (tracks.acts (acts s₁ a))
    refine ⟨List.replicate turns (.step (.drain number)) ++ a :: more, ?_, ?_⟩
    · rw [scheduleApart, along_append, ← scheduleApart, own, hs, List.nil_append, along,
        ← scheduleApart, schedule, turnApart_of_able other able]
      rfl
    · rw [run_append, hs]
      exact through

theorem Core.IsThrough.not_move (through : c.IsThrough number) :
    ¬ Move c (.drain number) c' effects := by
  intro move
  cases move with
  | drain drain move =>
    have ended := through _ drain
    cases move <;> simp [Drain.isEnded] at ended

theorem through_of_quiet (quiet : s.isQuiet = true) (tracks : Tracks number stream s.core seen)
    (flows : stream.stalls = false) : s.core.IsThrough number := by
  intro d hd
  cases tracks with
  | waiting place => simp [List.getElem?_eq_none_iff.2 place] at hd
  | draining drain holds =>
    obtain rfl := Option.some.inj (drain.symm.trans hd)
    exact (hasDrained_of_quiet quiet hd (holds.stalls flows)).isEnded hd

theorem quiet_of_without (same : s.core.without number = s'.core.without number)
    (through : s.core.IsThrough number) (through' : s'.core.IsThrough number)
    (quiet : s.isQuiet = true) : s'.isQuiet = true := by
  -- A step that one of them could still take would be one without the stream, but there is none.
  refine List.all_eq_true.2 fun t _ => ?_
  cases step : s'.step? t with
  | none => simp [canStep, step]
  | some next =>
    obtain ⟨effects, move, -⟩ := exists_move step
    by_cases own : t = .drain number
    · subst own
      exact absurd move through'.not_move
    · obtain ⟨c₂, move, -⟩ := move.without own
      rw [← same] at move
      exact absurd ((blocked_at_rest quiet t).without own through) move.not_blocked

structure AlikeApart (number : Nat) (s s' : Session) : Prop where
  shutdown : s.shutdown = s'.shutdown
  callers : s.callers = s'.callers
  link : s.link.withStreams [] = s'.link.withStreams []
  streams : hollowAt number s.drains.length s.link.streams =
    hollowAt number s'.drains.length s'.link.streams
  reader : s.reader = s'.reader
  acceptor : s.acceptor = s'.acceptor
  drains : ∀ other, other ≠ number → s.drains[other]? = s'.drains[other]?

theorem alikeApart_of_without (same : s.core.without number = s'.core.without number) :
    AlikeApart number s s' where
  shutdown := congrArg Core.shutdown same
  callers := congrArg Core.callers same
  link := congrArg (fun c : Core => c.link.withStreams []) same
  streams := congrArg (fun c : Core => c.link.streams) same
  reader := congrArg Core.reader same
  acceptor := congrArg Core.acceptor same
  drains := by
    intro other apart
    have drains := congrArg (fun c : Core => c.drains[other]?) same
    simpa only [Core.without, core, List.getElem?_set_ne apart.symm] using drains

theorem closeReason?_of_isDiagnostic {e : Effect} (h : e.isDiagnostic = true) :
    e.closeReason? = none := by
  cases e with
  | sessionClosed => simp [Effect.isDiagnostic] at h
  | _ => rfl

theorem Acts.own_reasons (h : Acts c (.step (.drain number)) c' effects) :
    effects.filterMap Effect.closeReason? = [] := by
  cases h with
  | moves move =>
    cases move with
    | drain drain move => cases move <;> rfl
  | waits => rfl

theorem closeReasons_news (number : Nat) (s : Session) (a : Action) :
    (s.newsByTask a).filterMap (fun x => x.2.closeReason?) =
      (shownApart number (s.newsByTask a)).filterMap fun x => x.2.closeReason? := by
  cases a with
  | step t =>
    have news : (s.newsByTask (.step t)).filterMap (fun x => x.2.closeReason?) =
        (visible (s.news (.step t))).filterMap Effect.closeReason? := by
      rw [filterMap_visible fun _ => closeReason?_of_isDiagnostic, newsByTask, List.filterMap_map]
      rfl
    rw [news]
    by_cases own : t = .drain number
    · -- No drain tells the host of the end.
      subst own
      rw [shownApart_own, (acts s _).own_reasons]
      rfl
    · rw [shownApart_newsByTask s fun same => own (Action.step.inj same), entriesOf,
        List.filterMap_map]
      rfl
  | _ => rfl

theorem closeReasons_run (number : Nat) (s : Session) (actions : List Action) :
    (s.run actions).history.filterMap Effect.closeReason? =
      s.history.filterMap Effect.closeReason? ++
        (shownApart number (s.chronicle actions)).filterMap fun x => x.2.closeReason? := by
  have chronicle : (s.chronicle actions).filterMap (fun x => x.2.closeReason?) =
      (shownApart number (s.chronicle actions)).filterMap fun x => x.2.closeReason? := by
    induction actions generalizing s with
    | nil => rfl
    | cons a rest ih =>
      have later := ih (s.act a)
      simp only [Session.chronicle, along, shownApart, List.filterMap_append, List.filter_append]
        at later ⊢
      rw [later]
      exact congrArg (· ++ _) (closeReasons_news number s a)
  rw [history_run, List.filterMap_append, List.filterMap_map, ← chronicle]
  rfl

/-- How little depends on whether it is `a` that comes in next on a stream, or `b`. -/
structure Isolated (s : Session) (a b : InboundStream) : Prop where
  /-- Where the other tasks take the same turns, they do the same, and the host is told the same. -/
  agree : ∀ actions actions',
    scheduleApart s.place (s.receive a) actions = scheduleApart s.place (s.receive b) actions' →
    AlikeApart s.place ((s.receive a).run actions) ((s.receive b).run actions') ∧
      shownApart s.place ((s.receive a).chronicle actions) =
        shownApart s.place ((s.receive b).chronicle actions') ∧
      ((s.receive a).run actions).history.filterMap Effect.closeReason? =
        ((s.receive b).run actions').history.filterMap Effect.closeReason?
  /-- The same turns can always be taken, up to the same rest. -/
  possible : b.stalls = false → ∀ actions actions' more,
    scheduleApart s.place (s.receive a) actions = scheduleApart s.place (s.receive b) actions' →
    ∃ more', scheduleApart s.place (s.receive a) (actions ++ more) =
        scheduleApart s.place (s.receive b) (actions' ++ more') ∧
      (a.stalls = false → ((s.receive a).run (actions ++ more)).isQuiet = true →
        ((s.receive b).run (actions' ++ more')).isQuiet = true)
  /-- What differs is made known by the drain of the stream, and is the report on the stream. -/
  own : a.stalls = false → ∀ actions,
    shownBy (.drain s.place) ((s.receive a).chronicle actions) <+: report a ∧
      (((s.receive a).run actions).HasDrained s.place →
        shownBy (.drain s.place) ((s.receive a).chronicle actions) = report a)

theorem without_of_schedule {a b : InboundStream} {actions actions' : List Action}
    (schedule : scheduleApart s.place (s.receive a) actions =
      scheduleApart s.place (s.receive b) actions') :
    ((s.receive a).run actions).core.without s.place =
        ((s.receive b).run actions').core.without s.place ∧
      shownApart s.place ((s.receive a).chronicle actions) =
        shownApart s.place ((s.receive b).chronicle actions') := by
  have follows := follows_run s.place (s.receive a) actions
  rw [without_start s a b, schedule] at follows
  exact follows.unique (follows_run s.place (s.receive b) actions')

/-- Whatever comes in on a stream, with whatever error it breaks off, only what is made known of
this stream depends on it. -/
theorem isolates_streams (s : Session) (a b : InboundStream) : Isolated s a b where
  agree := by
    intro actions actions' schedule
    obtain ⟨same, shown⟩ := without_of_schedule schedule
    refine ⟨alikeApart_of_without same, shown, ?_⟩
    rw [closeReasons_run s.place, closeReasons_run s.place, shown]
    rfl
  possible := by
    -- What `more` comes to without the stream is a schedule, and `b` can keep to it.
    intro flows actions actions' more schedule
    have follows := follows_run s.place ((s.receive a).run actions) more
    obtain ⟨more', kept, through⟩ := exists_actions follows (without_of_schedule schedule).1.symm
      (fun _ mem => mem_scheduleApart mem) (tracks_run (tracks_start s b) actions') flows
    have both : scheduleApart s.place (s.receive a) (actions ++ more) =
        scheduleApart s.place (s.receive b) (actions' ++ more') := by
      simp only [scheduleApart, along_append] at schedule kept ⊢
      rw [schedule, kept]
    refine ⟨more', both, fun flows quiet => ?_⟩
    have tracks := tracks_run (tracks_start s a) (actions ++ more)
    rw [← run_append] at through
    exact quiet_of_without (without_of_schedule both).1 (through_of_quiet quiet tracks flows)
      through quiet
  own := by
    intro flows actions
    simpa using (tracks_run (tracks_start s a) actions).reported flows

end MessageTunnel.Session
