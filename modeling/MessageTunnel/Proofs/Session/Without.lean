import MessageTunnel.Proofs.Session.Determined
import MessageTunnel.Proofs.Session.Inbound
import MessageTunnel.Proofs.Queues
/-!
A session of which one stream is left out. The core without a stream is the core in which that
stream has come and gone empty. Whatever the tasks do, all but its drain, they do the same on that
core, so a run is what its schedule makes of the core without the stream.
-/
set_option autoImplicit false

namespace MessageTunnel

namespace Link

variable (l : Link) (streams : List InboundStream)

def withStreams : Link := { l with streams := streams }

end Link

theorem Dispatch.step_withStreams (payload : Payload) (stage : Dispatch.Stage) (l : Link)
    (streams : List InboundStream) : Dispatch.step payload stage (l.withStreams streams) =
      ((Dispatch.step payload stage l).1,
        (Dispatch.step payload stage l).2.withStreams streams) := by
  have kept : (Dispatch.step payload stage l).2.withQueues l.datagrams streams =
      (Dispatch.step payload stage l).2.withStreams streams := by
    rw [Link.withQueues, ← (Dispatch.called payload stage l).inbound.1]
    rfl
  rw [← kept]
  exact Dispatch.step_withQueues payload stage l l.datagrams streams

namespace Session

variable {id : ConnectionId} {loop : Log.InboundLoop} {sh sh' : Shutdown} {l l' : Link}
  {c c' c₂ : Core} {t : Task} {a : Action} {s s' : Session} {number : Nat}
  {effects : List Effect}

theorem EndMove.withStreams {stage stage' : Ending} (streams : List InboundStream)
    (move : EndMove id loop sh l stage sh' l' stage' effects) :
    EndMove id loop sh (l.withStreams streams) stage sh' (l'.withStreams streams) stage'
      effects := by
  cases move with
  | beginQuiet running quiet => exact .beginQuiet running quiet
  | beginFault running fault => exact .beginFault running fault
  | late closing => exact .late closing
  | hangUp => exact .hangUp
  | leave other => exact .leave other
  | leaveLast last => exact .leaveLast last
  | record => exact .record
  | release => exact .release
  | notify => exact .notify
  | publish => exact .publish

theorem DrainMove.withStreams {d d' : Drain} (streams : List InboundStream)
    (move : DrainMove l d d' effects) : DrainMove (l.withStreams streams) d d' effects := by
  cases move with
  | piece parts => exact .piece parts
  | complete parts ends => exact .complete parts ends
  | broken parts => exact .broken parts
  | cut parts stalls closed => exact .cut parts stalls closed
  | recordDelivered => exact .recordDelivered
  | recordDiscarded => exact .recordDiscarded
  | deliver => exact .deliver

theorem SendMove.withStreams {payload : Payload} {channel : Channel} {stage stage' : Stage}
    (streams : List InboundStream)
    (move : SendMove payload channel sh l stage l' stage' effects) :
    SendMove payload channel sh (l.withStreams streams) stage (l'.withStreams streams) stage'
      effects := by
  cases move with
  | refused closing => exact .refused closing
  | admitted running => exact .admitted running
  | call goesOn moves step =>
    exact .call goesOn moves (by rw [Dispatch.step_withStreams, step])
  | sent => exact .sent
  | failed => exact .failed

theorem CallerMove.withStreams {o : Options} {k : Caller} {stage : Stage}
    (streams : List InboundStream) (move : CallerMove id o sh l k sh' l' stage effects) :
    CallerMove id o sh (l.withStreams streams) k sh' (l'.withStreams streams) stage effects := by
  cases move with
  | send out move => exact .send out (move.withStreams streams)
  | stopFirst running => exact .stopFirst running
  | stopLate closing => exact .stopLate closing
  | stopHangUp => exact .stopHangUp
  | told published => exact .told published

def hollow : InboundStream := ⟨[], false⟩

def hollowAt (number accepted : Nat) (streams : List InboundStream) : List InboundStream :=
  if number < accepted then streams else streams.set (number - accepted) hollow

/-- A core as if one stream had come and gone without content. -/
def Core.without (number : Nat) (c : Core) : Core :=
  { c with
    link := c.link.withStreams (hollowAt number c.drains.length c.link.streams)
    drains := c.drains.set number (.ended (.delivered [])) }

theorem set_append_set {α : Type} (items more : List α) (i : Nat) (x : α) :
    (items.set i x ++ more).set i x = (items ++ more).set i x := by
  by_cases less : i < items.length
  · simp [less]
  · rw [List.set_eq_of_length_le (Nat.not_lt.1 less)]

theorem hollowAt_append (number accepted : Nat) (streams more : List InboundStream) :
    hollowAt number accepted (hollowAt number accepted streams ++ more) =
      hollowAt number accepted (streams ++ more) := by
  unfold hollowAt
  split
  · rfl
  · exact set_append_set ..

@[simp] theorem hollowAt_hollowAt (number accepted : Nat) (streams : List InboundStream) :
    hollowAt number accepted (hollowAt number accepted streams) =
      hollowAt number accepted streams := by
  simpa using hollowAt_append number accepted streams []

theorem without_without (number : Nat) (c : Core) : (c.without number).without number =
    c.without number := by
  simp [Core.without, Link.withStreams]

theorem all_isEnded_set {drains : List Drain} (ended : drains.all Drain.isEnded = true)
    (number : Nat) : (drains.set number (.ended (.delivered []))).all Drain.isEnded = true := by
  rw [List.all_eq_true] at ended ⊢
  intro d mem
  obtain old | rfl := List.mem_or_eq_of_mem_set mem
  · exact ended d old
  · rfl

theorem hollowAt_cons (number accepted : Nat) (stream : InboundStream)
    (rest : List InboundStream) : ∃ first,
      hollowAt number accepted (stream :: rest) = first :: hollowAt number (accepted + 1) rest ∧
        (number ≠ accepted → first = stream) := by
  unfold hollowAt
  obtain less | rfl | more := Nat.lt_trichotomy number accepted
  · exact ⟨stream, by simp [less, Nat.lt_succ_of_lt less], fun _ => rfl⟩
  · exact ⟨hollow, by simp, fun other => absurd rfl other⟩
  · obtain ⟨gap, rfl⟩ := Nat.exists_eq_add_of_lt more
    have back : accepted + gap + 1 - accepted = gap + 1 := by omega
    have back' : accepted + gap + 1 - (accepted + 1) = gap := by omega
    refine ⟨stream, ?_, fun _ => rfl⟩
    rw [if_neg (by omega), if_neg (by omega), back, back', List.set_cons_succ]

theorem Move.without (h : Move c t c' effects) (other : t ≠ .drain number) :
    ∃ c₂, Move (c.without number) t c₂ effects ∧ c₂.without number = c'.without number ∧
      c₂.acceptor = c'.acceptor := by
  have same (move : Move (c.without number) t (c'.without number) effects) :
      ∃ c₂, Move (c.without number) t c₂ effects ∧ c₂.without number = c'.without number ∧
        c₂.acceptor = c'.acceptor := ⟨_, move, without_without .., rfl⟩
  -- All moves but two are the same without the stream. The acceptor may take a hollow stream, but
  -- what it takes is left out again; and where it joins its drains, one more has ended.
  cases h with
  | take reading opened queue => exact same (.take reading opened queue)
  | takeError reading opened queue => exact same (.takeError reading opened queue)
  | readClosed reading closed => exact same (.readClosed reading closed)
  | recordDatagram reader => exact same (.recordDatagram reader)
  | deliverDatagram reader => exact same (.deliverDatagram reader)
  | endReader reader move =>
    have going := Move.endReader (c := c.without number) reader (move.withStreams _)
    refine same (going.of_eq ?_)
    simp [Core.without, move.inbound.2]
  | @accept stream rest accepting works opened queue =>
    obtain ⟨first, hollowed, plain⟩ := hollowAt_cons number c.drains.length stream rest
    have going := Move.accept (c := c.without number) accepting works opened
      (by simpa [Core.without, Link.withStreams, queue] using hollowed)
    refine ⟨_, going, ?_, rfl⟩
    have drains : (c.drains.set number (.ended (.delivered [])) ++ [Drain.reading first []]).set
        number (.ended (.delivered [])) =
        (c.drains ++ [Drain.reading stream []]).set number (.ended (.delivered [])) := by
      rw [set_append_set]
      by_cases here : number = c.drains.length
      · simp [here]
      · rw [plain here]
    simp [Core.without, Link.withStreams, drains]
  | acceptError accepting fails => exact same (.acceptError accepting fails)
  | join joining drained => exact same (.join joining (all_isEnded_set drained number))
  | endAcceptor acceptor move =>
    have going := Move.endAcceptor (c := c.without number) acceptor (move.withStreams _)
    refine same (going.of_eq ?_)
    simp [Core.without, move.inbound.2]
  | @drain k d d' _ drain move =>
    have apart : k ≠ number := fun same => other (congrArg _ same)
    have here : (c.without number).drains[k]? = some d := by
      rw [Core.without, List.getElem?_set_ne apart.symm, drain]
    have going := Move.drain here (move.withStreams _)
    refine same (going.of_eq ?_)
    simp [Core.without, List.set_comm _ _ apart]
  | call caller move =>
    have going := Move.call (c := c.without number) caller (move.withStreams _)
    refine same (going.of_eq ?_)
    simp [Core.without, move.inbound.2]

theorem Goes.without (h : Goes c a c' effects) (other : a ≠ .step (.drain number)) :
    ∃ c₂, Goes (c.without number) a c₂ effects ∧ c₂.without number = c'.without number := by
  cases h with
  | steps steps =>
    obtain ⟨c₂, move, same, acceptor⟩ := steps.move.without fun h => other (congrArg _ h)
    refine ⟨c₂, .steps ⟨move, fun e accepting joining => ?_⟩, same⟩
    exact steps.meets e accepting (acceptor ▸ joining)
  | @request r =>
    exact ⟨_, .request, without_without number { c with callers := c.callers ++ [⟨r, .asked⟩] }⟩
  | @event e =>
    refine ⟨_, .event, ?_⟩
    cases e with
    | stream stream =>
      simp [Core.without, Link.withStreams, Link.apply, Link.pushStream, hollowAt_append]
    | _ =>
      simp [Core.without, Link.withStreams, Link.apply, Link.pushDatagram, Link.shut,
        Link.arrange]
  | pass => exact ⟨_, .pass, without_without number c⟩

theorem Acts.without (h : Acts c (.step (.drain number)) c' effects) :
    c'.without number = c.without number := by
  cases h with
  | moves move =>
    cases move with
    | drain => simp [Core.without, Link.withStreams]
  | waits => rfl

def shownApart (number : Nat) (entries : List (Task × Effect)) : List (Task × Effect) :=
  entries.filter fun x => x.1 ≠ .drain number && !x.2.isDiagnostic

def turnApart (number : Nat) (s : Session) : Action → List Action
  | .step t => if t ≠ .drain number ∧ s.canStep t = true then [.step t] else []
  | a => [a]

/-- What happens in a run and who takes a step in it, but for the steps of one drain. -/
def scheduleApart (number : Nat) (s : Session) (actions : List Action) : List Action :=
  along (turnApart number) s actions

theorem turnApart_of_able (own : a ≠ .step (.drain number))
    (able : ∀ t, a = .step t → s.canStep t = true) : turnApart number s a = [a] := by
  cases a with
  | step t =>
    have apart : t ≠ .drain number := fun same => own (congrArg _ same)
    simp [turnApart, apart, able t rfl]
  | _ => rfl

theorem mem_turnApart {b : Action} (mem : b ∈ turnApart number s a) :
    b ≠ .step (.drain number) := by
  cases a with
  | step t =>
    rw [turnApart] at mem
    split at mem
    · rename_i apart
      obtain rfl := List.mem_singleton.1 mem
      exact fun same => apart.1 (Action.step.inj same)
    · simp at mem
  | _ =>
    obtain rfl := List.mem_singleton.1 mem
    simp

theorem mem_scheduleApart {actions : List Action} (mem : a ∈ scheduleApart number s actions) :
    a ≠ .step (.drain number) := by
  induction actions generalizing s with
  | nil => simp [scheduleApart, along] at mem
  | cons b rest ih =>
    obtain here | later := List.mem_append.1 mem
    · exact mem_turnApart here
    · exact ih later

theorem scheduleApart_own (number : Nat) (s : Session) (turns : Nat) :
    scheduleApart number s (List.replicate turns (.step (.drain number))) = [] := by
  induction turns generalizing s with
  | zero => rfl
  | succ turns ih =>
    have later := ih (s.act (.step (.drain number)))
    rw [scheduleApart] at later
    simp [scheduleApart, List.replicate_succ, along, turnApart, later]

def entriesOf : Action → List Effect → List (Task × Effect)
  | .step t, effects => effects.map (t, ·)
  | _, _ => []

inductive Follows (number : Nat) : Core → List Action → Core → List (Task × Effect) → Prop where
  | nil {c : Core} : Follows number c [] c []
  | cons {c c₂ c' : Core} {a : Action} {rest : List Action} {effects : List Effect}
      {entries : List (Task × Effect)} (goes : Goes c a c₂ effects)
      (later : Follows number (c₂.without number) rest c' entries) :
      Follows number c (a :: rest) c' (entriesOf a effects ++ entries)

theorem Follows.unique {schedule : List Action} {c₁ c₂ : Core}
    {entries₁ entries₂ : List (Task × Effect)} (h₁ : Follows number c schedule c₁ entries₁)
    (h₂ : Follows number c schedule c₂ entries₂) : c₁ = c₂ ∧ entries₁ = entries₂ := by
  induction h₁ generalizing c₂ entries₂ with
  | nil =>
    cases h₂
    exact ⟨rfl, rfl⟩
  | cons goes₁ later₁ ih =>
    cases h₂ with
    | cons goes₂ later₂ =>
      obtain ⟨rfl, rfl⟩ := goes₁.unique goes₂
      obtain ⟨rfl, rfl⟩ := ih later₂
      exact ⟨rfl, rfl⟩

theorem shownApart_newsByTask (s : Session) (other : a ≠ .step (.drain number)) :
    shownApart number (s.newsByTask a) = entriesOf a (visible (s.news a)) := by
  cases a with
  | step t =>
    have apart : t ≠ .drain number := fun same => other (congrArg _ same)
    simp [shownApart, newsByTask, entriesOf, visible, List.filter_map, Function.comp_def, apart]
  | _ => rfl

theorem shownApart_own (s : Session) (number : Nat) :
    shownApart number (s.newsByTask (.step (.drain number))) = [] := by
  simp [shownApart, newsByTask]

/-- Without its stream a run is what its schedule makes of the core without that stream. -/
theorem follows_run (number : Nat) (s : Session) (actions : List Action) :
    Follows number (s.core.without number) (scheduleApart number s actions)
      ((s.run actions).core.without number) (shownApart number (s.chronicle actions)) := by
  induction actions generalizing s with
  | nil => exact .nil
  | cons a rest ih =>
    have later := ih (s.act a)
    have split : shownApart number (s.chronicle (a :: rest)) =
        shownApart number (s.newsByTask a) ++ shownApart number ((s.act a).chronicle rest) :=
      List.filter_append ..
    rw [split, show s.run (a :: rest) = (s.act a).run rest from rfl,
      show scheduleApart number s (a :: rest) =
        turnApart number s a ++ scheduleApart number (s.act a) rest from rfl]
    -- A turn of the drain, an action that comes to something, or a turn that comes to nothing.
    by_cases own : a = .step (.drain number)
    · subst own
      rw [shownApart_own, ← (acts s (.step (.drain number))).without]
      simpa [turnApart] using later
    · by_cases able : ∀ t, a = .step t → s.canStep t = true
      · obtain ⟨c₂, step, same⟩ := (goes s a able).without own
        rw [shownApart_newsByTask s own, turnApart_of_able own able]
        exact .cons step (same ▸ later)
      · obtain ⟨t, ht⟩ := Classical.not_forall.1 able
        obtain ⟨rfl, stuck⟩ := Classical.not_imp.1 ht
        have still := act_of_stuck (Bool.eq_false_iff.2 stuck)
        have silent : s.newsByTask (.step t) = [] := by simp [newsByTask, news, still]
        rw [still] at later
        rw [silent, still]
        simpa [turnApart, stuck, shownApart] using later

theorem Blocked.without (h : Blocked c t) (other : t ≠ .drain number)
    (finished : ∀ d, c.drains[number]? = some d → d.isEnded = true) :
    Blocked (c.without number) t := by
  have beside {k : Nat} (apart : k ≠ number) : (c.without number).drains[k]? = c.drains[k]? := by
    rw [Core.without, List.getElem?_set_ne apart.symm]
  cases h with
  | noDatagram reading opened queue => exact .noDatagram reading opened queue
  | readerEnded reader => exact .readerEnded reader
  | noStream accepting works opened queue =>
    have none : (c.without number).link.streams = [] := by
      simp [Core.without, Link.withStreams, queue, hollowAt]
    exact .noStream accepting works opened none
  | joining joining draining =>
    refine .joining joining ?_
    obtain ⟨d, mem, going⟩ := List.all_eq_false.1 draining
    obtain ⟨k, hd⟩ := List.getElem?_of_mem mem
    have apart : k ≠ number := by
      rintro rfl
      exact going (finished d hd)
    exact List.all_eq_false.2 ⟨d, List.mem_of_getElem? ((beside apart).trans hd), going⟩
  | acceptorEnded acceptor => exact .acceptorEnded acceptor
  | @noDrain k drain =>
    exact .noDrain ((beside fun same => other (congrArg _ same)).trans drain)
  | @stalled k _ _ drain parts stalls opened =>
    exact .stalled ((beside fun same => other (congrArg _ same)).trans drain) parts stalls opened
  | @drained k _ drain =>
    exact .drained ((beside fun same => other (congrArg _ same)).trans drain)
  | noCaller caller => exact .noCaller caller
  | answered caller stage => exact .answered caller stage
  | held caller stage opened => exact .held caller stage opened
  | untold caller unpublished => exact .untold caller unpublished
  | misplaced caller misplaced => exact .misplaced caller misplaced

end Session

end MessageTunnel
