import MessageTunnel.Proofs.Session.Closing
import MessageTunnel.Proofs.Session.Delivery
import MessageTunnel.Proofs.Session.Outbound
set_option autoImplicit false

namespace MessageTunnel.Session

def inParts (parts : List Payload) : InboundStream := ⟨parts.map .ok, false⟩

/-- What the calls of a link bring to the session at the other end, the streams in any order. -/
structure Replayed (calls : List Call) (second : Session) (actions : List Action)
    (cuts : List (List Payload)) : Prop where
  datagrams : injectedDatagrams second actions = (datagramsIn calls).map .ok
  streams : injectedStreams second actions = cuts.map inParts
  cuts : (cuts.map List.flatten).Perm (finishedStreams calls)

def Caller.isReturning (k : Caller) : Bool :=
  match k.stage with
  | .sending (.ended (.ok _)) => true
  | _ => false

def Caller.sentOn? (channel : Channel) (k : Caller) : Option Payload :=
  match k.reply? with
  | some (.sent used) => if used = channel then k.request.payload? else none
  | _ => none

theorem failure?_inParts (parts : List Payload) : (inParts parts).failure? = none := by
  rw [InboundStream.failure?, inParts]
  induction parts with
  | nil => rfl
  | cons part rest ih => exact ih

theorem isComplete_inParts (parts : List Payload) : (inParts parts).IsComplete :=
  ⟨failure?_inParts parts, rfl⟩

theorem content_inParts (parts : List Payload) : (inParts parts).content = parts.flatten := by
  have h := untilError_map_ok parts []
  rw [List.append_nil] at h
  rw [InboundStream.content, inParts, h]
  simp [untilError]

theorem ending?_of_quiet {s : Session} {calls taken : List CloseReason} {known : List Effect}
    (h : Closing s.core calls taken known) (quiet : s.isQuiet = true)
    (running : s.state = .running) : s.reader.ending? = none ∧ s.acceptor.ending? = none := by
  have unreasoned : s.core.shutdown.reason = none := h.closure.running_iff.1 running
  have uncalled : ¬ (hasCalled s.reader.ending? = true ∨ hasCalled s.acceptor.ending? = true) :=
    fun called => by simpa [unreasoned] using h.closure.called called
  constructor
  · have hb : Blocked s.core .reader := blocked_of_quiet quiet (by simp [tasks])
    cases hb with
    | noDatagram reading => rw [show s.reader = _ from reading]; rfl
    | readerEnded reader =>
      rw [show s.reader = _ from reader] at uncalled
      exact absurd (.inl rfl) uncalled
  · have hb : Blocked s.core .acceptor := blocked_of_quiet quiet (by simp [tasks])
    cases hb with
    | noStream accepting => rw [show s.acceptor = _ from accepting]; rfl
    | joining joining => rw [show s.acceptor = _ from joining]; rfl
    | acceptorEnded acceptor =>
      rw [show s.acceptor = _ from acceptor] at uncalled
      exact absurd (.inr rfl) uncalled

theorem flatMap_range {α β : Type} {l : List α} {f : Nat → List β} (g : α → β)
    (h : ∀ number x, l[number]? = some x → f number = [g x]) :
    (List.range l.length).flatMap f = l.map g := by
  induction l generalizing f with
  | nil => rfl
  | cons x rest ih =>
    have hr := ih (f := fun number => f (number + 1)) fun number y hy => h (number + 1) y hy
    rw [List.length_cons, List.range_succ_eq_map, List.flatMap_cons, List.flatMap_map, hr]
    rw [h 0 x rfl]
    rfl

theorem replay_delivered (id : ConnectionId) (options : Options) (link : Link)
    (registry : Trace.Registry) (clock : Nat) (actions : List Action) (calls : List Call)
    (cuts : List (List Payload))
    (replayed : Replayed calls (spawn id options link registry clock) actions cuts)
    (quiet : ((spawn id options link registry clock).run actions).isQuiet = true)
    (running : ((spawn id options link registry clock).run actions).state = .running) :
    messagesOf .reader (spawn id options link registry clock) actions = datagramsIn calls ∧
      (((spawn id options link registry clock).run actions).history.filterMap
        Effect.message?).Perm (datagramsIn calls ++ finishedStreams calls) := by
  have perm := messages_perm id options link registry clock actions
  have closing := closing_run id options link registry clock actions
  have delivered := delivered_run id options link registry clock actions
  generalize spawn id options link registry clock = second at *
  obtain ⟨reader, acceptor⟩ := ending?_of_quiet closing quiet running
  have flow : ∀ stream ∈ injectedStreams second actions, stream.stalls = false := by
    intro stream mem
    rw [replayed.streams] at mem
    obtain ⟨parts, -, rfl⟩ := List.mem_map.1 mem
    rfl
  have accepting := delivered.accepting quiet acceptor flow
  obtain ⟨datagrams, all, streams⟩ := delivered.of_quiet quiet reader accepting
  have injective : Function.Injective (Except.ok : Payload → Except TransportError Payload) :=
    fun p q h => Except.ok.inj h
  have inOrder : messagesOf .reader second actions = datagramsIn calls :=
    List.map_injective_iff.2 injective (datagrams.trans replayed.datagrams)
  refine ⟨inOrder, ?_⟩
  have drained : ((List.range (acceptedIn second actions).length).flatMap fun number =>
      messagesOf (.drain number) second actions) = cuts.map List.flatten := by
    rw [all, replayed.streams, List.length_map]
    refine flatMap_range List.flatten fun number parts hp => ?_
    have hs : (injectedStreams second actions)[number]? = some (inParts parts) := by
      rw [replayed.streams, List.getElem?_map, hp]
      rfl
    rw [(streams number _ hs rfl).2 (isComplete_inParts parts), content_inParts]
  dsimp only at perm
  rw [inOrder, drained] at perm
  exact perm.trans (replayed.cuts.append_left _)

theorem out?_eq_sentOn? {k : Caller} (told : k.isReturning = false) (channel : Channel) :
    k.out? channel = k.sentOn? channel := by
  obtain ⟨request, stage⟩ := k
  cases stage with
  | sending stage =>
    cases stage with
    | ended result =>
      cases result with
      | ok used => simp [Caller.isReturning] at told
      | error e => rfl
    | _ => rfl
  | replied reply =>
    cases reply with
    | sent used => simp [Caller.out?, Caller.sentOn?, Stage.used?, Caller.reply?]
    | _ => rfl
  | _ => rfl

theorem sent?_perm (callers : List Caller) :
    (callers.filterMap (Caller.sentOn? .datagram) ++
      callers.filterMap (Caller.sentOn? .stream)).Perm (callers.filterMap Caller.sent?) := by
  induction callers with
  | nil => rfl
  | cons k rest ih =>
    -- A send that succeeded did so on one of the two channels.
    have split : (k.sentOn? .datagram = k.sent? ∧ k.sentOn? .stream = none) ∨
        (k.sentOn? .datagram = none ∧ k.sentOn? .stream = k.sent?) := by
      unfold Caller.sentOn? Caller.sent?
      cases k.reply? with
      | none => exact .inl ⟨rfl, rfl⟩
      | some reply =>
        cases reply with
        | sent used =>
          cases used with
          | datagram => exact .inl ⟨rfl, rfl⟩
          | stream => exact .inr ⟨rfl, rfl⟩
        | _ => exact .inl ⟨rfl, rfl⟩
    cases hs : k.sent? with
    | none =>
      obtain ⟨datagram, stream⟩ | ⟨datagram, stream⟩ := split
      · simpa [datagram, stream, hs] using ih
      · simpa [datagram, stream, hs] using ih
    | some payload =>
      obtain ⟨datagram, stream⟩ | ⟨datagram, stream⟩ := split
      · simpa [datagram, stream, hs] using ih.cons payload
      · simpa [List.filterMap_cons, datagram, stream, hs] using
          List.perm_middle.trans (ih.cons payload)

/-- What one session sends is what the host of the other gets: the messages of the sends that
succeeded, those sent as datagrams in the order of the sends. -/
theorem round_trip (id₁ id₂ : ConnectionId) (options₁ options₂ : Options) (limit : Option Nat)
    (link : Link) (registry₁ registry₂ : Trace.Registry) (clock₁ clock₂ : Nat)
    (actions more : List Action) (cuts : List (List Payload))
    (told : ∀ k ∈ ((spawn id₁ options₁ (.new limit) registry₁ clock₁).run actions).callers,
      k.isReturning = false)
    (replayed : Replayed
      ((spawn id₁ options₁ (.new limit) registry₁ clock₁).run actions).link.calls
      (spawn id₂ options₂ link registry₂ clock₂) more cuts)
    (quiet : ((spawn id₂ options₂ link registry₂ clock₂).run more).isQuiet = true)
    (running : ((spawn id₂ options₂ link registry₂ clock₂).run more).state = .running) :
    let first := spawn id₁ options₁ (.new limit) registry₁ clock₁
    let second := spawn id₂ options₂ link registry₂ clock₂
    ((second.run more).history.filterMap Effect.message?).Perm
        ((first.run actions).callers.filterMap Caller.sent?) ∧
      messagesOf .reader second more = datagramsIn (first.run actions).link.calls ∧
      (InTurn first actions → messagesOf .reader second more =
        (first.run actions).callers.filterMap (Caller.sentOn? .datagram)) := by
  intro first second
  obtain ⟨inOrder, perm⟩ := replay_delivered id₂ options₂ link registry₂ clock₂ more _ cuts
    replayed quiet running
  obtain ⟨outbound, orderly⟩ := outbound_run id₁ options₁ limit registry₁ clock₁ actions
  have out (channel : Channel) : (first.run actions).callers.filterMap (Caller.out? channel) =
      (first.run actions).callers.filterMap (Caller.sentOn? channel) :=
    List.filterMap_congr fun k mem => out?_eq_sentOn? (told k mem) channel
  have datagrams := outbound.datagrams
  have streams := outbound.streams
  rw [out] at datagrams streams
  refine ⟨?_, inOrder, fun turn => ?_⟩
  · exact perm.trans ((datagrams.append streams).trans (sent?_perm _))
  · rw [inOrder, ← out]
    exact (orderly turn).order

def fourSends : List Action :=
  .request (.send [1, 2]) :: List.replicate 3 (.step (.caller 0)) ++
    .request (.sendStream [3]) :: List.replicate 5 (.step (.caller 1)) ++
    .event (.failureArranged .write (.streamReset 7)) :: .request (.sendStream [4]) ::
      List.replicate 4 (.step (.caller 2)) ++
    .request (.send [5, 6, 7, 8]) :: List.replicate 3 (.step (.caller 3))

def theirArrival : List Action :=
  .event (.stream (inParts [[], [3]])) :: .event (.datagram (.ok [1, 2])) :: .step .acceptor ::
    List.replicate 3 (.step .reader) ++ List.replicate 5 (.step (.drain 0))

def sender : Session := spawn (.ofNumber 1) .client (.new (some 3)) untraced 0

def receiver : Session := spawn (.ofNumber 2) .server (.new none) untraced 0

theorem round_trip_fourSends :
    (∀ k ∈ (sender.run fourSends).callers, k.isReturning = false) ∧
      Replayed (sender.run fourSends).link.calls receiver theirArrival [[[], [3]]] ∧
      (receiver.run theirArrival).isQuiet = true ∧
      (receiver.run theirArrival).state = .running ∧ InTurn sender fourSends ∧
      ((receiver.run theirArrival).history.filterMap Effect.message?).Perm [[1, 2], [3]] ∧
      messagesOf .reader receiver theirArrival = [[1, 2]] := by
  have told : ∀ k ∈ (sender.run fourSends).callers, k.isReturning = false := by decide +kernel
  have replayed : Replayed (sender.run fourSends).link.calls receiver theirArrival [[[], [3]]] :=
    ⟨rfl, rfl, .refl _⟩
  have quiet : (receiver.run theirArrival).isQuiet = true := by decide +kernel
  have running : (receiver.run theirArrival).state = .running := by decide +kernel
  have turn : InTurn sender fourSends := rfl
  obtain ⟨perm, -, order⟩ := round_trip (.ofNumber 1) (.ofNumber 2) .client .server (some 3)
    (.new none) untraced untraced 0 0 fourSends theirArrival [[[], [3]]] told replayed quiet running
  exact ⟨told, replayed, quiet, running, turn, perm, order turn⟩

end MessageTunnel.Session
