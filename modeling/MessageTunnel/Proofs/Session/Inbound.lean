import MessageTunnel.Proofs.Dispatch
import MessageTunnel.Proofs.Session.Streams
/-!
The two queues of what comes in, and the drains. Datagrams wait in one queue and are handed over in
its order; streams wait in another, and each one that is accepted has a drain of its own. The
invariants say how what came in divides into what was taken and what still waits, and each action
keeps them.
-/
set_option autoImplicit false

namespace MessageTunnel.Session

variable {id : ConnectionId} {loop : Log.InboundLoop} {sh sh' : Shutdown} {l l' : Link}
  {c c' : Core} {a : Action} {effects : List Effect}

def Action.datagram? : Action → Option (Except TransportError Payload)
  | .event (.datagram d) => some d
  | _ => none

def Action.stream? : Action → Option InboundStream
  | .event (.stream s) => some s
  | _ => none

def Core.accepts (c : Core) : Action → List InboundStream
  | .step .acceptor =>
    match c.acceptor, c.link.acceptStream with
    | .accepting, some (.ok stream, _) => [stream]
    | _, _ => []
  | _ => []

theorem EndMove.inbound {stage stage' : Ending}
    (move : EndMove id loop sh l stage sh' l' stage' effects) :
    l'.datagrams = l.datagrams ∧ l'.streams = l.streams := by
  cases move <;> exact ⟨rfl, rfl⟩

theorem EndMove.messages {stage stage' : Ending}
    (move : EndMove id loop sh l stage sh' l' stage' effects) :
    effects.filterMap Effect.message? = [] := by
  cases move <;> rfl

theorem SendMove.inbound {payload : Payload} {channel : Channel} {stage stage' : Stage}
    (move : SendMove payload channel sh l stage l' stage' effects) :
    l'.datagrams = l.datagrams ∧ l'.streams = l.streams := by
  cases move with
  | @call _ stage _ _ _ step =>
    have called := Dispatch.called payload stage l
    rw [step] at called
    exact called.inbound
  | _ => exact ⟨rfl, rfl⟩

theorem SendMove.messages {payload : Payload} {channel : Channel} {stage stage' : Stage}
    (move : SendMove payload channel sh l stage l' stage' effects) :
    effects.filterMap Effect.message? = [] := by
  cases move with
  | call => unfold callEffects; split <;> rfl
  | _ => rfl

theorem CallerMove.inbound {o : Options} {k : Caller} {stage : Stage}
    (move : CallerMove id o sh l k sh' l' stage effects) :
    l'.datagrams = l.datagrams ∧ l'.streams = l.streams := by
  cases move with
  | send out move => exact move.inbound
  | _ => exact ⟨rfl, rfl⟩

theorem CallerMove.messages {o : Options} {k : Caller} {stage : Stage}
    (move : CallerMove id o sh l k sh' l' stage effects) :
    effects.filterMap Effect.message? = [] := by
  cases move with
  | send out move => exact move.messages
  | _ => rfl

/-- The message that the reader holds between reading and handing it over. -/
def Reader.pending : Reader → List Payload
  | .record payload | .deliver payload => [payload]
  | _ => []

/-- What came in are the messages handed over, the one at hand, and a rest; the rest is what waits
in the queue as long as the reader is at work. -/
def Inbox (c : Core) (injected : List (Except TransportError Payload)) (handed : List Payload) :
    Prop :=
  ∃ rest, injected = (handed ++ c.reader.pending).map .ok ++ rest ∧
    (c.reader.ending? = none → rest = c.link.datagrams)

theorem Inbox.acts {injected : List (Except TransportError Payload)} {handed : List Payload}
    (h : Inbox c injected handed) (acts : Acts c a c' effects) :
    Inbox c' (injected ++ a.datagram?.toList)
      (handed ++ seenIn Effect.message? .reader a effects) := by
  obtain ⟨rest, hi, hr⟩ := h
  have keep (nothing : a.datagram? = none) (silent : seenIn Effect.message? .reader a effects = [])
      (reader : c'.reader = c.reader) (queue : c'.link.datagrams = c.link.datagrams) :
      Inbox c' (injected ++ a.datagram?.toList)
        (handed ++ seenIn Effect.message? .reader a effects) := by
    refine ⟨rest, ?_, ?_⟩
    · simp [nothing, silent, reader, hi]
    · rw [reader, queue]
      exact hr
  cases acts with
  | moves move =>
    cases move with
    | @take payload queued reading opened queue =>
      have hq := hr (by rw [reading]; rfl)
      exact ⟨queued, by simp [hi, hq, queue, reading, Reader.pending, Action.datagram?, seenIn,
        Effect.message?], fun _ => rfl⟩
    | takeError reading opened queue =>
      exact ⟨rest, by simp [hi, reading, Reader.pending, Action.datagram?, seenIn],
        by simp [Reader.ending?]⟩
    | readClosed reading closed =>
      exact ⟨rest, by simp [hi, reading, Reader.pending, Action.datagram?, seenIn],
        by simp [Reader.ending?]⟩
    | recordDatagram reader =>
      exact ⟨rest, by simp [hi, reader, Reader.pending, Action.datagram?, seenIn, Effect.message?],
        fun _ => hr (by rw [reader]; rfl)⟩
    | deliverDatagram reader =>
      exact ⟨rest, by simp [hi, reader, Reader.pending, Action.datagram?, seenIn, Effect.message?],
        fun _ => hr (by rw [reader]; rfl)⟩
    | endReader reader move =>
      exact ⟨rest, by simp [hi, reader, Reader.pending, Action.datagram?, seenIn, move.messages],
        by simp [Reader.ending?]⟩
    | endAcceptor acceptor move => exact keep rfl (by simp [seenIn]) rfl move.inbound.1
    | call caller move => exact keep rfl (by simp [seenIn]) rfl move.inbound.1
    | _ => exact keep rfl (by simp [seenIn]) rfl rfl
  | waits blocked => exact keep rfl (by simp [seenIn]) rfl rfl
  | @event e =>
    cases e with
    | datagram d =>
      refine ⟨rest ++ [d], ?_, fun going => ?_⟩
      · simp [hi, Action.datagram?, seenIn]
      · rw [hr going]
        rfl
    | _ => exact keep rfl rfl rfl rfl
  | _ => exact keep rfl rfl rfl rfl

def Intake (c : Core) (injected accepted : List InboundStream) : Prop :=
  ∃ rest, injected = accepted ++ rest ∧ (c.acceptor = .accepting → rest = c.link.streams)

theorem accepts_of_ne (a : Action) (h : c.acceptor ≠ .accepting) : c.accepts a = [] := by
  unfold Core.accepts
  split
  · split
    · rename_i accepting _
      exact absurd accepting h
    · rfl
  · rfl

theorem accepts_eq {stream : InboundStream} {rest : List InboundStream}
    (accepting : c.acceptor = .accepting) (works : c.link.acceptFailure = none)
    (opened : c.link.closed = none) (queue : c.link.streams = stream :: rest) :
    c.accepts (.step .acceptor) = [stream] := by
  simp [Core.accepts, Link.acceptStream, accepting, works, opened, queue]

theorem accepts_of_fails {e : TransportError}
    (fails : c.link.acceptFailure = some e ∨ c.link.closed = some e) :
    c.accepts (.step .acceptor) = [] := by
  unfold Core.accepts Link.acceptStream
  cases hf : c.link.acceptFailure with
  | some e => cases c.acceptor <;> rfl
  | none =>
    have closed : c.link.closed = some e := by simpa [hf] using fails
    cases c.acceptor <;> simp [closed]

theorem accepts_of_blocked {t : Task} (h : Blocked c t) : c.accepts (.step t) = [] := by
  cases h with
  | noStream accepting works opened queue =>
    simp [Core.accepts, Link.acceptStream, accepting, works, opened, queue]
  | joining joining => exact accepts_of_ne _ (by simp [joining])
  | acceptorEnded acceptor => exact accepts_of_ne _ (by simp [acceptor])
  | _ => rfl

theorem Intake.acts {injected accepted : List InboundStream} (h : Intake c injected accepted)
    (acts : Acts c a c' effects) :
    Intake c' (injected ++ a.stream?.toList) (accepted ++ c.accepts a) := by
  obtain ⟨rest, hi, hr⟩ := h
  have keep (nothing : a.stream? = none) (none : c.accepts a = [])
      (queue : c'.acceptor = .accepting →
        c.acceptor = .accepting ∧ c'.link.streams = c.link.streams) :
      Intake c' (injected ++ a.stream?.toList) (accepted ++ c.accepts a) := by
    refine ⟨rest, by simp [nothing, none, hi], fun accepting => ?_⟩
    obtain ⟨before, same⟩ := queue accepting
    rw [same, hr before]
  cases acts with
  | moves move =>
    cases move with
    | @accept stream queued accepting works opened queue =>
      have hq := hr accepting
      refine ⟨queued, ?_, fun _ => rfl⟩
      rw [accepts_eq accepting works opened queue, hi, hq, queue]
      simp [Action.stream?]
    | acceptError accepting fails => exact keep rfl (accepts_of_fails fails) (by simp)
    | join joining => exact keep rfl (accepts_of_ne _ (by simp [joining])) (by simp)
    | endAcceptor acceptor move => exact keep rfl (accepts_of_ne _ (by simp [acceptor])) (by simp)
    | endReader reader move => exact keep rfl rfl fun accepting => ⟨accepting, move.inbound.2⟩
    | call caller move => exact keep rfl rfl fun accepting => ⟨accepting, move.inbound.2⟩
    | _ => exact keep rfl rfl fun accepting => ⟨accepting, rfl⟩
  | waits blocked => exact keep rfl (accepts_of_blocked blocked) fun accepting => ⟨accepting, rfl⟩
  | @event e =>
    cases e with
    | stream s =>
      refine ⟨rest ++ [s], by simp [hi, Action.stream?, Core.accepts], fun accepting => ?_⟩
      rw [hr accepting]
      rfl
    | _ => exact keep rfl rfl fun accepting => ⟨accepting, rfl⟩
  | _ => exact keep rfl rfl fun accepting => ⟨accepting, rfl⟩

theorem Acts.drain (h : Acts c a c' effects) {number : Nat} {d : Drain}
    (hd : c.drains[number]? = some d) :
    (a ≠ .step (.drain number) ∧ c'.drains[number]? = some d) ∨
      (a = .step (.drain number) ∧
        ∃ d', c'.drains[number]? = some d' ∧ DrainMove c.link d d' effects) ∨
      (a = .step (.drain number) ∧ c' = c ∧ effects = [] ∧ Blocked c (.drain number)) := by
  have hn := (List.getElem?_eq_some_iff.1 hd).1
  cases h with
  | moves move =>
    cases move with
    | accept => exact .inl ⟨by simp, by rw [List.getElem?_append_left hn, hd]⟩
    | @drain other d₀ d' _ drain move =>
      by_cases same : other = number
      · subst same
        obtain rfl : d₀ = d := by simpa [drain] using hd
        exact .inr (.inl ⟨rfl, d', by simp [hn], move⟩)
      · exact .inl ⟨by simpa using same, by rw [List.getElem?_set_ne same, hd]⟩
    | _ => exact .inl ⟨by simp, hd⟩
  | @waits t blocked =>
    by_cases same : t = .drain number
    · subst same
      exact .inr (.inr ⟨rfl, rfl, rfl, blocked⟩)
    · exact .inl ⟨by simpa using same, hd⟩
  | _ => exact .inl ⟨by simp, hd⟩

theorem Acts.grows (h : Acts c a c' effects) :
    (c.accepts a = [] ∧ c'.drains.length = c.drains.length) ∨
      ∃ stream, a = .step .acceptor ∧ c.accepts a = [stream] ∧
        c'.drains = c.drains ++ [.reading stream []] := by
  cases h with
  | moves move =>
    cases move with
    | @accept stream rest accepting works opened queue =>
      exact .inr ⟨stream, rfl, accepts_eq accepting works opened queue, rfl⟩
    | acceptError accepting fails => exact .inl ⟨accepts_of_fails fails, rfl⟩
    | join joining => exact .inl ⟨accepts_of_ne _ (by simp [joining]), rfl⟩
    | endAcceptor acceptor move => exact .inl ⟨accepts_of_ne _ (by simp [acceptor]), rfl⟩
    | drain => exact .inl ⟨rfl, List.length_set⟩
    | _ => exact .inl ⟨rfl, rfl⟩
  | waits blocked => exact .inl ⟨accepts_of_blocked blocked, rfl⟩
  | _ => exact .inl ⟨rfl, rfl⟩

theorem seenIn_self {α : Type} (f : Effect → Option α) (t : Task) (effects : List Effect) :
    seenIn f t (.step t) effects = effects.filterMap f := if_pos rfl

theorem seenIn_other {α : Type} (f : Effect → Option α) {t : Task} (effects : List Effect)
    (other : a ≠ .step t) : seenIn f t a effects = [] := by
  cases a with
  | step t' => exact if_neg fun same => other (congrArg _ same)
  | _ => rfl

theorem Acts.unseen (h : Acts c a c' effects) {α : Type} (f : Effect → Option α) {number : Nat}
    (hn : c.drains.length ≤ number) : seenIn f (.drain number) a effects = [] := by
  cases h with
  | moves move =>
    cases move with
    | drain drain =>
      refine seenIn_other f _ fun same => ?_
      obtain rfl := by simpa using same
      have less := (List.getElem?_eq_some_iff.1 drain).1
      omega
    | _ => simp [seenIn]
  | waits => simp [seenIn]
  | _ => rfl

/-- Every accepted stream has its drain, and each drain accounts for its stream. -/
structure Drains (c : Core) (accepted : List InboundStream) (messages : Task → List Payload)
    (discards : Task → List (Nat × TransportError)) : Prop where
  length : c.drains.length = accepted.length
  holds : ∀ (number : Nat) (stream : InboundStream) (d : Drain),
    accepted[number]? = some stream → c.drains[number]? = some d →
      Holds stream d (messages (.drain number)) (discards (.drain number))
  later : ∀ number, c.drains.length ≤ number →
    messages (.drain number) = [] ∧ discards (.drain number) = []

theorem Drains.acts {accepted : List InboundStream} {messages : Task → List Payload}
    {discards : Task → List (Nat × TransportError)} (h : Drains c accepted messages discards)
    (acts : Acts c a c' effects) : Drains c' (accepted ++ c.accepts a)
      (fun t => messages t ++ seenIn Effect.message? t a effects)
      (fun t => discards t ++ seenIn Effect.discard? t a effects) := by
  have hlength := h.length
  -- A drain that was there before has moved on or stands still; only the last one can be new.
  have old (number : Nat) (stream : InboundStream) (d : Drain) (less : number < c.drains.length)
      (hs : (accepted ++ c.accepts a)[number]? = some stream)
      (hd : c'.drains[number]? = some d) :
      Holds stream d (messages (.drain number) ++ seenIn Effect.message? (.drain number) a effects)
        (discards (.drain number) ++ seenIn Effect.discard? (.drain number) a effects) := by
    rw [List.getElem?_append_left (by omega)] at hs
    have before := h.holds number stream c.drains[number] hs (List.getElem?_eq_getElem less)
    obtain ⟨other, after⟩ | ⟨rfl, d', after, move⟩ | ⟨rfl, rfl, rfl, -⟩ :=
      acts.drain (List.getElem?_eq_getElem less)
    · obtain rfl := Option.some.inj (after.symm.trans hd)
      simpa [seenIn_other _ _ other] using before
    · obtain rfl := Option.some.inj (after.symm.trans hd)
      simpa only [seenIn_self] using before.move move
    · obtain rfl := Option.some.inj ((List.getElem?_eq_getElem less).symm.trans hd)
      simpa [seenIn_self] using before
  obtain ⟨none, same⟩ | ⟨stream, rfl, one, grown⟩ := acts.grows
  · exact {
      length := by simp [none, same, hlength]
      holds := by
        intro number stream d hs hd
        have less := (List.getElem?_eq_some_iff.1 hd).1
        exact old number stream d (by omega) hs hd
      later := by
        intro number hn
        have hn : c.drains.length ≤ number := by omega
        simp [h.later number hn, acts.unseen _ hn] }
  · exact {
      length := by simp [one, grown, hlength]
      holds := by
        intro number stream' d hs hd
        by_cases less : number < c.drains.length
        · exact old number stream' d less hs hd
        · have bound := (List.getElem?_eq_some_iff.1 hd).1
          rw [grown, List.length_append, List.length_singleton] at bound
          obtain rfl : number = c.drains.length := by omega
          obtain rfl : stream = stream' := by simpa [one, hlength] using hs
          obtain rfl : _ = d := by simpa [grown] using hd
          simpa [h.later _ (Nat.le_refl _), acts.unseen _ (Nat.le_refl _)] using holds_start stream
      later := by
        intro number hn
        rw [grown, List.length_append] at hn
        have hn : c.drains.length ≤ number := by omega
        simp [h.later number hn, acts.unseen _ hn] }

end MessageTunnel.Session
