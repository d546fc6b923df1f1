import MessageTunnel.Proofs.Session.HangUp
/-!
Where the errors come from that end the loops. A connection is closed by an event from outside or by
a task that hangs up, and by nothing else; a loop meets an error that closed the connection, or one
that came in its way while the connection was open.
-/
set_option autoImplicit false

namespace MessageTunnel

theorem Dispatch.Called.closed_eq {payload : Payload} {l l' : Link} {stage stage' : Dispatch.Stage}
    (h : Dispatch.Called payload l stage stage' l') :
    l'.closed = l.closed ∧ l'.acceptFailure = l.acceptFailure := by
  cases h <;> exact ⟨rfl, rfl⟩

namespace Session

variable {id : ConnectionId} {loop : Log.InboundLoop} {sh sh' : Shutdown} {l l' : Link}
  {stage stage' : Ending} {k : Caller} {c c' : Core} {t : Task} {a : Action} {effects : List Effect}
  {e : TransportError} {reason : CloseReason}

def Reader.error? : Reader → Option TransportError
  | .ending (.classify e) => some e
  | _ => none

def Acceptor.error? : Acceptor → Option TransportError
  | .joining e | .ending (.classify e) => some e
  | _ => none

theorem reader_of_error? {r : Reader} (h : r.error? = some e) : r = .ending (.classify e) := by
  unfold Reader.error? at h
  split at h
  · rw [Option.some.inj h]
  · simp at h

theorem acceptor_of_error? {r : Acceptor} (h : r.error? = some e) :
    r = .joining e ∨ r = .ending (.classify e) := by
  unfold Acceptor.error? at h
  split at h
  · exact .inl (by rw [Option.some.inj h])
  · exact .inr (by rw [Option.some.inj h])
  · simp at h

inductive Core.Loses (c : Core) (e : TransportError) : Prop where
  | datagram (queue : .error e ∈ c.link.datagrams)
  | stream (fails : c.link.acceptFailure = some e)
  | reader (met : c.reader.error? = some e)
  | acceptor (met : c.acceptor.error? = some e)

def Action.loss? : Action → Option TransportError
  | .event (.datagram (.error e)) | .event (.acceptFailed e) => some e
  | _ => none

def Core.hangsUp (c : Core) : Task → Bool
  | .reader => c.reader = .ending .hangUp
  | .acceptor => c.acceptor = .ending .hangUp
  | .drain _ => false
  | .caller number =>
    match c.callers[number]? with
    | some ⟨.stop, .hangUp⟩ => true
    | _ => false

def Core.closes? (c : Core) : Action → Option TransportError
  | .event (.peerClosed notice) => some (.ofNotice notice)
  | .event (.broken e) => some e
  | .step t => if c.hangsUp t then some .locallyClosed else none
  | _ => none

theorem EndMove.closed_eq (move : EndMove id loop sh l stage sh' l' stage' effects) :
    l'.closed = l.closed.or (if stage = .hangUp then some .locallyClosed else none) := by
  cases move <;> simp [Link.close, Link.shut, Link.record]

theorem SendMove.link_eq {payload : Payload} {channel : Channel} {stage stage' : Stage}
    (move : SendMove payload channel sh l stage l' stage' effects) :
    l'.closed = l.closed ∧ l'.acceptFailure = l.acceptFailure ∧ l'.datagrams = l.datagrams := by
  cases move with
  | @call _ stage _ _ _ step =>
    have called := Dispatch.called payload stage l
    rw [step] at called
    exact ⟨called.closed_eq.1, called.closed_eq.2, called.inbound.1⟩
  | _ => exact ⟨rfl, rfl, rfl⟩

theorem hangsUp_caller {number : Nat} (caller : c.callers[number]? = some k)
    (h : k ≠ ⟨.stop, .hangUp⟩) : c.hangsUp (.caller number) = false := by
  simp only [Core.hangsUp, caller]
  split
  · rename_i hk
    exact absurd (Option.some.inj hk) h
  · rfl

theorem hangsUp_of_blocked (h : Blocked c t) : c.hangsUp t = false := by
  cases h with
  | noDatagram reading => simp [Core.hangsUp, reading]
  | readerEnded reader => simp [Core.hangsUp, reader]
  | noStream accepting => simp [Core.hangsUp, accepting]
  | joining joining => simp [Core.hangsUp, joining]
  | acceptorEnded acceptor => simp [Core.hangsUp, acceptor]
  | noDrain | stalled | drained => rfl
  | noCaller caller => simp [Core.hangsUp, caller]
  | answered caller stage => exact hangsUp_caller caller (by rintro rfl; simp at stage)
  | held caller stage => exact hangsUp_caller caller (by rintro rfl; simp at stage)
  | untold caller => exact hangsUp_caller caller (by simp)
  | misplaced caller misplaced =>
    exact hangsUp_caller caller (by rintro rfl; simp [Caller.isMisplaced] at misplaced)

theorem Acts.closed_eq (h : Acts c a c' effects) :
    c'.link.closed = c.link.closed.or (c.closes? a) := by
  cases h with
  | moves move =>
    cases move with
    | endReader reader move => simp [move.closed_eq, Core.closes?, Core.hangsUp, reader]
    | endAcceptor acceptor move => simp [move.closed_eq, Core.closes?, Core.hangsUp, acceptor]
    | take reading | takeError reading | readClosed reading =>
      simp [Core.closes?, Core.hangsUp, reading]
    | recordDatagram reader | deliverDatagram reader => simp [Core.closes?, Core.hangsUp, reader]
    | accept accepting | acceptError accepting => simp [Core.closes?, Core.hangsUp, accepting]
    | join joining => simp [Core.closes?, Core.hangsUp, joining]
    | drain => simp [Core.closes?, Core.hangsUp]
    | call caller move =>
      cases move with
      | send out move =>
        have idle := hangsUp_caller caller (by rintro rfl; simp [Request.outgoing?] at out)
        simp [move.link_eq.1, Core.closes?, idle]
      | stopHangUp => simp [Core.closes?, Core.hangsUp, caller, Link.close, Link.shut, Link.record]
      | _ => simp [Core.closes?, Core.hangsUp, caller]
  | waits blocked => simp [Core.closes?, hangsUp_of_blocked blocked]
  | request => simp [Core.closes?]
  | @event e => cases e <;> simp [Core.closes?, Link.apply, Link.pushDatagram, Link.pushStream,
      Link.arrange, Link.shut]
  | pass => simp [Core.closes?]

theorem Acts.closed_stays (h : Acts c a c' effects) (closed : c.link.closed = some e) :
    c'.link.closed = some e := by
  rw [h.closed_eq, closed, Option.some_or]

theorem EndMove.link_eq (move : EndMove id loop sh l stage sh' l' stage' effects) :
    l'.datagrams = l.datagrams ∧ l'.acceptFailure = l.acceptFailure := by
  cases move <;> exact ⟨rfl, rfl⟩

theorem EndMove.not_classify (move : EndMove id loop sh l stage sh' l' stage' effects) :
    stage' ≠ .classify e := by
  cases move with
  | @leaveLast _ _ _ reason => simp
  | _ => simp

theorem CallerMove.link_eq {o : Options} {stage : Stage}
    (move : CallerMove id o sh l k sh' l' stage effects) :
    l'.datagrams = l.datagrams ∧ l'.acceptFailure = l.acceptFailure := by
  cases move with
  | send out move => exact ⟨move.link_eq.2.2, move.link_eq.2.1⟩
  | _ => exact ⟨rfl, rfl⟩

/-- An error in the way of a loop has been there before, or it has closed the connection, or an
action has just put it there. -/
theorem Acts.loses (h : Acts c a c' effects) (loses : c'.Loses e) :
    c.Loses e ∨ c.link.closed = some e ∨ a.loss? = some e := by
  -- What is left of a queue has been in it; a loop that has met an error has taken it from there.
  have keep (datagrams : ∀ e, .error e ∈ c'.link.datagrams → .error e ∈ c.link.datagrams)
      (accept : c'.link.acceptFailure = c.link.acceptFailure)
      (reader : ∀ e, c'.reader.error? = some e → c.reader.error? = some e ∨
        .error e ∈ c.link.datagrams ∨ c.link.closed = some e)
      (acceptor : ∀ e, c'.acceptor.error? = some e → c.acceptor.error? = some e ∨
        c.link.acceptFailure = some e ∨ c.link.closed = some e) :
      c.Loses e ∨ c.link.closed = some e ∨ a.loss? = some e := by
    cases loses with
    | datagram queue => exact .inl (.datagram (datagrams e queue))
    | stream fails => exact .inl (.stream (accept ▸ fails))
    | reader met =>
      obtain met | queue | closed := reader e met
      · exact .inl (.reader met)
      · exact .inl (.datagram queue)
      · exact .inr (.inl closed)
    | acceptor met =>
      obtain met | fails | closed := acceptor e met
      · exact .inl (.acceptor met)
      · exact .inl (.stream fails)
      · exact .inr (.inl closed)
  cases h with
  | moves move =>
    cases move with
    | take reading opened queue =>
      exact keep (by simp [queue]) rfl (by simp [Reader.error?]) fun _ => .inl
    | takeError reading opened queue =>
      exact keep (by simp +contextual [queue]) rfl (by simp +contextual [Reader.error?, queue])
        fun _ => .inl
    | readClosed reading closed =>
      exact keep (fun _ h => h) rfl (by simp [Reader.error?, closed]) fun _ => .inl
    | recordDatagram reader | deliverDatagram reader =>
      exact keep (fun _ h => h) rfl (by simp [Reader.error?]) fun _ => .inl
    | endReader reader move =>
      refine keep (by simp [move.link_eq.1]) move.link_eq.2 (fun e met => ?_) fun _ => .inl
      exact absurd (reader_of_error? met) (by simpa using move.not_classify)
    | accept accepting => exact keep (fun _ h => h) rfl (fun _ => .inl) fun _ => .inl
    | acceptError accepting fails =>
      refine keep (fun _ h => h) rfl (fun _ => .inl) fun e met => ?_
      obtain rfl := by simpa [Acceptor.error?] using met
      exact .inr fails
    | join joining =>
      exact keep (fun _ h => h) rfl (fun _ => .inl) (by simp [joining, Acceptor.error?])
    | endAcceptor acceptor move =>
      refine keep (by simp [move.link_eq.1]) move.link_eq.2 (fun _ => .inl) fun e met => ?_
      obtain joining | ending := acceptor_of_error? met
      · simp at joining
      · exact absurd ending (by simpa using move.not_classify)
    | drain => exact keep (fun _ h => h) rfl (fun _ => .inl) fun _ => .inl
    | call caller move =>
      exact keep (by simp [move.link_eq.1]) move.link_eq.2 (fun _ => .inl) fun _ => .inl
  | @event event =>
    cases loses with
    | datagram queue =>
      cases event with
      | datagram d =>
        obtain old | rfl := by simpa [Link.apply, Link.pushDatagram] using queue
        · exact .inl (.datagram old)
        · exact .inr (.inr rfl)
      | _ => exact .inl (.datagram queue)
    | stream fails =>
      cases event with
      | acceptFailed e' => exact .inr (.inr fails)
      | _ => exact .inl (.stream fails)
    | reader met => exact .inl (.reader met)
    | acceptor met => exact .inl (.acceptor met)
  | request | pass | waits => exact keep (fun _ h => h) rfl (fun _ => .inl) fun _ => .inl

theorem not_loses_spawn (id : ConnectionId) (options : Options) (limit : Option Nat)
    (registry : Trace.Registry) (clock : Nat) :
    ¬ (spawn id options (.new limit) registry clock).core.Loses e := by
  rw [core_spawn]
  intro loses
  cases loses with
  | datagram queue => simp [Link.new] at queue
  | stream fails => simp [Link.new] at fails
  | reader met => simp [Reader.error?] at met
  | acceptor met => simp [Acceptor.error?] at met

/-- The error that an action brings in from outside. -/
def Action.trouble? : Action → Option TransportError
  | .event (.peerClosed notice) => some (.ofNotice notice)
  | .event (.broken e) => some e
  | a => a.loss?

def troubles (actions : List Action) : List TransportError := actions.filterMap Action.trouble?

theorem troubles_concat (actions : List Action) (a : Action) :
    troubles (actions ++ [a]) = troubles actions ++ a.trouble?.toList := by
  cases ht : a.trouble? <;> simp [troubles, ht]

/-- Nothing ends a session but itself and the troubles that came from outside. -/
structure Troubled (c : Core) (known : List TransportError) : Prop where
  loses : ∀ e, c.Loses e → e = .locallyClosed ∨ e ∈ known
  closed : ∀ e, c.link.closed = some e → e = .locallyClosed ∨ e ∈ known
  reason : ∀ reason, c.shutdown.reason = some reason →
    reason = .cooperative .here ∨ ∃ e ∈ known, reason = lossReason e

theorem closes?_origin (h : c.closes? a = some e) : e = .locallyClosed ∨ a.trouble? = some e := by
  unfold Core.closes? at h
  split at h
  · exact .inr h
  · exact .inr h
  · split at h
    · exact .inl (Option.some.inj h).symm
    · simp at h
  · simp at h

theorem trouble?_of_loss? (h : a.loss? = some e) : a.trouble? = some e := by
  unfold Action.trouble?
  split
  · simp [Action.loss?] at h
  · simp [Action.loss?] at h
  · exact h

theorem call?_origin (h : c.call? a = some reason) :
    reason = .cooperative .here ∨ ∃ e, c.Loses e ∧ reason = lossReason e := by
  unfold Core.call? at h
  split at h
  · obtain ⟨stage, ending, call⟩ := Option.bind_eq_some_iff.1 h
    cases stage with
    | classify e =>
      refine .inr ⟨e, .reader ?_, (Option.some.inj call).symm⟩
      rw [reader_eq ending]
      rfl
    | _ => simp [Ending.call?] at call
  · obtain ⟨stage, ending, call⟩ := Option.bind_eq_some_iff.1 h
    cases stage with
    | classify e =>
      refine .inr ⟨e, .acceptor ?_, (Option.some.inj call).symm⟩
      rw [acceptor_eq ending]
      rfl
    | _ => simp [Ending.call?] at call
  · split at h
    · exact .inl (Option.some.inj h).symm
    · simp at h
  · simp at h

theorem Acts.reason_eq (h : Acts c a c' effects)
    (fresh : c.shutdown.state = .running → c.shutdown.reason = none) :
    c'.shutdown.reason.toList = c.shutdown.reason.toList ++ c.took a := by
  cases h with
  | moves move => exact move.reason_eq fresh
  | waits blocked => simp [took_eq, call?_of_blocked blocked]
  | _ => simp [took_eq, Core.call?]

theorem Troubled.acts {known : List TransportError} (h : Troubled c known)
    (acts : Acts c a c' effects) (fresh : c.shutdown.state = .running → c.shutdown.reason = none) :
    Troubled c' (known ++ a.trouble?.toList) where
  loses := by
    intro e loses
    obtain old | closed | new := acts.loses loses
    · exact (h.loses e old).imp_right (List.mem_append_left _)
    · exact (h.closed e closed).imp_right (List.mem_append_left _)
    · exact .inr (List.mem_append_right _ (by simp [trouble?_of_loss? new]))
  closed := by
    intro e closed
    rw [acts.closed_eq, Option.or_eq_some_iff] at closed
    obtain old | ⟨-, new⟩ := closed
    · exact (h.closed e old).imp_right (List.mem_append_left _)
    · exact (closes?_origin new).imp_right fun trouble =>
        List.mem_append_right _ (by simp [trouble])
  reason := by
    intro reason given
    have mem : reason ∈ c'.shutdown.reason.toList := by simp [given]
    rw [acts.reason_eq fresh] at mem
    have known {e : TransportError} (loses : c.Loses e) (he : reason = lossReason e) :
        reason = .cooperative .here ∨ ∃ e ∈ known ++ a.trouble?.toList, reason = lossReason e := by
      obtain rfl | mem := h.loses e loses
      · exact .inl he
      · exact .inr ⟨e, List.mem_append_left _ mem, he⟩
    obtain old | new := List.mem_append.1 mem
    · obtain here | ⟨e, mem, he⟩ := h.reason reason (Option.mem_toList.1 old)
      · exact .inl here
      · exact .inr ⟨e, List.mem_append_left _ mem, he⟩
    · rw [took_eq] at new
      split at new
      · obtain here | ⟨e, loses, he⟩ := call?_origin (Option.mem_toList.1 new)
        · exact .inl here
        · exact known loses he
      · simp at new

/-- A session closes of its own accord, or for an error that has come from outside. -/
theorem reason_origin (id : ConnectionId) (options : Options) (limit : Option Nat)
    (registry : Trace.Registry) (clock : Nat) (actions : List Action)
    (given : ((spawn id options (.new limit) registry clock).run actions).shutdown.reason =
      some reason) :
    reason = .cooperative .here ∨ ∃ e ∈ troubles actions, reason = lossReason e := by
  have troubled : Troubled ((spawn id options (.new limit) registry clock).run actions).core
      (troubles actions) := by
    refine run_induction (P := fun actions s => Troubled s.core (troubles actions)) ?_ ?_ actions
    · refine ⟨fun e loses => ?_, ?_, ?_⟩
      · exact absurd loses (not_loses_spawn id options limit registry clock)
      · simp [core_spawn, Link.new]
      · simp [core_spawn, Shutdown.start]
    · intro actions a h
      have closing := closing_run id options (.new limit) registry clock actions
      have ha := h.acts (Session.acts _ a) closing.closure.running_iff.1
      rwa [troubles_concat]
  exact troubled.reason reason given

end Session

end MessageTunnel
