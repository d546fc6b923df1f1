import MessageTunnel.Proofs.Session.Closing
import MessageTunnel.Proofs.Session.Delivery
import MessageTunnel.Proofs.Session.Diary
/-!
The order in which a session calls its host: first the name of the trace file, then messages, and at
last the end. The end is told by the loop that leaves last; the acceptor leaves only when all drains
are over, so that by then nobody is left who would have anything to hand over.
-/
set_option autoImplicit false

namespace MessageTunnel.Session

variable {id : ConnectionId} {loop : Log.InboundLoop} {sh sh' : Shutdown} {l l' : Link}
  {stage stage' : Ending} {c c' : Core} {s : Session} {a : Action} {known effects : List Effect}
  {reason : CloseReason}

def Effect.isCallback : Effect → Bool
  | .announced _ | .message _ | .sessionClosed _ => true
  | _ => false

def callbacksIn (history : List Effect) : List Effect := history.filter Effect.isCallback

structure Core.IsSettled (c : Core) : Prop where
  reader : c.reader.ending?.isSome = true
  acceptor : c.acceptor.ending?.isSome = true
  drains : c.drains.all Drain.isEnded = true

theorem EndMove.callbacks (move : EndMove id loop sh l stage sh' l' stage' effects) :
    callbacksIn effects = [] ∨
      ∃ reason, callbacksIn effects = [.sessionClosed reason] ∧ stage = .notify reason := by
  cases move with
  | notify => exact .inr ⟨_, rfl, rfl⟩
  | _ => exact .inl rfl

theorem SendMove.callbacks {payload : Payload} {channel : Channel} {stage stage' : Stage}
    (move : SendMove payload channel sh l stage l' stage' effects) : callbacksIn effects = [] := by
  cases move with
  | call => unfold callEffects; split <;> rfl
  | _ => rfl

theorem DrainMove.callbacks {d d' : Drain} (move : DrainMove l d d' effects) :
    callbacksIn effects = [] ∨
      ∃ payload, callbacksIn effects = [.message payload] ∧ d.isEnded = false := by
  cases move with
  | @deliver message => exact .inr ⟨message, rfl, rfl⟩
  | _ => exact .inl rfl

theorem Acts.callbacks (h : Acts c a c' effects) :
    callbacksIn effects = [] ∨
      (∃ payload, callbacksIn effects = [.message payload] ∧ ¬ c.IsSettled) ∨
      ∃ reason, callbacksIn effects = [.sessionClosed reason] ∧
        (c.reader = .ending (.notify reason) ∨ c.acceptor = .ending (.notify reason)) := by
  cases h with
  | moves move =>
    cases move with
    | deliverDatagram reader =>
      refine .inr (.inl ⟨_, rfl, fun settled => ?_⟩)
      simpa [reader, Reader.ending?] using settled.reader
    | endReader reader move =>
      obtain none | ⟨reason, told, rfl⟩ := move.callbacks
      · exact .inl none
      · exact .inr (.inr ⟨reason, told, .inl reader⟩)
    | endAcceptor acceptor move =>
      obtain none | ⟨reason, told, rfl⟩ := move.callbacks
      · exact .inl none
      · exact .inr (.inr ⟨reason, told, .inr acceptor⟩)
    | drain drain move =>
      obtain none | ⟨payload, handed, going⟩ := move.callbacks
      · exact .inl none
      · refine .inr (.inl ⟨payload, handed, fun settled => ?_⟩)
        have ended := List.all_eq_true.1 settled.drains _ (List.mem_of_getElem? drain)
        simp [going] at ended
    | call caller move =>
      cases move with
      | send out move => exact .inl move.callbacks
      | _ => exact .inl rfl
    | _ => exact .inl rfl
  | _ => exact .inl rfl

/-- Once the acceptor has joined its drains they are over. -/
def Joined (c : Core) : Prop :=
  c.acceptor.ending?.isSome = true → c.drains.all Drain.isEnded = true

theorem DrainMove.not_ended {d d' : Drain} (move : DrainMove l d d' effects) :
    d.isEnded = false := by
  cases move <;> rfl

theorem Joined.acts (h : Joined c) (acts : Acts c a c' effects) : Joined c' := by
  cases acts with
  | moves move =>
    cases move with
    | accept accepting => simp [Joined, accepting, Acceptor.ending?]
    | acceptError => simp [Joined, Acceptor.ending?]
    | join joining drained => exact fun _ => drained
    | endAcceptor acceptor move => exact fun _ => h (by simp [acceptor, Acceptor.ending?])
    | drain drain move =>
      -- A drain that still moves has not been joined.
      intro joined
      have ended := List.all_eq_true.1 (h joined) _ (List.mem_of_getElem? drain)
      simp [move.not_ended] at ended
    | _ => exact h
  | _ => exact h

theorem closeReasons_of_rank {a b : Option Ending} (h : Closure sh known a b) :
    known.filterMap Effect.closeReason? =
      if 3 ≤ min (rank a) (rank b) then sh.reason.toList else [] := by
  rw [h.known]
  have bound : min (rank a) (rank b) ≤ 4 := by
    refine Nat.le_trans (Nat.min_le_left ..) ?_
    cases a with
    | none => simp [rank]
    | some stage => cases stage <;> simp [rank]
  generalize min (rank a) (rank b) = n at bound
  cases sh.reason with
  | none => simp [rites]
  | some reason =>
    obtain rfl | rfl | rfl | rfl | rfl : n = 0 ∨ n = 1 ∨ n = 2 ∨ n = 3 ∨ n = 4 := by omega
    all_goals rfl

theorem isSome_of_rank {e : Option Ending} (h : 0 < rank e) : e.isSome = true := by
  cases e with
  | none => simp [rank] at h
  | some stage => rfl

theorem closeReason?_callbacks (history : List Effect) :
    history.filterMap Effect.closeReason? =
      (callbacksIn history).filterMap Effect.closeReason? := by
  rw [callbacksIn, List.filterMap_filter]
  congr 1
  funext e
  cases e <;> rfl

theorem callbacksIn_visible {fresh : List Effect} (h : ∀ name, .announced name ∉ fresh) :
    callbacksIn (visible fresh) = callbacksIn fresh := by
  rw [callbacksIn, callbacksIn, visible, List.filter_filter]
  refine List.filter_congr fun e mem => ?_
  cases e with
  | announced name => exact absurd mem (h name)
  | logged entry => cases entry <;> rfl
  | _ => rfl

def Ordered (history : List Effect) : Prop :=
  ∃ (name : Option String) (messages : List Payload), callbacksIn history =
    name.toList.map .announced ++ messages.map .message ++
      (history.filterMap Effect.closeReason?).map .sessionClosed

/-- Once anything of the end is known, everything else in the session is over. -/
theorem isSettled_of_known (closure : Closure c.shutdown known c.reader.ending? c.acceptor.ending?)
    (joined : Joined c) (begun : known ≠ []) : c.IsSettled := by
  have ranks : min (rank c.reader.ending?) (rank c.acceptor.ending?) ≠ 0 := by
    intro zero
    rw [closure.known, zero] at begun
    exact begun rfl
  have reader : 0 < rank c.reader.ending? := by omega
  have acceptor : 0 < rank c.acceptor.ending? := by omega
  exact ⟨isSome_of_rank reader, isSome_of_rank acceptor, joined (isSome_of_rank acceptor)⟩

theorem isSettled_of_told (closure : Closure c.shutdown known c.reader.ending? c.acceptor.ending?)
    (joined : Joined c) (told : known.filterMap Effect.closeReason? ≠ []) : c.IsSettled := by
  refine isSettled_of_known closure joined ?_
  rintro rfl
  exact told rfl

theorem untold_of_notify (closure : Closure c.shutdown known c.reader.ending? c.acceptor.ending?)
    (notify : c.reader = .ending (.notify reason) ∨ c.acceptor = .ending (.notify reason)) :
    known.filterMap Effect.closeReason? = [] := by
  rw [closeReasons_of_rank closure, if_neg]
  obtain reader | acceptor := notify
  · simp only [reader, Reader.ending?, rank]
    omega
  · simp only [acceptor, Acceptor.ending?, rank]
    omega

theorem Ordered.acts {history fresh : List Effect} (h : Ordered history)
    (closure : Closure c.shutdown (history.filter Effect.isClosing) c.reader.ending?
      c.acceptor.ending?)
    (joined : Joined c) (acts : Acts c a c' (visible fresh))
    (unannounced : ∀ name, .announced name ∉ fresh) : Ordered (history ++ fresh) := by
  obtain ⟨name, messages, parts⟩ := h
  have reasons := closeReason?_callbacks fresh
  have here := callbacksIn_visible unannounced
  have all : callbacksIn (history ++ fresh) = callbacksIn history ++ callbacksIn fresh :=
    List.filter_append ..
  rw [Ordered, all, parts, List.filterMap_append, reasons]
  obtain none | ⟨payload, handed, unsettled⟩ | ⟨reason, told, notify⟩ := acts.callbacks
  · rw [here] at none
    exact ⟨name, messages, by simp [none]⟩
  · rw [here] at handed
    -- A message is handed over only as long as the host has not been told of the end.
    have untold : history.filterMap Effect.closeReason? = [] := by
      apply Classical.byContradiction
      rw [filterMap_closeReason?]
      exact fun told => unsettled (isSettled_of_told closure joined told)
    exact ⟨name, messages ++ [payload], by simp [handed, untold, Effect.closeReason?]⟩
  · rw [here] at told
    exact ⟨name, messages, by simp [told, Effect.closeReason?]⟩

theorem Acts.silent_of_told (acts : Acts c a c' effects)
    (closure : Closure c.shutdown known c.reader.ending? c.acceptor.ending?) (joined : Joined c)
    (told : known.filterMap Effect.closeReason? ≠ []) : callbacksIn effects = [] := by
  obtain none | ⟨payload, -, unsettled⟩ | ⟨reason, -, notify⟩ := acts.callbacks
  · exact none
  · exact absurd (isSettled_of_told closure joined told) unsettled
  · exact absurd (untold_of_notify closure notify) told

theorem callbacksIn_writerFor (r : Trace.Registry) (id : ConnectionId) (now : Nat) :
    ∃ name : Option String,
      callbacksIn ((r.writerFor id now).2.1.map .ofNotice) = name.toList.map .announced := by
  have logged (entries : List Log.Entry) :
      callbacksIn ((entries.map Trace.Notice.logged).map .ofNotice) = [] := by
    simp [callbacksIn, Effect.ofNotice, Effect.isCallback]
  unfold Trace.Registry.writerFor
  split
  · exact ⟨none, rfl⟩
  · exact ⟨none, rfl⟩
  · split
    · exact ⟨none, rfl⟩
    · split
      · exact ⟨none, rfl⟩
      · rename_i entries w fs hc
        refine ⟨some w.fileName, ?_⟩
        rw [List.map_append, callbacksIn, List.filter_append, ← callbacksIn, logged]
        rfl

theorem ordered_spawn (id : ConnectionId) (options : Options) (link : Link)
    (registry : Trace.Registry) (clock : Nat) :
    Ordered (spawn id options link registry clock).history := by
  have hw := callbacksIn_writerFor registry id clock
  unfold spawn
  split
  rename_i writer notices registry' h
  rw [h] at hw
  obtain ⟨name, named⟩ := hw
  have started (s : Session) (hs : callbacksIn s.history = name.toList.map .announced) :
      Ordered ((s.trace (.connectionStarted options.vantage)).log
        (.sessionStarted id options.datagrams)).history := by
    obtain ⟨entries, he⟩ := trace_history s (.connectionStarted options.vantage)
    have all : callbacksIn ((s.trace (.connectionStarted options.vantage)).log
        (.sessionStarted id options.datagrams)).history = name.toList.map .announced := by
      rw [← hs]
      simp [log, emit, he, callbacksIn, Effect.isCallback]
    refine ⟨name, [], ?_⟩
    rw [closeReason?_callbacks, all]
    cases name <;> simp [Effect.closeReason?]
  cases writer with
  | error e => exact started _ (by simpa [log, emit, callbacksIn, Effect.isCallback] using named)
  | ok writer => exact started _ named

theorem ordered_run (id : ConnectionId) (options : Options) (link : Link)
    (registry : Trace.Registry) (clock : Nat) (actions : List Action) :
    let first := spawn id options link registry clock
    Ordered (first.run actions).history ∧ Joined (first.run actions).core := by
  intro first
  refine run_induction (P := fun _ s => Ordered s.history ∧ Joined s.core) ?_ ?_ actions
  · exact ⟨ordered_spawn id options link registry clock, by simp [Joined, first, core_spawn,
      Acceptor.ending?]⟩
  · rintro actions a ⟨ordered, joined⟩
    have ha := acts (first.run actions) a
    have closing := closing_run id options link registry clock actions
    rw [history_act]
    exact ⟨ordered.acts closing.closure joined ha (announced_notMem_news _ a), joined.acts ha⟩

theorem known_of_told {reason : CloseReason} (told : .sessionClosed reason ∈ s.history) :
    (s.history.filter Effect.isClosing).filterMap Effect.closeReason? ≠ [] := by
  rw [← filterMap_closeReason?]
  exact List.ne_nil_of_mem (List.mem_filterMap.2 ⟨_, told, rfl⟩)

theorem closeReasons_toList (id : ConnectionId) (options : Options) (link : Link)
    (registry : Trace.Registry) (clock : Nat) (actions : List Action) :
    let reasons := ((spawn id options link registry clock).run actions).history.filterMap
      Effect.closeReason?
    reasons = reasons.head?.toList := by
  dsimp only
  rw [filterMap_closeReason?,
    closeReasons_of_rank (closing_run id options link registry clock actions).closure]
  split
  · cases ((spawn id options link registry clock).run actions).core.shutdown.reason <;> rfl
  · rfl

theorem callbacksIn_of_told (id : ConnectionId) (options : Options) (link : Link)
    (registry : Trace.Registry) (clock : Nat) (actions more : List Action) {reason : CloseReason} :
    let first := spawn id options link registry clock
    .sessionClosed reason ∈ (first.run actions).history →
      callbacksIn (first.run (actions ++ more)).history =
        callbacksIn (first.run actions).history := by
  intro first told
  have later : .sessionClosed reason ∈ ((first.run actions).run more).history ∧
      callbacksIn ((first.run actions).run more).history =
        callbacksIn (first.run actions).history := by
    refine run_induction (P := fun _ s => .sessionClosed reason ∈ s.history ∧
      callbacksIn s.history = callbacksIn (first.run actions).history) ⟨told, rfl⟩ ?_ more
    rintro more a ⟨told, same⟩
    rw [← run_append] at told same ⊢
    have closing := closing_run id options link registry clock (actions ++ more)
    have joined := (ordered_run id options link registry clock (actions ++ more)).2
    have silent := (acts (first.run (actions ++ more)) a).silent_of_told closing.closure joined
      (known_of_told told)
    rw [callbacksIn_visible (announced_notMem_news _ a)] at silent
    rw [history_act]
    refine ⟨List.mem_append_left _ told, ?_⟩
    rw [callbacksIn, List.filter_append, ← callbacksIn, ← callbacksIn, silent, same,
      List.append_nil]
  rw [run_append]
  exact later.2

/-- How a session that started as `first` calls its host, seen after some actions. -/
structure CallsInOrder (first : Session) (actions : List Action) : Prop where
  order : ∃ (name : Option String) (messages : List Payload) (reason : Option CloseReason),
    callbacksIn (first.run actions).history =
      name.toList.map .announced ++ messages.map .message ++ reason.toList.map .sessionClosed
  /-- Whatever still happens when the host was told of the end, it is not called again. -/
  last : ∀ reason more, .sessionClosed reason ∈ (first.run actions).history →
    callbacksIn (first.run (actions ++ more)).history = callbacksIn (first.run actions).history
  drained : ∀ reason, .sessionClosed reason ∈ (first.run actions).history →
    ∀ (number : Nat) (stream : InboundStream), (acceptedIn first actions)[number]? = some stream →
      (first.run actions).HasDrained number ∧
        (stream.IsComplete → messagesOf (.drain number) first actions = [stream.content] ∧
          discardsOf (.drain number) first actions = []) ∧
        (¬ stream.IsComplete → messagesOf (.drain number) first actions = [] ∧
          ∃ e, stream.FailsWith e ∧
            discardsOf (.drain number) first actions = [(stream.content.length, e)])

theorem HasDrained.of_isEnded {number : Nat} {d : Drain} (hd : s.drains[number]? = some d)
    (ended : d.isEnded = true) : s.HasDrained number := by
  cases d with
  | ended outcome => exact ⟨outcome, hd⟩
  | _ => simp [Drain.isEnded] at ended

/-- A session calls its host in order: the name of the trace file, messages, the end, and then never
again. -/
theorem calls_in_order (id : ConnectionId) (options : Options) (link : Link)
    (registry : Trace.Registry) (clock : Nat) (actions : List Action) :
    CallsInOrder (spawn id options link registry clock) actions := by
  have ordered := ordered_run id options link registry clock actions
  have closure := (closing_run id options link registry clock actions).closure
  have delivered := delivered_run id options link registry clock actions
  exact {
    order := by
      obtain ⟨name, messages, parts⟩ := ordered.1
      rw [closeReasons_toList] at parts
      exact ⟨name, messages, _, parts⟩
    last := fun reason more => callbacksIn_of_told id options link registry clock actions more
    drained := by
      intro reason told number stream hs
      obtain ⟨d, hd, holds⟩ := delivered.exists_drain hs
      have settled := isSettled_of_told closure ordered.2 (known_of_told told)
      have ended := List.all_eq_true.1 settled.drains d (List.mem_of_getElem? hd)
      refine ⟨.of_isEnded hd ended, fun complete => ?_, fun incomplete => ?_⟩
      · obtain ⟨-, undiscarded, handed⟩ := holds.complete complete
        exact ⟨handed ended, undiscarded⟩
      · obtain ⟨unheard, e, fails, -, discarded⟩ := holds.broken incomplete
        exact ⟨unheard, e, fails, discarded ended⟩ }

end MessageTunnel.Session
