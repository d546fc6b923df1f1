import MessageTunnel.Proofs.Session.Callbacks
import MessageTunnel.Proofs.Session.Outbound
/-!
What a session tells its trace. Each task tells what it has done and nothing else: the reader every
datagram that it hands over, a drain how its stream ended, a caller the message that went out. The
last loop tells the end. From then on only those can still come whose message went out before.
-/
set_option autoImplicit false

namespace MessageTunnel

def TraceEvent.isTraffic : TraceEvent → Bool
  | .connectionStarted _ | .connectionClosed .. => false
  | _ => true

def TraceEvent.isSent : TraceEvent → Bool
  | .datagramSent _ | .streamSent _ => true
  | _ => false

namespace Session

variable {id : ConnectionId} {loop : Log.InboundLoop} {sh sh' : Shutdown} {l l' : Link}
  {c c' : Core} {s : Session} {a : Action} {t : Task} {effects known : List Effect} {k : Caller}
  {messages : List Payload} {told : Task → List TraceEvent} {recorded : List TraceEvent}
  {reason : CloseReason}

def Effect.traced? : Effect → Option TraceEvent
  | .traced event => some event
  | _ => none

def Effect.traffic? (e : Effect) : Option TraceEvent := e.traced?.filter TraceEvent.isTraffic

theorem traced?_of_isDiagnostic {e : Effect} (h : e.isDiagnostic = true) : e.traced? = none := by
  cases e with
  | traced event => simp [Effect.isDiagnostic] at h
  | _ => rfl

theorem traffic?_of_isDiagnostic {e : Effect} (h : e.isDiagnostic = true) : e.traffic? = none := by
  rw [Effect.traffic?, traced?_of_isDiagnostic h]
  rfl

/-! What each task has to tell -/

def receivedEvent (payload : Payload) : TraceEvent := .datagramReceived payload.length

/-- The message that the reader has told the trace of, but not yet handed over. -/
def Reader.atHand : Reader → List Payload
  | .deliver payload => [payload]
  | _ => []

def Drained.event : Drained → TraceEvent
  | .delivered message => .streamReceived message.length
  | .discarded length e => .streamDiscarded length e.message

def Drain.traffic : Drain → List TraceEvent
  | .deliver message => [(Drained.delivered message).event]
  | .ended outcome => [outcome.event]
  | _ => []

def Caller.sentEvent? (k : Caller) : Option TraceEvent :=
  match k.reply?, k.request.payload? with
  | some (.sent channel), some payload => some (sentEvent channel payload.length)
  | _, _ => none

theorem EndMove.traffic {stage stage' : Ending}
    (move : EndMove id loop sh l stage sh' l' stage' effects) :
    effects.filterMap Effect.traffic? = [] := by
  cases move <;> rfl

theorem DrainMove.traffic {d d' : Drain} (move : DrainMove l d d' effects) :
    d'.traffic = d.traffic ++ effects.filterMap Effect.traffic? := by
  cases move <;> rfl

theorem traffic?_sentEvent (channel : Channel) (length : Nat) :
    (Effect.traced (sentEvent channel length)).traffic? = some (sentEvent channel length) := by
  cases channel <;> rfl

theorem SendMove.traffic {payload : Payload} {channel : Channel} {stage : Stage}
    (move : SendMove payload channel sh l k.stage l' stage effects)
    (sends : k.request.payload? = some payload) :
    (Caller.sentEvent? { k with stage := stage }).toList =
      k.sentEvent?.toList ++ effects.filterMap Effect.traffic? := by
  obtain ⟨request, before⟩ := k
  have sends : request.payload? = some payload := sends
  cases move with
  | call => unfold callEffects; split <;> rfl
  | @sent used =>
    simp [Caller.sentEvent?, Caller.reply?, sends, traffic?_sentEvent]
  | _ => simp [Caller.sentEvent?, Caller.reply?]

theorem CallerMove.traffic {o : Options} {stage : Stage}
    (move : CallerMove id o sh l k sh' l' stage effects) :
    (Caller.sentEvent? { k with stage := stage }).toList =
      k.sentEvent?.toList ++ effects.filterMap Effect.traffic? := by
  cases move with
  | send out move => exact move.traffic (payload?_of_outgoing? out)
  | _ => rfl

/-- What the tasks have told so far goes with where they stand. -/
structure Traffic (c : Core) (told : Task → List TraceEvent) (messages : List Payload) : Prop where
  reader : told .reader = (messages ++ c.reader.atHand).map receivedEvent
  acceptor : told .acceptor = []
  drains : ∀ number, told (.drain number) = (c.drains[number]?.map Drain.traffic).getD []
  callers : ∀ number,
    told (.caller number) = (c.callers[number]?.bind Caller.sentEvent?).toList

theorem Acts.readerTraffic (h : Acts c a c' effects)
    (before : told .reader = (messages ++ c.reader.atHand).map receivedEvent) :
    told .reader ++ seenIn Effect.traffic? .reader a effects =
      (messages ++ seenIn Effect.message? .reader a effects ++ c'.reader.atHand).map
        receivedEvent := by
  have keep (quiet : seenIn Effect.traffic? .reader a effects = [])
      (handed : seenIn Effect.message? .reader a effects = [])
      (same : c'.reader.atHand = c.reader.atHand) :
      told .reader ++ seenIn Effect.traffic? .reader a effects =
        (messages ++ seenIn Effect.message? .reader a effects ++ c'.reader.atHand).map
          receivedEvent := by
    rw [quiet, handed, same, before]
    simp
  cases h with
  | moves move =>
    cases move with
    | take reading | takeError reading | readClosed reading =>
      exact keep rfl rfl (by simp [reading, Reader.atHand])
    | recordDatagram reader =>
      rw [before, reader, seenIn_self, seenIn_self]
      simp [Reader.atHand, Effect.traffic?, Effect.traced?, Effect.message?, TraceEvent.isTraffic,
        receivedEvent, Option.filter]
    | deliverDatagram reader =>
      rw [before, reader, seenIn_self, seenIn_self]
      simp [Reader.atHand, Effect.traffic?, Effect.traced?, Effect.message?]
    | endReader reader move =>
      exact keep (by rw [seenIn_self, move.traffic]) (by rw [seenIn_self, move.messages])
        (by simp [reader, Reader.atHand])
    | _ => exact keep (by simp [seenIn]) (by simp [seenIn]) rfl
  | waits => exact keep (by simp [seenIn]) (by simp [seenIn]) rfl
  | _ => exact keep rfl rfl rfl

theorem Acts.acceptorTraffic (h : Acts c a c' effects) :
    seenIn Effect.traffic? .acceptor a effects = [] := by
  by_cases other : a = .step .acceptor
  · subst other
    rw [seenIn_self]
    cases h with
    | moves move =>
      cases move with
      | endAcceptor acceptor move => exact move.traffic
      | _ => rfl
    | waits => rfl
  · exact seenIn_other _ _ other

theorem Acts.drainTraffic (h : Acts c a c' effects) (number : Nat) :
    (c'.drains[number]?.map Drain.traffic).getD [] =
      (c.drains[number]?.map Drain.traffic).getD [] ++
        seenIn Effect.traffic? (.drain number) a effects := by
  cases hd : c.drains[number]? with
  | some d =>
    obtain ⟨other, same⟩ | ⟨rfl, d', after, move⟩ | ⟨rfl, rfl, rfl, -⟩ := h.drain hd
    · simp [same, seenIn_other _ _ other]
    · simp [after, seenIn_self, move.traffic]
    · simp [hd, seenIn_self]
  | none =>
    have beyond := List.getElem?_eq_none_iff.1 hd
    rw [h.unseen _ beyond]
    obtain ⟨-, same⟩ | ⟨stream, -, -, grown⟩ := h.grows
    · have none : c'.drains[number]? = none := List.getElem?_eq_none (by omega)
      simp [none]
    · -- A drain that is new has read nothing yet.
      rw [grown, List.getElem?_append_right beyond]
      cases number - c.drains.length <;> rfl

theorem Acts.unseen_caller (h : Acts c a c' effects) {α : Type} (f : Effect → Option α)
    {number : Nat} (none : c.callers[number]? = none) : seenIn f (.caller number) a effects = [] := by
  by_cases other : a = .step (.caller number)
  · subst other
    cases h with
    | moves move =>
      cases move with
      | call caller => simp [none] at caller
    | waits => simp [seenIn]
  · exact seenIn_other f _ other

theorem Acts.callerTraffic (h : Acts c a c' effects) (number : Nat) :
    (c'.callers[number]?.bind Caller.sentEvent?).toList =
      (c.callers[number]?.bind Caller.sentEvent?).toList ++
        seenIn Effect.traffic? (.caller number) a effects := by
  cases hk : c.callers[number]? with
  | some k =>
    obtain ⟨other, same⟩ | ⟨rfl, sh, l, stage, rfl, move⟩ | ⟨rfl, rfl, rfl, -⟩ := h.caller hk
    · simp [same, seenIn_other _ _ other]
    · have less := (List.getElem?_eq_some_iff.1 hk).1
      simpa [less, seenIn_self] using move.traffic
    · simp [hk, seenIn_self]
  | none =>
    rw [h.unseen_caller _ hk]
    cases hk' : c'.callers[number]? with
    | none => rfl
    | some k =>
      obtain ⟨r, -, rfl⟩ := h.newcomer hk hk'
      rfl

theorem Traffic.acts (h : Traffic c told messages) (acts : Acts c a c' effects) :
    Traffic c' (fun t => told t ++ seenIn Effect.traffic? t a effects)
      (messages ++ seenIn Effect.message? .reader a effects) where
  reader := acts.readerTraffic h.reader
  acceptor := by rw [h.acceptor, acts.acceptorTraffic]; rfl
  drains := fun number => by rw [h.drains, acts.drainTraffic]
  callers := fun number => by rw [h.callers, acts.callerTraffic]

/-! Who tells the trace of what -/

theorem filterMap_traffic? (effects : List Effect) : effects.filterMap Effect.traffic? =
    (effects.filterMap Effect.traced?).filter TraceEvent.isTraffic := by
  rw [List.filter_filterMap]
  rfl

theorem isTraffic_lastRecord (reason : CloseReason) : (lastRecord reason).isTraffic = false := by
  cases reason <;> rfl

theorem isTraffic_of_isSent {e : TraceEvent} (h : e.isSent = true) : e.isTraffic = true := by
  cases e with
  | datagramSent | streamSent => rfl
  | _ => simp [TraceEvent.isSent] at h

theorem EndMove.traced {stage stage' : Ending}
    (move : EndMove id loop sh l stage sh' l' stage' effects) :
    effects.filterMap Effect.traced? = [] ∨ ∃ reason,
      effects.filterMap Effect.traced? = [lastRecord reason] ∧ stage = .record reason := by
  cases move with
  | record => exact .inr ⟨_, congrArg (fun e => [e]) (ofNotice_notice _), rfl⟩
  | _ => exact .inl rfl

theorem SendMove.traced {payload : Payload} {channel : Channel} {stage stage' : Stage}
    (move : SendMove payload channel sh l stage l' stage' effects) :
    effects.filterMap Effect.traced? = [] ∨
      ∃ event, effects.filterMap Effect.traced? = [event] ∧ event.isSent = true := by
  cases move with
  | call =>
    refine .inl ?_
    unfold callEffects
    split <;> rfl
  | @sent used => exact .inr ⟨sentEvent used payload.length, rfl, by cases used <;> rfl⟩
  | _ => exact .inl rfl

theorem DrainMove.traced {d d' : Drain} (move : DrainMove l d d' effects) :
    effects.filterMap Effect.traced? = [] ∨
      ∃ event, effects.filterMap Effect.traced? = [event] ∧ event.isTraffic = true := by
  cases move with
  | recordDelivered | recordDiscarded => exact .inr ⟨_, rfl, rfl⟩
  | _ => exact .inl rfl

theorem Acts.traced (h : Acts c a c' effects) :
    effects.filterMap Effect.traced? = [] ∨
      (∃ number event, a = .step (.caller number) ∧
        effects.filterMap Effect.traced? = [event] ∧ event.isSent = true) ∨
      (∃ event, effects.filterMap Effect.traced? = [event] ∧ event.isTraffic = true ∧
        ¬ c.IsSettled) ∨
      ∃ reason, effects.filterMap Effect.traced? = [lastRecord reason] ∧
        (c.reader = .ending (.record reason) ∨ c.acceptor = .ending (.record reason)) := by
  cases h with
  | moves move =>
    cases move with
    | recordDatagram reader =>
      refine .inr (.inr (.inl ⟨_, rfl, rfl, fun settled => ?_⟩))
      simpa [reader, Reader.ending?] using settled.reader
    | endReader reader move =>
      obtain none | ⟨reason, last, rfl⟩ := move.traced
      · exact .inl none
      · exact .inr (.inr (.inr ⟨reason, last, .inl reader⟩))
    | endAcceptor acceptor move =>
      obtain none | ⟨reason, last, rfl⟩ := move.traced
      · exact .inl none
      · exact .inr (.inr (.inr ⟨reason, last, .inr acceptor⟩))
    | drain drain move =>
      obtain none | ⟨event, told, traffic⟩ := move.traced
      · exact .inl none
      · refine .inr (.inr (.inl ⟨event, told, traffic, fun settled => ?_⟩))
        have ended := List.all_eq_true.1 settled.drains _ (List.mem_of_getElem? drain)
        simp [move.not_ended] at ended
    | @call number _ _ _ _ _ caller move =>
      cases move with
      | send out move =>
        obtain none | ⟨event, told, sent⟩ := move.traced
        · exact .inl none
        · exact .inr (.inl ⟨number, event, rfl, told, sent⟩)
      | _ => exact .inl rfl
    | _ => exact .inl rfl
  | _ => exact .inl rfl

theorem Acts.quiet_of_settled (h : Acts c a c' effects) (settled : c.IsSettled)
    (other : ∀ number, t ≠ .caller number) : seenIn Effect.traffic? t a effects = [] := by
  by_cases turn : a = .step t
  · subst turn
    rw [seenIn_self, filterMap_traffic?]
    obtain none | ⟨number, event, same, -⟩ | ⟨event, -, -, unsettled⟩ | ⟨reason, last, -⟩ := h.traced
    · rw [none]
      rfl
    · obtain rfl := by simpa using same
      exact absurd rfl (other number)
    · exact absurd settled unsettled
    · simp [last, isTraffic_lastRecord]
  · exact seenIn_other _ _ turn

/-! The order of the records -/

/-- As long as nothing of the end is known there is only traffic; then comes the last record of all
but those who have sent, whose records alone can follow. -/
def InOrder (known : List Effect) (recorded : List TraceEvent) : Prop :=
  (known = [] ∧ ∀ e ∈ recorded, e.isTraffic = true) ∨
    ∃ before reason late, .traced (lastRecord reason) ∈ known ∧
      recorded = before ++ lastRecord reason :: late ∧
      (∀ e ∈ before, e.isTraffic = true) ∧ ∀ e ∈ late, e.isSent = true

theorem exists_lastRecord {b d : Option Ending} (closure : Closure sh known b d)
    (begun : known ≠ []) : ∃ reason, sh.reason = some reason ∧ .traced (lastRecord reason) ∈ known := by
  have hk := closure.known
  cases hr : sh.reason with
  | none =>
    simp [hr, rites] at hk
    exact absurd hk begun
  | some reason =>
    refine ⟨reason, rfl, ?_⟩
    rw [hr, rites] at hk
    cases hn : min (rank b) (rank d) with
    | zero =>
      rw [hn] at hk
      exact absurd hk begun
    | succ n => simp [hk, hn, rite]

theorem eq_lastRecord {b d : Option Ending} {event : TraceEvent} (closure : Closure sh known b d)
    (mem : .traced event ∈ known) : ∃ reason, sh.reason = some reason ∧ event = lastRecord reason := by
  rw [closure.known] at mem
  have mem := List.mem_of_mem_take mem
  cases hr : sh.reason with
  | none => simp [hr, rites] at mem
  | some reason => exact ⟨reason, rfl, by simpa [hr, rites, rite] using mem⟩

theorem closed_of_known {b d : Option Ending} (closure : Closure sh known b d)
    (begun : known ≠ []) : sh.state = .closed := by
  have left {e : Option Ending} (pos : rank e ≠ 0) : hasLeft e = true := by
    cases he : hasLeft e with
    | true => rfl
    | false => exact absurd (of_not_hasLeft he).1 pos
  have ranks : min (rank b) (rank d) ≠ 0 := by
    intro zero
    rw [closure.known, zero] at begun
    exact begun rfl
  exact closure.closed_iff.2 ⟨left (by omega), left (by omega)⟩

theorem known_of_closed {b d : Option Ending} (closure : Closure sh known b d)
    (closed : sh.state = .closed) (here : ∀ reason, b ≠ some (.record reason))
    (there : ∀ reason, d ≠ some (.record reason)) : known ≠ [] := by
  have pos {e : Option Ending} (left : hasLeft e = true)
      (told : ∀ reason, e ≠ some (.record reason)) : rank e ≠ 0 := by
    cases e with
    | none => simp [hasLeft] at left
    | some stage =>
      cases stage with
      | record reason => exact absurd rfl (told reason)
      | release | notify | publish | ended => simp [rank]
      | _ => simp [hasLeft] at left
  obtain ⟨leftHere, leftThere⟩ := closure.closed_iff.1 closed
  have called : hasCalled b = true := by
    cases b with
    | none => simp [hasLeft] at leftHere
    | some stage => cases stage <;> simp_all [hasLeft, hasCalled]
  obtain ⟨reason, hr⟩ := Option.isSome_iff_exists.1 (closure.called (.inl called))
  have first := pos leftHere here
  have second := pos leftThere there
  rw [closure.known, hr]
  cases hn : min (rank b) (rank d) with
  | zero => omega
  | succ n => simp [rites, rite]

theorem known_of_record (closure : Closure c.shutdown known c.reader.ending? c.acceptor.ending?)
    (last : c.reader = .ending (.record reason) ∨ c.acceptor = .ending (.record reason)) :
    known = [] := by
  rw [closure.known]
  obtain reader | acceptor := last
  · simp [reader, Reader.ending?, rank]
  · simp [acceptor, Acceptor.ending?, rank]

theorem InOrder.acts (h : InOrder known recorded)
    (closure : Closure c.shutdown known c.reader.ending? c.acceptor.ending?) (joined : Joined c)
    (closure' : Closure c'.shutdown (known ++ effects.filter Effect.isClosing) c'.reader.ending?
      c'.acceptor.ending?)
    (acts : Acts c a c' effects) :
    InOrder (known ++ effects.filter Effect.isClosing)
      (recorded ++ if .released ∈ known then [] else effects.filterMap Effect.traced?) := by
  obtain ⟨rfl, only⟩ | ⟨before, reason, late, last, rfl, traffic, sent⟩ := h
  · -- Nothing of the end is known yet: either this is the last record, or it is traffic.
    have goesOn (more : ∀ e ∈ effects.filterMap Effect.traced?, e.isTraffic = true) :
        InOrder (effects.filter Effect.isClosing)
          (recorded ++ effects.filterMap Effect.traced?) := by
      refine .inl ⟨?_, ?_⟩
      · apply Classical.byContradiction
        intro begun
        obtain ⟨reason, -, mem⟩ := exists_lastRecord closure' begun
        have told : lastRecord reason ∈ effects.filterMap Effect.traced? :=
          List.mem_filterMap.2 ⟨_, (List.mem_filter.1 mem).1, rfl⟩
        simpa [isTraffic_lastRecord] using more _ told
      · intro e mem
        obtain mem | mem := List.mem_append.1 mem
        · exact only e mem
        · exact more e mem
    simp only [List.nil_append, List.not_mem_nil, if_false]
    obtain none | ⟨number, event, -, told, sent⟩ | ⟨event, told, traffic, -⟩ | ⟨reason, told, -⟩ :=
      acts.traced
    · exact goesOn (by simp [none])
    · exact goesOn (by simp [told, isTraffic_of_isSent sent])
    · exact goesOn (by simp [told, traffic])
    · refine .inr ⟨recorded, reason, [], ?_, by rw [told], only, by simp⟩
      have mem : lastRecord reason ∈ effects.filterMap Effect.traced? := by simp [told]
      obtain ⟨e, mem, he⟩ := List.mem_filterMap.1 mem
      cases e with
      | traced event =>
        obtain rfl := Option.some.inj he
        exact List.mem_filter.2 ⟨mem, by cases reason <;> rfl⟩
      | _ => simp [Effect.traced?] at he
  · have begun : known ≠ [] := List.ne_nil_of_mem last
    have mem : .traced (lastRecord reason) ∈ known ++ effects.filter Effect.isClosing :=
      List.mem_append_left _ last
    obtain none | ⟨number, event, -, told, sent'⟩ | ⟨event, -, -, unsettled⟩ | ⟨reason', -, record⟩ :=
      acts.traced
    · exact .inr ⟨before, reason, late, mem, by simp [none], traffic, sent⟩
    · by_cases released : .released ∈ known
      · exact .inr ⟨before, reason, late, mem, by simp [released], traffic, sent⟩
      · refine .inr ⟨before, reason, late ++ [event], mem, by simp [released, told], traffic, ?_⟩
        intro e he
        obtain he | rfl := by simpa using he
        · exact sent e he
        · exact sent'
    · exact absurd (isSettled_of_known closure joined begun) unsettled
    · exact absurd (known_of_record closure record) begun

theorem InOrder.splits {b d : Option Ending} (h : InOrder known recorded)
    (closure : Closure sh known b d) :
    (∀ e ∈ recorded, e.isTraffic = true) ∨
      sh.state = .closed ∧ ∃ reason before late, sh.reason = some reason ∧
        recorded = before ++ lastRecord reason :: late ∧
        (∀ e ∈ before, e.isTraffic = true) ∧ ∀ e ∈ late, e.isSent = true := by
  obtain ⟨-, only⟩ | ⟨before, reason, late, last, rfl, each, sent⟩ := h
  · exact .inl only
  · obtain ⟨reason', hr, same⟩ := eq_lastRecord closure last
    refine .inr ⟨closed_of_known closure (List.ne_nil_of_mem last), reason', before, late, hr, ?_,
      each, sent⟩
    rw [same]

theorem InOrder.tells_end {b d : Option Ending} (h : InOrder known recorded)
    (closure : Closure sh known b d) (begun : known ≠ []) :
    ∃ reason, sh.reason = some reason ∧ lastRecord reason ∈ recorded := by
  obtain ⟨none, -⟩ | ⟨before, reason, late, last, rfl, -⟩ := h
  · exact absurd none begun
  · obtain ⟨reason', hr, same⟩ := eq_lastRecord closure last
    exact ⟨reason', hr, by simp [same]⟩

/-! Runs -/

/-- What the tasks made known as long as the trace was not given up. -/
def keptOf (first : Session) (actions : List Action) : List (Task × Effect) :=
  along (fun s a => if .released ∈ s.history then [] else s.newsByTask a) first actions

def recordsOf (first : Session) (actions : List Action) : List TraceEvent :=
  (keptOf first actions).filterMap fun e => e.2.traced?

def trafficOf (t : Task) (first : Session) (actions : List Action) : List TraceEvent :=
  seenOf Effect.traffic? t (keptOf first actions)

theorem keptOf_concat (first : Session) (actions : List Action) (a : Action) :
    keptOf first (actions ++ [a]) = keptOf first actions ++
      if .released ∈ (first.run actions).history then [] else (first.run actions).newsByTask a :=
  along_concat ..

theorem recordsOf_concat (first : Session) (actions : List Action) (a : Action) :
    recordsOf first (actions ++ [a]) = recordsOf first actions ++
      if .released ∈ (first.run actions).history then []
      else (visible ((first.run actions).news a)).filterMap Effect.traced? := by
  rw [recordsOf, keptOf_concat, List.filterMap_append, recordsOf,
    filterMap_visible fun _ => traced?_of_isDiagnostic]
  split
  · rfl
  · rw [← newsByTask_snd, List.filterMap_map]
    rfl

theorem trafficOf_append (t : Task) (first : Session) (actions more : List Action) :
    trafficOf t first (actions ++ more) =
      trafficOf t first actions ++ trafficOf t (first.run actions) more := by
  rw [trafficOf, keptOf, along_append, seenOf_append]
  rfl

/-- As long as the trace is not given up nothing is missing, and later nothing is added. -/
theorem keptOf_eq (first : Session) (actions : List Action) :
    keptOf first actions <+: first.chronicle actions ∧
      (.released ∉ (first.run actions).history →
        keptOf first actions = first.chronicle actions) := by
  refine run_induction (P := fun actions s => keptOf first actions <+: first.chronicle actions ∧
    (.released ∉ s.history → keptOf first actions = first.chronicle actions)) ?_ ?_ actions
  · exact ⟨List.prefix_rfl, fun _ => rfl⟩
  · rintro actions a ⟨cut, all⟩
    rw [keptOf_concat, chronicle, along_concat, ← chronicle]
    by_cases released : .released ∈ (first.run actions).history
    · rw [if_pos released, List.append_nil]
      refine ⟨cut.trans (List.prefix_append ..), fun unreleased => absurd ?_ unreleased⟩
      rw [history_act]
      exact List.mem_append_left _ released
    · rw [if_neg released, all released]
      exact ⟨List.prefix_rfl, fun _ => rfl⟩

theorem traffic_run (id : ConnectionId) (options : Options) (link : Link)
    (registry : Trace.Registry) (clock : Nat) (actions : List Action) :
    let first := spawn id options link registry clock
    Traffic (first.run actions).core (fun t => seenOf Effect.traffic? t (first.chronicle actions))
      (messagesOf .reader first actions) := by
  intro first
  have hc : first.core = ⟨id, options, .start 2, link, .reading, .accepting, [], []⟩ :=
    core_spawn id options link registry clock
  refine run_induction (P := fun actions s =>
    Traffic s.core (fun t => seenOf Effect.traffic? t (first.chronicle actions))
      (messagesOf .reader first actions)) ?_ ?_ actions
  · rw [hc]
    exact ⟨rfl, rfl, fun _ => rfl, fun _ => rfl⟩
  · intro actions a h
    have ha := h.acts (acts (first.run actions) a)
    simpa only [messagesOf, seenOf_concat fun _ => traffic?_of_isDiagnostic,
      seenOf_concat fun _ => message?_of_isDiagnostic] using ha

theorem released_mem_filter (history : List Effect) :
    .released ∈ history.filter Effect.isClosing ↔ .released ∈ history := by
  simp [List.mem_filter, Effect.isClosing]

theorem inOrder_run (id : ConnectionId) (options : Options) (link : Link)
    (registry : Trace.Registry) (clock : Nat) (actions : List Action) :
    let first := spawn id options link registry clock
    InOrder ((first.run actions).history.filter Effect.isClosing) (recordsOf first actions) := by
  intro first
  refine run_induction (P := fun actions s =>
    InOrder (s.history.filter Effect.isClosing) (recordsOf first actions)) ?_ ?_ actions
  · refine .inl ⟨?_, by simp [recordsOf, keptOf, along]⟩
    rw [← filter_isClosing_visible, visible_spawn]
    rfl
  · intro actions a h
    have closing := closing_run id options link registry clock
    have after := (closing (actions ++ [a])).closure
    simp only [run_concat, history_act, List.filter_append] at after
    rw [← filter_isClosing_visible ((first.run actions).news a)] at after
    have ha := h.acts (closing actions).closure (ordered_run id options link registry clock actions).2
      after (acts (first.run actions) a)
    rw [history_act, List.filter_append, ← filter_isClosing_visible ((first.run actions).news a),
      recordsOf_concat]
    simpa only [released_mem_filter] using ha

theorem trafficOf_eq (id : ConnectionId) (options : Options) (link : Link)
    (registry : Trace.Registry) (clock : Nat) (actions : List Action) {t : Task}
    (other : ∀ number, t ≠ .caller number) :
    let first := spawn id options link registry clock
    trafficOf t first actions = seenOf Effect.traffic? t (first.chronicle actions) := by
  intro first
  refine @run_induction (fun actions _ => trafficOf t first actions =
    seenOf Effect.traffic? t (first.chronicle actions)) first rfl ?_ actions
  intro actions a h
  rw [trafficOf, keptOf_concat, seenOf_append, ← trafficOf, h,
    seenOf_concat fun _ => traffic?_of_isDiagnostic]
  by_cases released : .released ∈ (first.run actions).history
  · have begun := List.ne_nil_of_mem ((released_mem_filter _).2 released)
    have settled := isSettled_of_known (closing_run id options link registry clock actions).closure
      (ordered_run id options link registry clock actions).2 begun
    rw [if_pos released, (acts (first.run actions) a).quiet_of_settled settled other]
    rfl
  · rw [if_neg released, seenOf_newsByTask fun _ => traffic?_of_isDiagnostic]

theorem trafficOf_reader (id : ConnectionId) (options : Options) (link : Link)
    (registry : Trace.Registry) (clock : Nat) (actions : List Action) :
    let first := spawn id options link registry clock
    trafficOf .reader first actions =
      (messagesOf .reader first actions ++ (first.run actions).reader.atHand).map receivedEvent := by
  intro first
  rw [trafficOf_eq id options link registry clock actions (by simp)]
  exact (traffic_run id options link registry clock actions).reader

theorem trafficOf_acceptor (id : ConnectionId) (options : Options) (link : Link)
    (registry : Trace.Registry) (clock : Nat) (actions : List Action) :
    trafficOf .acceptor (spawn id options link registry clock) actions = [] := by
  rw [trafficOf_eq id options link registry clock actions (by simp)]
  exact (traffic_run id options link registry clock actions).acceptor

theorem trafficOf_drain (id : ConnectionId) (options : Options) (link : Link)
    (registry : Trace.Registry) (clock : Nat) (actions : List Action) {number : Nat} {d : Drain} :
    let first := spawn id options link registry clock
    (first.run actions).core.drains[number]? = some d →
      trafficOf (.drain number) first actions = d.traffic := by
  intro first hd
  have told := (traffic_run id options link registry clock actions).drains number
  rw [hd] at told
  rw [trafficOf_eq id options link registry clock actions (by simp)]
  exact told

theorem trafficOf_caller (id : ConnectionId) (options : Options) (link : Link)
    (registry : Trace.Registry) (clock : Nat) (actions : List Action) (number : Nat) :
    let first := spawn id options link registry clock
    let sent := ((first.run actions).callers[number]?.bind Caller.sentEvent?).toList
    trafficOf (.caller number) first actions <+: sent ∧
      (.released ∉ (first.run actions).history →
        trafficOf (.caller number) first actions = sent) := by
  intro first sent
  have told : seenOf Effect.traffic? (.caller number) (first.chronicle actions) = sent :=
    (traffic_run id options link registry clock actions).callers number
  obtain ⟨cut, all⟩ := keptOf_eq first actions
  refine ⟨?_, fun unreleased => ?_⟩
  · rw [← told]
    exact cut.filterMap _
  · rw [← told, trafficOf, all unreleased]

theorem nodup_tasks (s : Session) : s.tasks.Nodup := by
  have apart {f : Nat → Task} (injective : ∀ i j, f i = f j → i = j) (n : Nat) :
      ((List.range n).map f).Nodup :=
    List.pairwise_map.2 (List.nodup_range.imp fun other same => other (injective _ _ same))
  unfold tasks
  refine List.nodup_append.2 ⟨List.nodup_append.2
    ⟨apart (by simp) _, apart (by simp) _, by simp⟩, by simp, ?_⟩
  intro t mem
  obtain ⟨number, -, rfl⟩ | ⟨number, -, rfl⟩ := by simpa using mem
  all_goals simp

theorem traffic_perm (id : ConnectionId) (options : Options) (link : Link)
    (registry : Trace.Registry) (clock : Nat) (actions : List Action) :
    let first := spawn id options link registry clock
    ((recordsOf first actions).filter TraceEvent.isTraffic).Perm
      ((first.run actions).tasks.flatMap fun t => trafficOf t first actions) := by
  intro first
  have h : Traffic (first.run actions).core _ _ := traffic_run id options link registry clock actions
  rw [recordsOf, List.filter_filterMap]
  refine seenOf_perm Effect.traffic? _ (nodup_tasks _) (keptOf first actions) ?_
  intro entry mem tells
  obtain ⟨event, he⟩ := Option.isSome_iff_exists.1 tells
  have told : event ∈ seenOf Effect.traffic? entry.1 (first.chronicle actions) :=
    List.mem_filterMap.2 ⟨entry, (keptOf_eq first actions).1.subset mem, by simp [he]⟩
  cases ht : entry.1 with
  | reader | acceptor => simp [tasks]
  | drain number =>
    rw [ht, h.drains] at told
    have less : number < (first.run actions).drains.length := by
      apply Classical.byContradiction
      intro beyond
      have none : (first.run actions).core.drains[number]? = none :=
        List.getElem?_eq_none (Nat.not_lt.1 beyond)
      simp [none] at told
    exact mem_tasks_drain less
  | caller number =>
    rw [ht, h.callers] at told
    have less : number < (first.run actions).callers.length := by
      apply Classical.byContradiction
      intro beyond
      have none : (first.run actions).core.callers[number]? = none :=
        List.getElem?_eq_none (Nat.not_lt.1 beyond)
      simp [none] at told
    simp [tasks, less]

end Session

end MessageTunnel
