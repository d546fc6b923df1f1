import MessageTunnel.Proofs.Session.Closure
set_option autoImplicit false

namespace MessageTunnel.Session

variable {id : ConnectionId} {loop : Log.InboundLoop} {sh sh' : Shutdown} {l l' : Link}
  {stage stage' : Ending} {k : Caller} {c c' : Core} {s : Session} {t : Task} {a : Action}
  {calls taken : List CloseReason} {known effects : List Effect} {reason : CloseReason}

def lossReason (e : TransportError) : CloseReason :=
  if e = .locallyClosed then .cooperative .here
  else if e = .applicationClosed 0 "normal shutdown" then .cooperative .peer
  else .fault e.message

def Ending.call? : Ending → Option CloseReason
  | .classify e => some (lossReason e)
  | _ => none

def Core.call? (c : Core) : Action → Option CloseReason
  | .step .reader => c.reader.ending?.bind Ending.call?
  | .step .acceptor => c.acceptor.ending?.bind Ending.call?
  | .step (.caller number) =>
    match c.callers[number]? with
    | some ⟨.stop, .asked⟩ => some (.cooperative .here)
    | _ => none
  | _ => none

def Core.took (c : Core) (a : Action) : List CloseReason :=
  ((c.call? a).filter fun reason => (c.shutdown.beginClosing reason).1).toList

def calledFor (s : Session) (actions : List Action) : List CloseReason :=
  along (fun s a => (s.core.call? a).toList) s actions

def begunFor (s : Session) (actions : List Action) : List CloseReason :=
  along (fun s a => s.core.took a) s actions

theorem ofTransport_eq (e : TransportError) : CloseReason.ofTransport e = lossReason e := by
  cases e with
  | applicationClosed code reason =>
    by_cases h : CloseNotice.mk code reason = .cooperative
    · obtain ⟨rfl, rfl⟩ := by simpa [CloseNotice.cooperative] using h
      rfl
    · have hn : ¬ (code = 0 ∧ reason = "normal shutdown") := by
        simpa [CloseNotice.cooperative] using h
      simp [CloseReason.ofTransport, TransportError.disposition, h, lossReason, hn]
  | _ => rfl

/-- What holds of a core at every moment of a run: the loops and the shutdown go together, the
first call is the one that took, and nobody is told of a reason that is not published. -/
structure Closing (c : Core) (calls taken : List CloseReason) (known : List Effect) : Prop where
  closure : Closure c.shutdown known c.reader.ending? c.acceptor.ending?
  taken_eq : taken = c.shutdown.reason.toList
  first : calls.take 1 = c.shutdown.reason.toList
  told : ∀ k ∈ c.callers, ∀ reason, k.stage = .replied (.closed reason) →
    c.shutdown.published = some reason

theorem took_eq (c : Core) (a : Action) :
    c.took a = if c.shutdown.state = .running then (c.call? a).toList else [] := by
  unfold Core.took
  by_cases h : c.shutdown.state = .running <;>
    cases c.call? a <;> simp [Shutdown.beginClosing, h]

theorem loopExited_reason {last : Option CloseReason} (h : sh.loopExited = (last, sh')) :
    sh'.reason = sh.reason ∧ sh'.published = sh.published := by
  unfold Shutdown.loopExited at h
  dsimp only at h
  split at h <;> obtain ⟨-, rfl⟩ := Prod.mk.inj h <;> exact ⟨rfl, rfl⟩

theorem EndMove.reason_eq (move : EndMove id loop sh l stage sh' l' stage' effects)
    (fresh : sh.state = .running → sh.reason = none) : sh'.reason.toList = sh.reason.toList ++
      if sh.state = .running then stage.call?.toList else [] := by
  cases move with
  | beginQuiet running quiet => simp [begun, fresh running, running, Ending.call?, ofTransport_eq]
  | beginFault running fault => simp [begun, fresh running, running, Ending.call?, ofTransport_eq]
  | late closing => simp [closing]
  | leave other => simp [(loopExited_reason other).1, Ending.call?]
  | leaveLast last => simp [(loopExited_reason last).1, Ending.call?]
  | _ => simp [Ending.call?, Shutdown.publish]

theorem call?_caller {number : Nat} (caller : c.callers[number]? = some k)
    (h : k ≠ ⟨.stop, .asked⟩) : c.call? (.step (.caller number)) = none := by
  simp only [Core.call?, caller]
  split
  · rename_i hk
    exact absurd (Option.some.inj hk) h
  · rfl

theorem call?_of_blocked (h : Blocked c t) : c.call? (.step t) = none := by
  cases h with
  | noDatagram reading => simp [Core.call?, reading, Reader.ending?]
  | readerEnded reader => simp [Core.call?, reader, Reader.ending?, Ending.call?]
  | noStream accepting => simp [Core.call?, accepting, Acceptor.ending?]
  | joining joining => simp [Core.call?, joining, Acceptor.ending?]
  | acceptorEnded acceptor => simp [Core.call?, acceptor, Acceptor.ending?, Ending.call?]
  | noDrain | stalled | drained => rfl
  | noCaller caller => simp [Core.call?, caller]
  | answered caller stage => exact call?_caller caller (by rintro rfl; simp at stage)
  | held caller stage => exact call?_caller caller (by rintro rfl; simp at stage)
  | untold caller => exact call?_caller caller (by simp)
  | misplaced caller misplaced =>
    exact call?_caller caller (by rintro rfl; simp [Caller.isMisplaced] at misplaced)

theorem Closing.first_of_taken (h : Closing c calls taken known)
    (hr : c'.shutdown.reason.toList = c.shutdown.reason.toList ++ c.took a) :
    (calls ++ (c.call? a).toList).take 1 = c'.shutdown.reason.toList := by
  rw [hr, took_eq, ← h.first]
  have hi := h.closure.running_iff
  have hf := h.first
  cases hs : c.shutdown.reason with
  | none =>
    have hc : calls = [] := by simpa [hs] using hf
    have running := hi.2 hs
    cases c.call? a <;> simp [hc, running]
  | some reason =>
    -- The first call of all took long ago, so this one comes too late.
    have closing : c.shutdown.state ≠ .running := by simp [hi, hs]
    cases calls with
    | nil => simp [hs] at hf
    | cons reason rest => simp [closing]

theorem Move.reason_eq (move : Move c t c' effects)
    (fresh : c.shutdown.state = .running → c.shutdown.reason = none) :
    c'.shutdown.reason.toList = c.shutdown.reason.toList ++ c.took (.step t) := by
  rw [took_eq]
  cases move with
  | take reading => simp [Core.call?, reading, Reader.ending?]
  | takeError reading => simp [Core.call?, reading, Reader.ending?]
  | readClosed reading => simp [Core.call?, reading, Reader.ending?]
  | recordDatagram reader => simp [Core.call?, reader, Reader.ending?]
  | deliverDatagram reader => simp [Core.call?, reader, Reader.ending?]
  | endReader reader move => simpa [Core.call?, reader, Reader.ending?] using move.reason_eq fresh
  | accept accepting => simp [Core.call?, accepting, Acceptor.ending?]
  | acceptError accepting => simp [Core.call?, accepting, Acceptor.ending?]
  | join joining => simp [Core.call?, joining, Acceptor.ending?]
  | endAcceptor acceptor move =>
    simpa [Core.call?, acceptor, Acceptor.ending?] using move.reason_eq fresh
  | drain drain move => simp [Core.call?]
  | call caller move =>
    cases move with
    | send out move =>
      rw [call?_caller caller (by rintro rfl; simp [Request.outgoing?] at out)]
      simp
    | stopFirst running => simp [begun, fresh running, running, Core.call?, caller]
    | stopLate closing => simp [closing]
    | stopHangUp => simp [call?_caller caller]
    | told => simp [call?_caller caller]

theorem EndMove.published {b : Option Ending}
    (move : EndMove id loop sh l stage sh' l' stage' effects) (h : Closure sh known (some stage) b)
    (published : sh.published = some reason) : sh'.published = some reason := by
  cases move with
  | leave other => rw [(loopExited_reason other).2, published]
  | leaveLast last => rw [(loopExited_reason last).2, published]
  | @publish _ last =>
    have hr : rank (some (.publish last)) = 3 := rfl
    rw [h.published, hr, if_neg (by omega)] at published
    simp at published
  | _ => exact published

theorem SendMove.not_closed {payload : Payload} {channel : Channel} {stage stage' : Stage}
    (move : SendMove payload channel sh l stage l' stage' effects) (reason : CloseReason) :
    stage' ≠ .replied (.closed reason) := by
  cases move <;> simp

theorem CallerMove.published_of_told {o : Options} {stage : Stage}
    (move : CallerMove id o sh l k sh' l' stage effects) (hs : stage = .replied (.closed reason)) :
    sh'.published = some reason := by
  cases move with
  | send out move => exact absurd hs (move.not_closed reason)
  | told published =>
    obtain rfl := by simpa using hs
    exact published
  | _ => simp at hs

theorem CallerMove.published {o : Options} {stage : Stage}
    (move : CallerMove id o sh l k sh' l' stage effects) : sh'.published = sh.published := by
  cases move <;> rfl

theorem Closing.told_move (h : Closing c calls taken known) (move : Move c t c' effects) :
    ∀ k ∈ c'.callers, ∀ reason, k.stage = .replied (.closed reason) →
      c'.shutdown.published = some reason := by
  intro k hk reason hs
  have hc := h.closure
  cases move with
  | endReader reader move =>
    simp only [reader, Reader.ending?] at hc
    exact move.published hc (h.told k hk reason hs)
  | endAcceptor acceptor move =>
    simp only [acceptor, Acceptor.ending?] at hc
    exact move.published hc.symm (h.told k hk reason hs)
  | call caller move =>
    obtain hk | rfl := List.mem_or_eq_of_mem_set hk
    · rw [move.published]
      exact h.told k hk reason hs
    · exact move.published_of_told hs
  | _ => exact h.told k hk reason hs

theorem Closing.acts (h : Closing c calls taken known) (acts : Acts c a c' effects) :
    Closing c' (calls ++ (c.call? a).toList) (taken ++ c.took a)
      (known ++ effects.filter Effect.isClosing) := by
  have keep (closure : Closure c'.shutdown (known ++ effects.filter Effect.isClosing)
        c'.reader.ending? c'.acceptor.ending?)
      (hr : c'.shutdown.reason.toList = c.shutdown.reason.toList ++ c.took a)
      (told : ∀ k ∈ c'.callers, ∀ reason, k.stage = .replied (.closed reason) →
        c'.shutdown.published = some reason) :
      Closing c' (calls ++ (c.call? a).toList) (taken ++ c.took a)
        (known ++ effects.filter Effect.isClosing) :=
    ⟨closure, by rw [h.taken_eq, hr], h.first_of_taken hr, told⟩
  cases acts with
  | moves move =>
    exact keep (h.closure.move move) (move.reason_eq h.closure.running_iff.1) (h.told_move move)
  | waits blocked =>
    exact keep (by simpa using h.closure) (by simp [took_eq, call?_of_blocked blocked]) h.told
  | request =>
    refine keep (by simpa using h.closure) (by simp [took_eq, Core.call?]) ?_
    intro k hk reason hs
    obtain hk | rfl := by simpa using hk
    · exact h.told k hk reason hs
    · simp at hs
  | event => exact keep (by simpa using h.closure) (by simp [took_eq, Core.call?]) h.told
  | pass => exact keep (by simpa using h.closure) (by simp [took_eq, Core.call?]) h.told

theorem filter_isClosing_visible (history : List Effect) :
    (visible history).filter Effect.isClosing = history.filter Effect.isClosing := by
  rw [visible, List.filter_filter]
  congr 1
  funext e
  cases e with
  | logged entry => cases entry <;> rfl
  | traced event => cases event <;> rfl
  | _ => rfl

theorem closing_run (id : ConnectionId) (options : Options) (link : Link)
    (registry : Trace.Registry) (clock : Nat) (actions : List Action) :
    let first := spawn id options link registry clock
    Closing (first.run actions).core (calledFor first actions) (begunFor first actions)
      ((first.run actions).history.filter Effect.isClosing) := by
  intro first
  refine run_induction (P := fun actions s => Closing s.core (calledFor first actions)
    (begunFor first actions) (s.history.filter Effect.isClosing)) ?_ ?_ actions
  · rw [← filter_isClosing_visible, visible_spawn, core_spawn]
    exact ⟨closure_start, rfl, rfl, by simp⟩
  · intro actions a h
    have ha := h.acts (acts (first.run actions) a)
    rw [filter_isClosing_visible, ← List.filter_append, ← history_act] at ha
    simpa only [calledFor, begunFor, along_concat] using ha

theorem loopExited_state {last : Option CloseReason} (h : sh.loopExited = (last, sh')) :
    sh'.state = sh.state ∨ sh'.state = .closed := by
  unfold Shutdown.loopExited at h
  dsimp only at h
  split at h <;> obtain ⟨-, rfl⟩ := Prod.mk.inj h
  · exact .inr rfl
  · exact .inl rfl

theorem EndMove.keeps_closing
    (move : EndMove id loop sh l stage sh' l' stage' effects) (closing : sh.state ≠ .running) :
    sh'.state ≠ .running := by
  cases move with
  | beginQuiet running => exact absurd running closing
  | beginFault running => exact absurd running closing
  | leave other => obtain h | h := loopExited_state other <;> simp [h, closing]
  | leaveLast last => obtain h | h := loopExited_state last <;> simp [h, closing]
  | _ => exact closing

theorem Acts.keeps_closing (h : Acts c a c' effects) (closing : c.shutdown.state ≠ .running) :
    c'.shutdown.state ≠ .running := by
  cases h with
  | moves move =>
    cases move with
    | endReader reader move => exact move.keeps_closing closing
    | endAcceptor acceptor move => exact move.keeps_closing closing
    | call caller move =>
      cases move with
      | stopFirst running => exact absurd running closing
      | _ => exact closing
    | _ => exact closing
  | _ => exact closing

theorem closing_stays (closing : s.state ≠ .running) (actions : List Action) :
    (s.run actions).state ≠ .running :=
  run_induction (P := fun _ s' => s'.core.shutdown.state ≠ .running) closing
    (fun actions a h => (acts (s.run actions) a).keeps_closing h) actions

def ClosedFor (first : Session) (actions : List Action) (reason : CloseReason) : Prop :=
  begunFor first actions = [reason] ∧
    (first.run actions).history.filterMap Effect.closeReason? = [reason] ∧
    (first.run actions).history.filter Effect.isClosing = rite reason

/-- How a session closes that started as `first`, seen after some actions. -/
structure ClosesOnce (first : Session) (actions : List Action) : Prop where
  first_takes : begunFor first actions = (calledFor first actions).take 1
  reason : (first.run actions).shutdown.reason = (begunFor first actions).head?
  stays : ∀ reason more, (first.run actions).shutdown.reason = some reason →
    (first.run (actions ++ more)).shutdown.reason = some reason
  no_fallback : ∀ reason, (first.run actions).shutdown.loopExited.1 = some reason →
    begunFor first actions = [reason]
  notices : (first.run actions).history.filterMap Effect.closeReason? <+: begunFor first actions
  in_order : (first.run actions).history.filter Effect.isClosing <+:
    (begunFor first actions).flatMap rite
  told : ∀ k ∈ (first.run actions).callers, ∀ reason, k.reply? = some (.closed reason) →
    ClosedFor first actions reason
  closed : (first.run actions).reader = .ending .ended →
    (first.run actions).acceptor = .ending .ended →
    ∃ reason, ClosedFor first actions reason ∧ (first.run actions).state = .closed ∧
      ∀ number, (first.run actions).callers[number]? = some ⟨.awaitClosed, .asked⟩ →
        ((first.run actions).act (.step (.caller number))).callers[number]? =
          some ⟨.awaitClosed, .replied (.closed reason)⟩
  /-- Both loops come to their ends, however their turns lie among all else that happens. -/
  ends : ∀ more, (first.run actions).reader.ending?.isSome = true →
    (first.run actions).acceptor.ending?.isSome = true →
    7 ≤ turnsOf .reader more → 7 ≤ turnsOf .acceptor more →
    (first.run (actions ++ more)).reader = .ending .ended ∧
      (first.run (actions ++ more)).acceptor = .ending .ended

theorem Closing.in_order (h : Closing c calls taken known) : known <+: taken.flatMap rite := by
  have hr : rites c.shutdown.reason = taken.flatMap rite := by
    rw [h.taken_eq]
    cases c.shutdown.reason <;> simp [rites]
  rw [h.closure.known, hr]
  exact List.take_prefix _ _

theorem Closing.of_published (h : Closing c calls taken known)
    (published : c.shutdown.published = some reason) : taken = [reason] ∧ known = rite reason := by
  have hp := h.closure.published
  have hk := h.closure.known
  split at hp
  · rename_i hrank
    have hr : c.shutdown.reason = some reason := by rw [← hp, published]
    rw [hrank, hr] at hk
    exact ⟨by rw [h.taken_eq, hr]; rfl, hk⟩
  · simp [published] at hp

theorem Closing.closed_of_published (h : Closing c calls taken known)
    (published : c.shutdown.published = some reason) : c.shutdown.state = .closed := by
  have last := h.closure.published
  rw [published] at last
  split at last
  · obtain ⟨reader, acceptor⟩ := Nat.le_min.1 (Nat.le_of_eq ‹min _ _ = 4›.symm)
    exact h.closure.closed_iff.2 ⟨hasLeft_of_rank (by omega), hasLeft_of_rank (by omega)⟩
  · simp at last

theorem Closing.published_of_ended (h : Closing c calls taken known)
    (reader : c.reader = .ending .ended) (acceptor : c.acceptor = .ending .ended) :
    c.shutdown.state = .closed ∧ ∃ reason, c.shutdown.published = some reason := by
  have hc := h.closure
  simp only [reader, acceptor, Reader.ending?, Acceptor.ending?] at hc
  obtain ⟨reason, hr⟩ := Option.isSome_iff_exists.1 (hc.called (.inl rfl))
  exact ⟨hc.closed_iff.2 ⟨rfl, rfl⟩, reason, by rw [hc.published, hr]; rfl⟩

/-- The loop that leaves last finds the reason of whoever called first. -/
theorem Closing.no_fallback (h : Closing c calls taken known)
    (last : c.shutdown.loopExited.1 = some reason) : taken = [reason] := by
  have hc := h.closure
  unfold Shutdown.loopExited at last
  dsimp only at last
  split at last
  · rename_i hl
    -- If neither loop had called, two would be live, and this would not be the last to leave.
    have called : hasCalled c.reader.ending? = true ∨ hasCalled c.acceptor.ending? = true := by
      apply Classical.byContradiction
      intro hn
      simp only [not_or, Bool.not_eq_true] at hn
      have hlive := hc.live
      simp only [not_hasLeft_of_not_hasCalled hn.1, not_hasLeft_of_not_hasCalled hn.2] at hlive
      simp [hlive] at hl
    obtain ⟨r, hr⟩ := Option.isSome_iff_exists.1 (hc.called called)
    have hs : r = reason := by simpa [hr] using last
    rw [h.taken_eq, hr, hs]
    rfl
  · simp at last

theorem closeReason?_rite (reasons : List CloseReason) :
    (reasons.flatMap rite).filterMap Effect.closeReason? = reasons := by
  induction reasons with
  | nil => rfl
  | cons reason rest ih => simp [rite, List.filterMap_cons, Effect.closeReason?, ih]

theorem filterMap_closeReason? (history : List Effect) :
    history.filterMap Effect.closeReason? =
      (history.filter Effect.isClosing).filterMap Effect.closeReason? := by
  rw [List.filterMap_filter]
  congr 1
  funext e
  cases e with
  | traced event => cases event <;> rfl
  | _ => rfl

def Ending.left : Ending → Nat
  | classify _ => 7
  | hangUp => 6
  | leave => 5
  | record _ => 4
  | release _ => 3
  | notify _ => 2
  | publish _ => 1
  | ended => 0

theorem EndMove.left_lt (move : EndMove id loop sh l stage sh' l' stage' effects) :
    stage'.left < stage.left := by
  cases move <;> simp [Ending.left]

def Core.ending? (c : Core) : Task → Option Ending
  | .reader => c.reader.ending?
  | .acceptor => c.acceptor.ending?
  | _ => none

theorem Acts.ending (h : Acts c a c' effects) (ht : c.ending? t = some stage) :
    ∃ stage', c'.ending? t = some stage' ∧ stage'.left ≤ stage.left - turnsOf t [a] := by
  -- Nobody sets a loop back: unless it is the loop's own turn, the loop stands where it stood.
  have stays (other : turnsOf t [a] = 0) (same : c'.ending? t = c.ending? t) :
      ∃ stage', c'.ending? t = some stage' ∧ stage'.left ≤ stage.left - turnsOf t [a] :=
    ⟨stage, by rw [same, ht], by rw [other]; exact Nat.le_refl _⟩
  cases t with
  | reader =>
    cases hr : c.reader with
    | ending stage₀ =>
      obtain rfl : stage₀ = stage := by simpa [Core.ending?, hr, Reader.ending?] using ht
      cases h with
      | moves move =>
        cases move with
        | endReader reader move =>
          obtain rfl := by simpa [hr] using reader
          exact ⟨_, rfl, Nat.le_sub_one_of_lt move.left_lt⟩
        | take reading | takeError reading | readClosed reading => simp [hr] at reading
        | recordDatagram reader | deliverDatagram reader => simp [hr] at reader
        | _ => exact stays rfl rfl
      | waits blocked =>
        cases blocked with
        | noDatagram reading => simp [hr] at reading
        | readerEnded reader =>
          obtain rfl := by simpa [hr] using reader
          exact ⟨_, ht, Nat.zero_le _⟩
        | _ => exact stays rfl rfl
      | _ => exact stays rfl rfl
    | _ => simp [Core.ending?, hr, Reader.ending?] at ht
  | acceptor =>
    cases hr : c.acceptor with
    | ending stage₀ =>
      obtain rfl : stage₀ = stage := by simpa [Core.ending?, hr, Acceptor.ending?] using ht
      cases h with
      | moves move =>
        cases move with
        | endAcceptor acceptor move =>
          obtain rfl := by simpa [hr] using acceptor
          exact ⟨_, rfl, Nat.le_sub_one_of_lt move.left_lt⟩
        | accept accepting | acceptError accepting => simp [hr] at accepting
        | join joining => simp [hr] at joining
        | _ => exact stays rfl rfl
      | waits blocked =>
        cases blocked with
        | noStream accepting => simp [hr] at accepting
        | joining joining => simp [hr] at joining
        | acceptorEnded acceptor =>
          obtain rfl := by simpa [hr] using acceptor
          exact ⟨_, ht, Nat.zero_le _⟩
        | _ => exact stays rfl rfl
      | _ => exact stays rfl rfl
    | _ => simp [Core.ending?, hr, Acceptor.ending?] at ht
  | _ => simp [Core.ending?] at ht

theorem ending_run (ht : s.core.ending? t = some stage) (actions : List Action) :
    ∃ stage', (s.run actions).core.ending? t = some stage' ∧
      stage'.left ≤ stage.left - turnsOf t actions := by
  induction actions generalizing s stage with
  | nil => exact ⟨stage, ht, Nat.le_refl _⟩
  | cons a rest ih =>
    obtain ⟨next, hn, hle⟩ := (acts s a).ending ht
    obtain ⟨last, hl, hle'⟩ := ih hn
    refine ⟨last, hl, ?_⟩
    rw [turnsOf_cons]
    omega

theorem Ending.left_le (stage : Ending) : stage.left ≤ 7 := by
  cases stage <;> simp [Ending.left]

theorem eq_ended_of_left (h : stage.left = 0) : stage = .ended := by
  cases stage <;> simp_all [Ending.left]

theorem ended_run (actions : List Action) (ends : (s.core.ending? t).isSome = true)
    (turns : 7 ≤ turnsOf t actions) : (s.run actions).core.ending? t = some .ended := by
  obtain ⟨stage, hs⟩ := Option.isSome_iff_exists.1 ends
  obtain ⟨last, hl, hle⟩ := ending_run hs actions
  have hstage := stage.left_le
  have hlast : last = .ended := eq_ended_of_left (by omega)
  rw [hl, hlast]

theorem reader_eq {r : Reader} (h : r.ending? = some stage) : r = .ending stage := by
  cases r <;> simp_all [Reader.ending?]

theorem acceptor_eq {a : Acceptor} (h : a.ending? = some stage) : a = .ending stage := by
  cases a <;> simp_all [Acceptor.ending?]

theorem act_told {number : Nat} (published : s.shutdown.published = some reason)
    (waiting : s.callers[number]? = some ⟨.awaitClosed, .asked⟩) :
    (s.act (.step (.caller number))).callers[number]? =
      some ⟨.awaitClosed, .replied (.closed reason)⟩ := by
  have hn := (List.getElem?_eq_some_iff.1 waiting).1
  have hstep : s.step? (.caller number) = some { s with
      callers := s.callers.set number ⟨.awaitClosed, .replied (.closed reason)⟩ } := by
    simp [step?, waiting, callerStep?, awaitStep?, published]
  simp [act, hstep, hn]

/-- Whatever happens to a session, it closes once, for the first reason given, and everyone is told
of that reason in the same order. -/
theorem closes_once (id : ConnectionId) (options : Options) (link : Link)
    (registry : Trace.Registry) (clock : Nat) (actions : List Action) :
    ClosesOnce (spawn id options link registry clock) actions := by
  have closing := closing_run id options link registry clock
  have h := closing actions
  have reason_eq (actions : List Action) := (closing actions).taken_eq
  have closedFor {reason : CloseReason}
      (published : ((spawn id options link registry clock).run actions).shutdown.published =
        some reason) : ClosedFor (spawn id options link registry clock) actions reason := by
    obtain ⟨taken, known⟩ := h.of_published published
    refine ⟨taken, ?_, known⟩
    rw [filterMap_closeReason?, known]
    rfl
  exact {
    first_takes := by rw [h.taken_eq, h.first]
    reason := by
      rw [h.taken_eq]
      exact Option.head?_toList.symm
    stays := by
      intro reason more hr
      have hb : begunFor (spawn id options link registry clock) actions = [reason] := by
        rw [h.taken_eq]
        exact congrArg Option.toList hr
      have ht := reason_eq (actions ++ more)
      rw [begunFor, along_append, ← begunFor, hb] at ht
      cases hs : ((spawn id options link registry clock).run (actions ++ more)).core.shutdown.reason
      with
      | none => simp [hs] at ht
      | some r =>
        obtain ⟨rfl, -⟩ := by simpa [hs] using ht
        exact hs
    no_fallback := fun reason last => h.no_fallback last
    notices := by
      rw [filterMap_closeReason?]
      simpa [closeReason?_rite] using h.in_order.filterMap Effect.closeReason?
    in_order := h.in_order
    told := by
      intro k hk reason hr
      refine closedFor (h.told k hk reason ?_)
      unfold Caller.reply? at hr
      split at hr
      · rename_i hs
        rw [hs, Option.some.inj hr]
      · simp at hr
    closed := by
      intro reader acceptor
      obtain ⟨state, reason, published⟩ := h.published_of_ended reader acceptor
      exact ⟨reason, closedFor published, state, fun number => act_told published⟩
    ends := by
      intro more reader acceptor readerTurns acceptorTurns
      rw [run_append]
      exact ⟨reader_eq (ended_run (t := .reader) more reader readerTurns),
        acceptor_eq (ended_run (t := .acceptor) more acceptor acceptorTurns)⟩ }

end MessageTunnel.Session
