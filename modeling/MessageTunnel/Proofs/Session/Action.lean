import MessageTunnel.Proofs.Session.Move
/-!
What an action of a run can be: a move of a task, the wait of a task that is blocked, or something
from outside. `acts` gives this for every action, with the news that it brings.
-/
set_option autoImplicit false

namespace MessageTunnel.Session

def Caller.isMisplaced : Caller → Bool
  | ⟨.send _, .hangUp⟩ | ⟨.sendStream _, .hangUp⟩ | ⟨.stop, .sending _⟩
  | ⟨.awaitClosed, .sending _⟩ | ⟨.awaitClosed, .hangUp⟩ => true
  | _ => false

inductive Blocked (c : Core) : Task → Prop where
  | noDatagram (reading : c.reader = .reading) (opened : c.link.closed = none)
      (queue : c.link.datagrams = []) : Blocked c .reader
  | readerEnded (reader : c.reader = .ending .ended) : Blocked c .reader
  | noStream (accepting : c.acceptor = .accepting) (works : c.link.acceptFailure = none)
      (opened : c.link.closed = none) (queue : c.link.streams = []) : Blocked c .acceptor
  | joining {e : TransportError} (joining : c.acceptor = .joining e)
      (draining : c.drains.all Drain.isEnded = false) : Blocked c .acceptor
  | acceptorEnded (acceptor : c.acceptor = .ending .ended) : Blocked c .acceptor
  | noDrain {number : Nat} (drain : c.drains[number]? = none) : Blocked c (.drain number)
  | stalled {number : Nat} {stream : InboundStream} {message : Payload}
      (drain : c.drains[number]? = some (.reading stream message)) (parts : stream.parts = [])
      (stalls : stream.stalls = true) (opened : c.link.closed = none) : Blocked c (.drain number)
  | drained {number : Nat} {outcome : Drained} (drain : c.drains[number]? = some (.ended outcome)) :
      Blocked c (.drain number)
  | noCaller {number : Nat} (caller : c.callers[number]? = none) : Blocked c (.caller number)
  | answered {number : Nat} {k : Caller} {r : Reply} (caller : c.callers[number]? = some k)
      (stage : k.stage = .replied r) : Blocked c (.caller number)
  | held {number : Nat} {k : Caller} {e : TransportError} (caller : c.callers[number]? = some k)
      (stage : k.stage = .sending (.held e)) (opened : c.link.closed = none) :
      Blocked c (.caller number)
  | untold {number : Nat} (caller : c.callers[number]? = some ⟨.awaitClosed, .asked⟩)
      (unpublished : c.shutdown.published = none) : Blocked c (.caller number)
  | misplaced {number : Nat} {k : Caller} (caller : c.callers[number]? = some k)
      (misplaced : k.isMisplaced = true) : Blocked c (.caller number)

theorem endStep?_eq_none {s : Session} {loop : Log.InboundLoop} {stage : Ending}
    (h : s.endStep? loop stage = none) : stage = .ended := by
  cases stage with
  | classify e =>
    unfold endStep? at h
    dsimp only at h
    split at h <;> simp at h
  | ended => rfl
  | _ => simp [endStep?] at h

theorem blocked_reader {s : Session} (h : s.readerStep? = none) : Blocked s.core .reader := by
  unfold readerStep? at h
  cases reader : s.reader with
  | reading =>
    cases closed : s.link.closed with
    | some e => simp [reader, Link.readDatagram, closed] at h
    | none =>
      cases queue : s.link.datagrams with
      | nil => exact .noDatagram reader closed queue
      | cons d rest => cases d <;> simp [reader, Link.readDatagram, closed, queue] at h
  | ending stage =>
    simp only [reader, Option.map_eq_none_iff] at h
    obtain rfl := endStep?_eq_none h
    exact .readerEnded reader
  | _ => simp [reader] at h

theorem blocked_acceptor {s : Session} (h : s.acceptorStep? = none) : Blocked s.core .acceptor := by
  unfold acceptorStep? at h
  cases acceptor : s.acceptor with
  | accepting =>
    cases works : s.link.acceptFailure with
    | some e => simp [acceptor, Link.acceptStream, works] at h
    | none =>
      cases closed : s.link.closed with
      | some e => simp [acceptor, Link.acceptStream, works, closed] at h
      | none =>
        cases queue : s.link.streams with
        | nil => exact .noStream acceptor works closed queue
        | cons stream rest => simp [acceptor, Link.acceptStream, works, closed, queue] at h
  | joining e =>
    cases draining : s.drains.all Drain.isEnded with
    | false => exact .joining acceptor draining
    | true => simp [acceptor, draining] at h
  | ending stage =>
    simp only [acceptor, Option.map_eq_none_iff] at h
    obtain rfl := endStep?_eq_none h
    exact .acceptorEnded acceptor

theorem blocked_drain {s : Session} {number : Nat} {d : Drain} (drain : s.drains[number]? = some d)
    (h : s.drainStep? d = none) : Blocked s.core (.drain number) := by
  cases d with
  | reading stream message =>
    unfold drainStep? Link.read at h
    cases parts : stream.parts with
    | nil =>
      cases stalls : stream.stalls with
      | false => simp [parts, stalls] at h
      | true =>
        cases closed : s.link.closed with
        | some e => simp [parts, stalls, closed] at h
        | none => exact .stalled drain parts stalls closed
    | cons part rest => cases part <;> simp [parts] at h
  | record outcome => cases outcome <;> simp [drainStep?] at h
  | deliver message => simp [drainStep?] at h
  | ended outcome => exact .drained drain

theorem sendStep?_eq_none {s : Session} {payload : Payload} {channel : Channel} {stage : Stage}
    (h : s.sendStep? payload channel stage = none) :
    stage = .hangUp ∨ (∃ r, stage = .replied r) ∨
      ∃ e, stage = .sending (.held e) ∧ s.link.closed = none := by
  cases stage with
  | asked => simp only [sendStep?] at h; split at h <;> simp at h
  | sending stage =>
    cases step : Dispatch.step payload stage s.link with
    | mk next l =>
      have moves (goesOn : ∀ result, stage ≠ .ended result) :
          ∃ e, stage = .held e ∧ ∃ e', next = .held e' := by
        apply Classical.byContradiction
        intro hn
        rw [sendStep?_sending goesOn (fun e he e' he' => hn ⟨e, he, e', he'⟩) step] at h
        simp at h
      cases stage with
      | ended result => cases result <;> simp [sendStep?] at h
      | held e =>
        obtain ⟨-, -, e', rfl⟩ := moves (by simp)
        cases closed : s.link.closed with
        | none => exact .inr (.inr ⟨e, rfl, rfl⟩)
        | some _ => simp [Dispatch.step, closed, Dispatch.Stage.failed] at step
      | _ =>
        obtain ⟨e, he, -⟩ := moves (by simp)
        simp at he
  | hangUp => exact .inl rfl
  | replied r => exact .inr (.inl ⟨r, rfl⟩)

theorem blocked_caller {s : Session} {number : Nat} {k : Caller}
    (caller : s.callers[number]? = some k) (h : s.callerStep? k = none) :
    Blocked s.core (.caller number) := by
  obtain ⟨request, stage⟩ := k
  have sent {payload : Payload} {channel : Channel}
      (hm : ∀ k : Caller, k = ⟨request, .hangUp⟩ → k.isMisplaced = true)
      (h : s.sendStep? payload channel stage = none) : Blocked s.core (.caller number) := by
    obtain rfl | ⟨r, rfl⟩ | ⟨e, rfl, opened⟩ := sendStep?_eq_none h
    · exact .misplaced caller (hm _ rfl)
    · exact .answered caller rfl
    · exact .held caller rfl opened
  cases request with
  | send payload => exact sent (by rintro _ rfl; rfl) h
  | sendStream payload => exact sent (by rintro _ rfl; rfl) h
  | stop =>
    cases stage with
    | asked => simp only [callerStep?, stopStep?] at h; split at h <;> simp at h
    | sending stage => exact .misplaced caller rfl
    | hangUp => simp [callerStep?, stopStep?] at h
    | replied r => exact .answered caller rfl
  | awaitClosed =>
    cases stage with
    | asked => exact .untold caller (Option.map_eq_none_iff.1 h)
    | replied r => exact .answered caller rfl
    | _ => exact .misplaced caller rfl

theorem blocked {s : Session} {t : Task} (h : s.step? t = none) : Blocked s.core t := by
  cases t with
  | reader => exact blocked_reader h
  | acceptor => exact blocked_acceptor h
  | drain number =>
    cases drain : s.drains[number]? with
    | none => exact .noDrain drain
    | some d =>
      refine blocked_drain drain ?_
      cases hd : s.drainStep? d with
      | none => rfl
      | some next => simp [step?, drain, hd] at h
  | caller number =>
    cases caller : s.callers[number]? with
    | none => exact .noCaller caller
    | some k =>
      refine blocked_caller caller ?_
      cases hk : s.callerStep? k with
      | none => rfl
      | some next => simp [step?, caller, hk] at h

theorem canStep_of_not_blocked {s : Session} {t : Task} (h : ¬ Blocked s.core t) :
    s.canStep t = true := by
  cases step : s.step? t with
  | none => exact absurd (blocked step) h
  | some next => simp [canStep, step]

theorem act_of_stuck {s : Session} {t : Task} (stuck : s.canStep t = false) :
    s.act (.step t) = s := by
  have none : s.step? t = none := by simpa [canStep] using stuck
  simp [act, none]

inductive Acts (c : Core) : Action → Core → List Effect → Prop where
  | moves {t : Task} {c' : Core} {effects : List Effect} (move : Move c t c' effects) :
      Acts c (.step t) c' effects
  | waits {t : Task} (blocked : Blocked c t) : Acts c (.step t) c []
  | request {r : Request} : Acts c (.request r) { c with callers := c.callers ++ [⟨r, .asked⟩] } []
  | event {e : Link.Event} : Acts c (.event e) { c with link := c.link.apply e } []
  | pass {nanoseconds : Nat} : Acts c (.pass nanoseconds) c []

theorem Acts.caller {c c' : Core} {a : Action} {effects : List Effect} (h : Acts c a c' effects)
    {number : Nat} {k : Caller} (hk : c.callers[number]? = some k) :
    (a ≠ .step (.caller number) ∧ c'.callers[number]? = some k) ∨
      (a = .step (.caller number) ∧ ∃ sh l stage,
        c' = { c with
          shutdown := sh, link := l, callers := c.callers.set number { k with stage := stage } } ∧
        CallerMove c.id c.options c.shutdown c.link k sh l stage effects) ∨
      (a = .step (.caller number) ∧ c' = c ∧ effects = [] ∧ Blocked c (.caller number)) := by
  have hn := (List.getElem?_eq_some_iff.1 hk).1
  cases h with
  | moves move =>
    cases move with
    | @call other k₀ sh l stage _ caller move =>
      by_cases same : other = number
      · subst same
        obtain rfl : k₀ = k := Option.some.inj (caller.symm.trans hk)
        exact .inr (.inl ⟨rfl, sh, l, stage, rfl, move⟩)
      · exact .inl ⟨by simpa using same, by rw [List.getElem?_set_ne same, hk]⟩
    | _ => exact .inl ⟨by simp, hk⟩
  | @waits t blocked =>
    by_cases same : t = .caller number
    · subst same
      exact .inr (.inr ⟨rfl, rfl, rfl, blocked⟩)
    · exact .inl ⟨by simpa using same, hk⟩
  | request => exact .inl ⟨by simp, by rw [List.getElem?_append_left hn, hk]⟩
  | _ => exact .inl ⟨by simp, hk⟩

theorem Acts.newcomer {c c' : Core} {a : Action} {effects : List Effect} (h : Acts c a c' effects)
    {number : Nat} {k : Caller} (none : c.callers[number]? = none)
    (hk : c'.callers[number]? = some k) : ∃ r, a = .request r ∧ k = ⟨r, .asked⟩ := by
  have old (same : c'.callers.length = c.callers.length) :
      ∃ r, a = .request r ∧ k = ⟨r, .asked⟩ := by
    have less := (List.getElem?_eq_some_iff.1 hk).1
    have beyond := List.getElem?_eq_none_iff.1 none
    omega
  cases h with
  | moves move =>
    cases move with
    | call => exact old List.length_set
    | _ => exact old rfl
  | @request r =>
    rw [List.getElem?_append_right (List.getElem?_eq_none_iff.1 none)] at hk
    obtain rfl := List.mem_singleton.1 (List.mem_of_getElem? hk)
    exact ⟨r, rfl, rfl⟩
  | _ => exact old rfl

theorem Acts.reader_eq {c c' : Core} {a : Action} {effects : List Effect} (h : Acts c a c' effects)
    (other : a ≠ .step .reader) : c'.reader = c.reader := by
  cases h with
  | moves move =>
    cases move with
    | take | takeError | readClosed | recordDatagram | deliverDatagram | endReader =>
      exact absurd rfl other
    | _ => rfl
  | _ => rfl

theorem Acts.acceptor_eq {c c' : Core} {a : Action} {effects : List Effect}
    (h : Acts c a c' effects) (other : a ≠ .step .acceptor) : c'.acceptor = c.acceptor := by
  cases h with
  | moves move =>
    cases move with
    | acceptError | join | endAcceptor => exact absurd rfl other
    | _ => rfl
  | _ => rfl

/-- The caller stands where its request can have brought it, and has an answer to that request. -/
def Caller.isFit : Caller → Bool
  | ⟨_, .asked⟩ => true
  | ⟨.send _, .sending _⟩ | ⟨.sendStream _, .sending _⟩ | ⟨.stop, .hangUp⟩ => true
  | ⟨.send _, .replied (.sent _)⟩ | ⟨.sendStream _, .replied (.sent _)⟩ => true
  | ⟨.stop, .replied .stopped⟩ | ⟨.awaitClosed, .replied (.closed _)⟩ => true
  | ⟨.awaitClosed, .replied (.failed _)⟩ => false
  | ⟨_, .replied (.failed _)⟩ => true
  | _ => false

theorem CallerMove.fit {id : ConnectionId} {o : Options} {sh sh' : Shutdown} {l l' : Link}
    {k : Caller} {stage : Stage} {effects : List Effect}
    (move : CallerMove id o sh l k sh' l' stage effects) :
    Caller.isFit { k with stage := stage } = true := by
  cases move with
  | send out move =>
    obtain ⟨request, before⟩ := k
    cases request with
    | send payload => cases move <;> rfl
    | sendStream payload => cases move <;> rfl
    | stop | awaitClosed => simp [Request.outgoing?] at out
  | _ => rfl

theorem Acts.fit {c c' : Core} {a : Action} {effects : List Effect} (h : Acts c a c' effects)
    (fit : ∀ k ∈ c.callers, k.isFit = true) : ∀ k ∈ c'.callers, k.isFit = true := by
  intro k mem
  obtain ⟨number, hk⟩ := List.getElem?_of_mem mem
  cases old : c.callers[number]? with
  | none =>
    obtain ⟨r, -, rfl⟩ := h.newcomer old hk
    rfl
  | some before =>
    obtain ⟨-, same⟩ | ⟨-, sh, l, stage, rfl, move⟩ | ⟨-, rfl, -⟩ := h.caller old
    · obtain rfl := Option.some.inj (hk.symm.trans same)
      exact fit _ (List.mem_of_getElem? old)
    · have less := (List.getElem?_eq_some_iff.1 old).1
      obtain rfl := by simpa [less] using hk
      exact move.fit
    · exact fit k mem

def news (s : Session) (a : Action) : List Effect := (s.act a).history.drop s.history.length

theorem Adds.news_eq {s : Session} {a : Action} {effects : List Effect}
    (h : Adds s (s.act a) effects) :
    (s.act a).history = s.history ++ s.news a ∧ visible (s.news a) = effects := by
  obtain ⟨fresh, hf, hv⟩ := h
  have hn : s.news a = fresh := by simp [news, hf]
  exact ⟨by rw [hn, hf], by rw [hn, hv]⟩

theorem exists_acts (s : Session) (a : Action) :
    ∃ effects, Acts s.core a (s.act a).core effects ∧ Adds s (s.act a) effects := by
  cases a with
  | step t =>
    cases h : s.step? t with
    | none =>
      have same : s.act (.step t) = s := by simp [act, h]
      rw [same]
      exact ⟨[], .waits (blocked h), .of_history_eq rfl⟩
    | some s' =>
      obtain ⟨effects, move, adds⟩ := exists_move h
      exact ⟨effects, by simpa [act, h] using .moves move, by simpa [act, h] using adds⟩
  | request r => exact ⟨[], .request, .of_history_eq rfl⟩
  | event e => exact ⟨[], .event, .of_history_eq rfl⟩
  | pass nanoseconds => exact ⟨[], .pass, .of_history_eq rfl⟩

/-- An action of a session is one of these on its core, and its news are what that makes visible. -/
theorem acts (s : Session) (a : Action) : Acts s.core a (s.act a).core (visible (s.news a)) := by
  obtain ⟨effects, h, adds⟩ := exists_acts s a
  rwa [adds.news_eq.2]

theorem history_act (s : Session) (a : Action) : (s.act a).history = s.history ++ s.news a := by
  obtain ⟨effects, -, adds⟩ := exists_acts s a
  exact adds.news_eq.1

end MessageTunnel.Session
