import MessageTunnel.Proofs.Dispatch
import MessageTunnel.Proofs.Session.Closing
import MessageTunnel.Proofs.Session.Outbound
set_option autoImplicit false

namespace MessageTunnel

namespace Session

variable {sh sh' : Shutdown} {l l' : Link} {c c' : Core} {s : Session} {a : Action}
  {effects : List Effect} {number : Nat} {k : Caller} {causes : List TransportError}

/-- From now on the caller's turn changes nothing but that the caller is told `closed`. -/
def Refuses (s : Session) (number : Nat) (r : Request) : Prop :=
  ∀ more,
    (s.run more).callers[number]? =
        some ⟨r, if turnsOf (.caller number) more = 0 then .asked else .replied (.failed .closed)⟩ ∧
      (s.run more).act (.step (.caller number)) =
        { s.run more with
          callers := (s.run more).callers.set number ⟨r, .replied (.failed .closed)⟩ }

theorem act_of_asked {r : Request} (closing : s.state ≠ .running)
    (asked : s.callers[number]? = some ⟨r, .asked⟩) (other : r ≠ .awaitClosed) :
    s.act (.step (.caller number)) =
      { s with callers := s.callers.set number ⟨r, .replied (.failed .closed)⟩ } := by
  have closing : s.shutdown.state ≠ .running := closing
  cases r with
  | send payload | sendStream payload =>
    simp [act, step?, asked, callerStep?, sendStep?, Shutdown.ensureRunning, closing]
  | stop => simp [act, step?, asked, callerStep?, stopStep?, Shutdown.beginClosing, closing]
  | awaitClosed => exact absurd rfl other

theorem act_of_replied {reply : Reply} {r : Request}
    (replied : s.callers[number]? = some ⟨r, .replied reply⟩) :
    s.act (.step (.caller number)) = s := by
  cases r <;> simp [act, step?, replied, callerStep?, sendStep?, stopStep?, awaitStep?]

theorem turnsOf_concat (t : Task) (actions : List Action) (a : Action) :
    turnsOf t (actions ++ [a]) = turnsOf t actions + turnsOf t [a] := List.countP_append

theorem refuses_of_closing {r : Request} (closing : s.state ≠ .running)
    (asked : s.callers[number]? = some ⟨r, .asked⟩) (other : r ≠ .awaitClosed) :
    s.Refuses number r := by
  have stands (more : List Action) : (s.run more).callers[number]? =
      some ⟨r, if turnsOf (.caller number) more = 0 then .asked else .replied (.failed .closed)⟩ := by
    refine run_induction (P := fun more s' => s'.callers[number]? =
      some ⟨r, if turnsOf (.caller number) more = 0 then .asked else .replied (.failed .closed)⟩)
      asked ?_ more
    intro more a h
    obtain ⟨elsewhere, same⟩ | ⟨rfl, -⟩ | ⟨rfl, -⟩ := (acts (s.run more) a).caller h
    · rw [turnsOf_concat, turnsOf_other elsewhere, Nat.add_zero]
      exact same
    all_goals
      rw [turnsOf_concat, turnsOf_self]
      have less := (List.getElem?_eq_some_iff.1 h).1
      split at h
      · rw [act_of_asked (closing_stays closing more) h other]
        simp [less]
      · rw [act_of_replied h, h]
        simp
  refine fun more => ⟨stands more, ?_⟩
  have h := stands more
  split at h
  · exact act_of_asked (closing_stays closing more) h other
  · obtain ⟨less, hk⟩ := List.getElem?_eq_some_iff.1 h
    rw [act_of_replied h, ← hk, List.set_getElem_self]

def Caller.refusal? (k : Caller) (l : Link) : Option TransportError :=
  match k.stage, k.request.payload? with
  | .sending stage, some payload => Dispatch.refusal? payload stage l
  | _, _ => none

def Core.refusals (c : Core) (number : Nat) (a : Action) : List TransportError :=
  match a with
  | .step t =>
    if t = .caller number then (c.callers[number]?.bind (·.refusal? c.link)).toList else []
  | _ => []

def refusalsOf (number : Nat) (s : Session) (actions : List Action) : List TransportError :=
  along (fun s a => s.core.refusals number a) s actions

/-- What a send has come to against the errors that its calls met. -/
def Answers (causes : List TransportError) : Stage → Prop
  | .sending (.ended (.error e)) =>
    (∃ cause, causes = [cause] ∧ e = .ofTransport cause) ∨ causes = [] ∧ e ≠ .closed
  | .replied _ => True
  | _ => causes = []

theorem answers_of_not_ended {stage : Dispatch.Stage} (h : Answers causes (.sending stage))
    (goesOn : ∀ result, stage ≠ .ended result) : causes = [] := by
  cases stage with
  | ended result => exact absurd rfl (goesOn result)
  | _ => exact h

theorem answers_of_idle {stage : Dispatch.Stage} (idle : ∀ e, stage ≠ .ended (.error e)) :
    Answers [] (.sending stage) := by
  cases stage with
  | ended result =>
    cases result with
    | ok channel => rfl
    | error e => exact absurd rfl (idle e)
  | _ => rfl

theorem SendMove.answers {payload : Payload} {channel : Channel} {stage : Stage}
    (move : SendMove payload channel sh l k.stage l' stage effects)
    (sends : k.request.payload? = some payload) (h : Answers causes k.stage) :
    Answers (causes ++ (k.refusal? l).toList) stage := by
  obtain ⟨request, before⟩ := k
  have sends : request.payload? = some payload := sends
  cases move with
  | admitted running =>
    obtain rfl : causes = [] := h
    cases channel <;> rfl
  | @call _ before next goesOn moves step =>
    obtain rfl := answers_of_not_ended h goesOn
    have refusal : Caller.refusal? ⟨request, .sending before⟩ l =
        Dispatch.refusal? payload before l := by
      simp [Caller.refusal?, sends]
    rw [refusal, List.nil_append]
    obtain ⟨cause, refused, failed⟩ | ⟨accepted, limited⟩ :=
      Dispatch.refusal_or_limit payload l goesOn
    · rw [step] at failed
      obtain rfl : next = .failed cause := failed
      exact .inl ⟨cause, by simp [refused], rfl⟩
    · rw [step] at limited
      rw [accepted, Option.toList_none]
      by_cases ended : ∃ e, next = .ended (.error e)
      · obtain ⟨e, rfl⟩ := ended
        refine .inr ⟨rfl, ?_⟩
        obtain rfl | ⟨limit, rfl⟩ := limited e rfl <;> simp
      · exact answers_of_idle fun e he => ended ⟨e, he⟩
  | _ => trivial

theorem refusal?_of_blocked (h : Blocked c (.caller number)) :
    (c.callers[number]?.bind (·.refusal? c.link)) = none := by
  cases h with
  | noCaller caller => simp [caller]
  | @answered _ k r caller stage => simp [caller, Caller.refusal?, stage]
  | @held _ k e caller stage opened =>
    cases hp : k.request.payload? <;>
      simp [caller, Caller.refusal?, stage, hp, Dispatch.refusal?, opened]
  | untold caller => simp [caller, Caller.refusal?]
  | @misplaced _ k caller misplaced =>
    obtain ⟨request, stage⟩ := k
    cases request <;> cases stage <;>
      simp_all [Caller.isMisplaced, Caller.refusal?, Request.payload?]

theorem refusals_of_other (c : Core) (other : a ≠ .step (.caller number)) :
    c.refusals number a = [] := by
  cases a with
  | step t =>
    have hne : t ≠ .caller number := fun same => other (congrArg _ same)
    simp [Core.refusals, hne]
  | _ => rfl

structure Answered (c : Core) (causes : Nat → List TransportError) : Prop where
  answers : ∀ number k, c.callers[number]? = some k → k.request.payload?.isSome = true →
    Answers (causes number) k.stage
  later : ∀ number, c.callers.length ≤ number → causes number = []

theorem Answered.acts {causes : Nat → List TransportError} (h : Answered c causes)
    (acts : Acts c a c' effects) :
    Answered c' fun number => causes number ++ c.refusals number a := by
  have old {number : Nat} {k k' : Caller} (hk : c.callers[number]? = some k)
      (hk' : c'.callers[number]? = some k') (sends : k'.request.payload?.isSome = true) :
      Answers (causes number ++ c.refusals number a) k'.stage := by
    obtain ⟨other, same⟩ | ⟨rfl, sh, l, stage, rfl, move⟩ | ⟨rfl, rfl, -, blocked⟩ := acts.caller hk
    · obtain rfl : k = k' := Option.some.inj (same.symm.trans hk')
      simpa [refusals_of_other c other] using h.answers number k hk sends
    · have less := (List.getElem?_eq_some_iff.1 hk).1
      obtain rfl : { k with stage := stage } = k' := by simpa [less] using hk'
      obtain ⟨payload, sends⟩ := Option.isSome_iff_exists.1 sends
      cases move with
      | send out move =>
        obtain rfl := Option.some.inj (sends.symm.trans (payload?_of_outgoing? out))
        have turned := move.answers sends (h.answers number k hk (by simp [sends]))
        simpa [Core.refusals, hk] using turned
      | _ => simp [Request.payload?] at sends
    · obtain rfl : k = k' := Option.some.inj (hk.symm.trans hk')
      simpa [Core.refusals, refusal?_of_blocked blocked] using h.answers number k hk sends
  have length : c.callers.length ≤ c'.callers.length := by
    cases acts with
    | moves move =>
      cases move with
      | call => simp
      | _ => exact Nat.le_refl _
    | request => simp
    | _ => exact Nat.le_refl _
  exact {
    answers := by
      intro number k' hk' sends
      cases hk : c.callers[number]? with
      | some k => exact old hk hk' sends
      | none =>
        obtain ⟨r, rfl, rfl⟩ := acts.newcomer hk hk'
        rw [h.later number (List.getElem?_eq_none_iff.1 hk)]
        rfl
    later := by
      intro number hn
      have none : c.callers[number]? = none := List.getElem?_eq_none (by omega)
      have fresh : c.refusals number a = [] := by
        unfold Core.refusals
        cases a <;> simp [none]
      rw [h.later number (by omega), fresh]
      rfl }

theorem answered_run (id : ConnectionId) (options : Options) (link : Link)
    (registry : Trace.Registry) (clock : Nat) (actions : List Action) :
    let first := spawn id options link registry clock
    Answered (first.run actions).core fun number => refusalsOf number first actions := by
  intro first
  have hc : first.core = ⟨id, options, .start 2, link, .reading, .accepting, [], []⟩ :=
    core_spawn id options link registry clock
  refine run_induction (P := fun actions s =>
    Answered s.core fun number => refusalsOf number first actions) ?_ ?_ actions
  · rw [hc]
    exact ⟨by simp, fun _ _ => rfl⟩
  · intro actions a h
    simpa only [refusalsOf, along_concat] using h.acts (acts (first.run actions) a)

/-- How a session that started as `first` answers those who come when it no longer runs, seen after
some actions. -/
structure RefusesOnceClosing (first : Session) (actions : List Action) : Prop where
  stays : (first.run actions).state ≠ .running →
    ∀ more, (first.run (actions ++ more)).state ≠ .running
  /-- Whoever has asked, but has had no turn before the session left running -/
  waiting : (first.run actions).state ≠ .running → ∀ number r,
    (first.run actions).callers[number]? = some ⟨r, .asked⟩ → r ≠ .awaitClosed →
      (first.run actions).Refuses number r
  /-- Whoever asks after that -/
  late : (first.run actions).state ≠ .running → ∀ more r, r ≠ .awaitClosed →
    (first.run (actions ++ more ++ [.request r])).Refuses
      (first.run (actions ++ more)).callers.length r
  /-- Whoever was let in before and is told of a failure -/
  failed : ∀ number k e, (first.run actions).callers[number]? = some k →
    k.request.payload?.isSome = true → k.reply? = none →
    ((first.run actions).act (.step (.caller number))).callers[number]? =
      some ⟨k.request, .replied (.failed e)⟩ →
    ((first.run actions).state ≠ .running → e = .closed) ∧
      ((first.run actions).state = .running → (e = .closed ↔
        ∃ cause, cause.isCooperative = true ∧ refusalsOf number first actions = [cause]))

theorem CallerMove.failure {id : ConnectionId} {o : Options} {e : SessionError}
    (move : CallerMove id o sh l k sh' l' (.replied (.failed e)) effects)
    (sends : k.request.payload?.isSome = true) (stands : Answers causes k.stage) :
    (sh.state ≠ .running → e = .closed) ∧
      (sh.state = .running → (e = .closed ↔
        ∃ cause, cause.isCooperative = true ∧ causes = [cause])) := by
  obtain ⟨request, before⟩ := k
  cases move with
  | send out move =>
    cases move with
    | refused closing => exact ⟨fun _ => rfl, fun running => absurd running closing⟩
    | @failed e =>
      refine ⟨fun closing => if_neg closing, fun running => ?_⟩
      rw [if_pos running]
      obtain ⟨cause, given, rfl⟩ | ⟨none, other⟩ := stands
      · simp [given, SessionError.ofTransport_eq_closed_iff]
      · simp [none, other]
  | stopLate => simp [Request.payload?] at sends

theorem Answered.told {causes : Nat → List TransportError} {e : SessionError}
    (h : Answered s.core causes) (hk : s.callers[number]? = some k)
    (sends : k.request.payload?.isSome = true) (unanswered : k.reply? = none)
    (told : (s.act (.step (.caller number))).callers[number]? =
      some ⟨k.request, .replied (.failed e)⟩) :
    (s.state ≠ .running → e = .closed) ∧
      (s.state = .running → (e = .closed ↔
        ∃ cause, cause.isCooperative = true ∧ causes number = [cause])) := by
  obtain ⟨other, -⟩ | ⟨-, sh, l, stage, after, move⟩ | ⟨-, same, -, -⟩ :=
    (Session.acts s (.step (.caller number))).caller hk
  · exact absurd rfl other
  · have callers : (s.act (.step (.caller number))).callers =
      s.callers.set number { k with stage := stage } := congrArg Core.callers after
    have less := (List.getElem?_eq_some_iff.1 hk).1
    obtain rfl : stage = .replied (.failed e) := by simpa [callers, less] using told
    exact move.failure sends (h.answers number k hk sends)
  · have callers : (s.act (.step (.caller number))).callers = s.callers :=
      congrArg Core.callers same
    rw [callers, hk] at told
    rw [Option.some.inj told] at unanswered
    simp [Caller.reply?] at unanswered

/-- Once a session has left running it does not run again, and whoever comes after that is told so
and nothing else; a send that was let in before is told `closed` by a session that still runs only
where the transport ended in agreement. -/
theorem refuses_once_closing (id : ConnectionId) (options : Options) (link : Link)
    (registry : Trace.Registry) (clock : Nat) (actions : List Action) :
    RefusesOnceClosing (spawn id options link registry clock) actions := by
  have answered := answered_run id options link registry clock actions
  exact {
    stays := by
      intro closing more
      rw [run_append]
      exact closing_stays closing more
    waiting := fun closing number r asked other => refuses_of_closing closing asked other
    late := by
      intro closing more r other
      rw [run_append, run_append]
      have closing := closing_stays closing more
      exact refuses_of_closing (closing_stays closing [.request r]) (by simp [run, act, ask]) other
    failed := fun number k e hk sends unanswered told => answered.told hk sends unanswered told }

end Session

end MessageTunnel
