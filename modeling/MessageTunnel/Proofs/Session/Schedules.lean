import MessageTunnel.Proofs.Session.Diagnostics
import MessageTunnel.Proofs.Session.Directions
import MessageTunnel.Proofs.Session.Settling
/-!
A script played in every possible order. Between two steps of a script the tasks of the session may
take their turns until all is quiet, in whatever order they are scheduled; the same script gives the
same results in all of them. This holds as long as no error is put in the way of one loop only.
-/
set_option autoImplicit false

namespace MessageTunnel.Session

variable {s s' : Session} {a : Action} {t : Task} {k : Caller} {number : Nat}

/-! A core decides what becomes of it -/

theorem canStep_iff : s.canStep t = true ↔ ¬ Blocked s.core t := by
  refine ⟨fun able => ?_, canStep_of_not_blocked⟩
  obtain ⟨s', step⟩ := Option.isSome_iff_exists.1 able
  obtain ⟨effects, move, -⟩ := exists_move step
  exact move.not_blocked

theorem visible_news_of_stuck (stuck : s.canStep t = false) : visible (s.news (.step t)) = [] := by
  simp [news, act_of_stuck stuck]

theorem act_of_core (same : s.core = s'.core) (a : Action) :
    (s.act a).core = (s'.act a).core ∧ visible (s.news a) = visible (s'.news a) := by
  have able (t : Task) : s.canStep t = s'.canStep t := by
    rw [Bool.eq_iff_iff, canStep_iff, canStep_iff, same]
  by_cases stuck : ∃ t, a = .step t ∧ s.canStep t = false
  · obtain ⟨t, rfl, stuck⟩ := stuck
    rw [visible_news_of_stuck stuck, visible_news_of_stuck (able t ▸ stuck), act_of_stuck stuck,
      act_of_stuck (able t ▸ stuck)]
    exact ⟨same, rfl⟩
  · have goes₁ := goes s a fun t step => by
      simpa using fun stuck' => stuck ⟨t, step, stuck'⟩
    have goes₂ := goes s' a fun t step => by
      simpa [← able] using fun stuck' => stuck ⟨t, step, stuck'⟩
    rw [← same] at goes₂
    exact goes₁.unique goes₂

/-- Two runs after which the core is the same and the same has come in. -/
structure Alongside (first : Session) (actions actions' : List Action) : Prop where
  core : (first.run actions).core = (first.run actions').core
  datagrams : messagesOf .reader first actions = messagesOf .reader first actions'
  accepted : acceptedIn first actions = acceptedIn first actions'

theorem Alongside.append {first : Session} {actions actions' : List Action}
    (h : Alongside first actions actions') (more : List Action) :
    Alongside first (actions ++ more) (actions' ++ more) := by
  induction more using List.reverseRecOn with
  | nil => simpa using h
  | append_singleton more a ih =>
    obtain ⟨core, news⟩ := act_of_core ih.core a
    rw [← List.append_assoc, ← List.append_assoc]
    have messages := seenOf_concat (fun _ => message?_of_isDiagnostic) first .reader
    constructor
    · rw [run_concat, run_concat, core]
    · rw [messagesOf, messagesOf, messages, messages, news]
      exact congrArg (· ++ _) ih.datagrams
    · rw [acceptedIn, acceptedIn, along_concat, along_concat, ih.core]
      exact congrArg (· ++ _) ih.accepted

/-! Requests that are carried out at once -/

def Core.IsHeld (c : Core) (number : Nat) : Prop :=
  ∃ k e, c.callers[number]? = some k ∧ k.stage = .sending (.held e) ∧ c.link.closed = none

/-- A caller that nothing holds comes nearer to its answer with every turn. -/
theorem caller_turn (fit : ∀ k ∈ s.callers, k.isFit = true) (caller : s.callers[number]? = some k)
    (asks : k.request ≠ .awaitClosed) (free : ¬ s.core.IsHeld number) :
    ∃ stage, (s.act (.step (.caller number))).callers =
        s.callers.set number { k with stage := stage } ∧
      stage.work ≤ k.stage.work - 1 := by
  obtain ⟨other, -⟩ | ⟨-, sh, l, stage, same, move⟩ | ⟨-, same, -, blocked⟩ :=
    (acts s (.step (.caller number))).caller caller
  · exact absurd rfl other
  · exact ⟨stage, (congrArg Core.callers same :), Nat.le_sub_one_of_lt move.work_lt⟩
  · have mem := List.mem_of_getElem? caller
    have stays : s.callers.set number k = s.callers := by
      obtain ⟨less, rfl⟩ := List.getElem?_eq_some_iff.1 caller
      exact List.set_getElem_self less
    refine ⟨k.stage, (congrArg Core.callers same :).trans stays.symm, ?_⟩
    have caller : s.core.callers[number]? = some k := caller
    cases blocked with
    | noCaller none => simp [caller] at none
    | answered caller' stage =>
      obtain rfl := Option.some.inj (caller.symm.trans caller')
      simp [stage, Stage.work]
    | held caller' stage opened => exact absurd ⟨_, _, caller', stage, opened⟩ free
    | untold caller' =>
      obtain rfl := Option.some.inj (caller.symm.trans caller')
      exact absurd rfl asks
    | misplaced caller' misplaced =>
      obtain rfl := Option.some.inj (caller.symm.trans caller')
      have fits := fit k mem
      obtain ⟨request, stage⟩ := k
      cases request <;> cases stage <;> simp_all [Caller.isMisplaced, Caller.isFit]

theorem answered_of_work {c : Core} {callers : List Caller} (answered : c.isAnswered = true)
    (grown : callers = c.callers ++ [k]) (done : k.stage.work = 0) :
    callers.all (fun k => k.reply?.isSome) = true := by
  rw [grown, List.all_append, show c.callers.all _ = true from answered]
  obtain ⟨request, stage⟩ := k
  cases stage <;> simp [Stage.work, Caller.reply?] at done ⊢

theorem isAnswered_request (id : ConnectionId) (options : Options) (limit : Option Nat)
    (registry : Trace.Registry) (clock : Nat) {actions : List Action} {r : Request}
    (fair : ∀ a ∈ actions ++ [.request r], a.isFair = true)
    (newest : ((spawn id options (.new limit) registry clock).run actions).callers.length =
      number)
    (turns : Nat) : ∃ k,
      ((spawn id options (.new limit) registry clock).run
        ((actions ++ [.request r]) ++ List.replicate turns (.step (.caller number)))).callers =
          ((spawn id options (.new limit) registry clock).run actions).callers ++ [k] ∧
        k.stage.work ≤ 5 - turns := by
  induction turns with
  | zero => exact ⟨⟨r, .asked⟩, by simp [run_concat, act, ask], Nat.le_refl _⟩
  | succ turns ih =>
    obtain ⟨k, callers, work⟩ := ih
    have fairly := isFair_turns fair (List.replicate turns (.caller number))
    rw [List.map_replicate] at fairly
    have isFair := isFair_run id options limit registry clock fairly
    have fit := fit_run (congrArg Core.callers (core_spawn id options (.new limit) registry clock))
      ((actions ++ [.request r]) ++ List.replicate turns (.step (.caller number)))
    generalize spawn id options (.new limit) registry clock = first at *
    have caller : (first.run ((actions ++ [.request r]) ++
        List.replicate turns (.step (.caller number)))).callers[number]? = some k := by
      rw [callers, ← newest]
      simp
    have free : ¬ (first.run ((actions ++ [.request r]) ++
        List.replicate turns (.step (.caller number)))).core.IsHeld number := by
      rintro ⟨k', e, caller', held, -⟩
      exact (isFair.asks k' (List.mem_of_getElem? caller')).2 e held
    have asks := (isFair.asks k (List.mem_of_getElem? caller)).1
    obtain ⟨stage, set, less⟩ := caller_turn fit caller asks free
    have less : stage.work ≤ 5 - (turns + 1) := by omega
    refine ⟨{ k with stage := stage }, ?_, less⟩
    rw [List.replicate_succ', ← List.append_assoc, run_concat, set, callers, ← newest]
    simp

theorem Acts.drains_caller {c c' : Core} {effects : List Effect}
    (h : Acts c (.step (.caller number)) c' effects) : c'.drains = c.drains := by
  cases h with
  | moves move =>
    cases move
    rfl
  | waits => rfl

theorem drains_callers (s : Session) (number turns : Nat) :
    (s.run (List.replicate turns (.step (.caller number)))).drains = s.drains := by
  induction turns generalizing s with
  | zero => rfl
  | succ turns ih => exact (ih _).trans (acts s (.step (.caller number))).drains_caller

/-! Plays of a script -/

namespace Script

/-- What a step does at once, before any task of the session takes a turn. -/
def Step.actions (s : Session) : Step → List Action
  | .request r => .request r :: List.replicate 8 (.step (.caller s.callers.length))
  | .later r => [.request r]
  | .event e => [.event e]
  | .describe | .dropHandle | .idle => []

/-- A step that holds nobody up and lets both loops meet the same end. -/
def Step.isFair : Step → Bool
  | .request r => Action.isFair (.request r)
  | .event e => Action.isFair (.event e)
  | .describe | .idle => true
  | .later _ | .dropHandle => false

/-- The actions of each step of a script, as one of all possible schedules has them: a step that
lets the tasks go on has them take turns, in any order, until all is quiet. -/
inductive Plays : Session → List (Step × Bool) → List (List Action) → Prop where
  | done {s : Session} : Plays s [] []
  | step {s : Session} {step : Step} {script : List (Step × Bool)} {blocks : List (List Action)}
      (rest : Plays (s.run (step.actions s)) script blocks) :
      Plays s ((step, false) :: script) (step.actions s :: blocks)
  | settle {s : Session} {step : Step} {script : List (Step × Bool)}
      {blocks : List (List Action)} (turns : List Task)
      (quiet : ((s.run (step.actions s)).alone turns).isQuiet = true)
      (rest : Plays ((s.run (step.actions s)).alone turns) script blocks) :
      Plays s ((step, true) :: script) ((step.actions s ++ turns.map .step) :: blocks)

theorem Step.actions_of_core {s s' : Session} (same : s.core = s'.core) (step : Step) :
    step.actions s = step.actions s' := by
  have callers : s.callers = s'.callers := (congrArg Core.callers same :)
  cases step <;> simp only [Step.actions, callers]

theorem exists_plays (s : Session) (script : List (Step × Bool)) :
    ∃ blocks, Plays s script blocks := by
  induction script generalizing s with
  | nil => exact ⟨[], .done⟩
  | cons entry script ih =>
    obtain ⟨step, settle⟩ := entry
    cases settle with
    | false =>
      obtain ⟨blocks, rest⟩ := ih (s.run (step.actions s))
      exact ⟨_, .step rest⟩
    | true =>
      obtain ⟨turns, quiet⟩ := exists_rest (s.run (step.actions s))
      obtain ⟨blocks, rest⟩ := ih ((s.run (step.actions s)).alone turns)
      exact ⟨_, .settle turns quiet rest⟩

/-! The schedule of a play is one of these -/

theorem alone_eq_run (s : Session) (t : Task) :
    Schedule.alone s t = s.run (List.replicate 8 (.step t)) := by
  -- The induction is on the turns, from whatever session they start.
  have turns (rounds : List Nat) (s : Session) :
      rounds.foldl (fun s _ => s.act (.step t)) s =
        s.run (List.replicate rounds.length (.step t)) := by
    induction rounds generalizing s with
    | nil => rfl
    | cons n rest ih => exact ih (s.act (.step t))
  rw [Schedule.alone, turns, List.length_range]

theorem session_ask (s : Schedule) (r : Request) : (s.ask r).session = s.session.run
    (.request r :: List.replicate 8 (.step (.caller s.session.callers.length))) := by
  have asked : s.session.act (.request r) = s.session.ask r := rfl
  rw [run_cons, asked, Schedule.ask, Schedule.lineUp, alone_eq_run]

theorem session_act (s : Schedule) (a : Action) : (s.act a).session = s.session.act a := rfl

theorem exists_turns (n : Nat) (p : Schedule) :
    ∃ turns, (Schedule.turns n p).session = p.session.alone turns := by
  induction n generalizing p with
  | zero => exact ⟨[], rfl⟩
  | succ n ih =>
    cases next : p.turn? with
    | none => exact ⟨[], by simp [Schedule.turns, next, Session.alone, run]⟩
    | some p' =>
      obtain ⟨turns, later⟩ := ih p'
      have unrolled : Schedule.turns (n + 1) p = Schedule.turns n p' := by
        simp [Schedule.turns, next]
      rw [unrolled, later]
      unfold Schedule.turn? at next
      split at next
      · simp at next
      · rename_i t rest _
        split at next
        · rename_i s' step
          obtain rfl := Option.some.inj next
          exact ⟨t :: turns, by simp [Session.alone, run, act, step]⟩
        · obtain rfl := Option.some.inj next
          exact ⟨turns, rfl⟩

theorem Play.exists_turns_settleIf (settle : Bool) (p : Play) : ∃ turns,
    (settle = false → turns = []) ∧ (Play.settleIf settle p).session = p.session.alone turns := by
  cases settle with
  | false => exact ⟨[], fun _ => rfl, rfl⟩
  | true =>
    obtain ⟨turns, session⟩ := exists_turns _ p.schedule
    exact ⟨turns, by simp, session⟩

theorem Play.answered_snd (number : Nat) (p : Play) : (Play.answered number p).2 = p := by
  unfold Play.answered
  split <;> rfl

/-- A play of a script with its queue of tasks has each step do what it does at once, and then some
turns of tasks. -/
theorem Play.step_session {p : Play} (handle : p.hasHandle = true) {step : Step}
    (fair : step.isFair = true) (settle : Bool) : ∃ turns, (settle = false → turns = []) ∧
      (p.step step settle).2.session = (p.session.run (step.actions p.session)).alone turns := by
  obtain ⟨schedule, hasHandle, later⟩ := p
  obtain rfl : hasHandle = true := handle
  have settled (next : Schedule)
      (same : next.session = schedule.session.run (step.actions schedule.session)) :
      ∃ turns, (settle = false → turns = []) ∧
        (Play.settleIf settle ⟨next, true, later⟩).session =
          (schedule.session.run (step.actions schedule.session)).alone turns := by
    rw [← same]
    exact Play.exists_turns_settleIf settle ⟨next, true, later⟩
  cases step with
  | request r =>
    obtain ⟨turns, none, session⟩ := settled (schedule.ask r) (session_ask schedule r)
    refine ⟨turns, none, Eq.trans ?_ session⟩
    exact congrArg Play.session (Play.answered_snd schedule.session.callers.length _)
  | event e => exact settled (schedule.act (.event e)) (session_act schedule (.event e))
  | describe | idle => exact settled schedule rfl
  | later | dropHandle => simp [Step.isFair] at fair

end Script

open Script (Step Plays)

/-- Between two steps of a script every caller has its answer and every drain is over. -/
structure Poised (first : Session) (actions : List Action) : Prop where
  fair : ∀ a ∈ actions, a.isFair = true
  answered : (first.run actions).core.isAnswered = true
  drained : ∀ d ∈ (first.run actions).core.drains, d.isEnded = true

section
variable {first : Session} {id : ConnectionId} {options : Options} {limit : Option Nat}
  {registry : Trace.Registry} {clock : Nat} {actions actions' : List Action}

theorem Poised.step (h : Poised first actions)
    (spawned : first = spawn id options (.new limit) registry clock) {step : Step}
    (fair : step.isFair = true) : Poised first (actions ++ step.actions (first.run actions)) := by
  obtain ⟨fairly, answered, drained⟩ := h
  have also_ {a : Action} (fair : a.isFair = true) : ∀ b ∈ actions ++ [a], b.isFair = true := by
    intro b mem
    obtain mem | mem := List.mem_append.1 mem
    · exact fairly b mem
    · exact List.mem_singleton.1 mem ▸ fair
  cases step with
  | request r =>
    rw [Step.actions, List.append_cons]
    constructor
    · have all := isFair_turns (also_ fair)
        (List.replicate 8 (.caller (first.run actions).callers.length))
      rwa [List.map_replicate] at all
    · subst spawned
      obtain ⟨k, callers, work⟩ :=
        isAnswered_request id options limit registry clock (also_ fair) rfl 8
      exact answered_of_work answered callers (by omega)
    · rw [run_append, run_concat]
      intro d mem
      have mem : d ∈ (Session.run _ _).drains := mem
      rw [drains_callers] at mem
      exact drained d mem
  | event e =>
    rw [Step.actions]
    refine ⟨also_ fair, ?_, ?_⟩
    · rw [run_concat]
      exact answered
    · rw [run_concat]
      exact drained
  | describe | idle => simpa [Step.actions] using Poised.mk fairly answered drained
  | later | dropHandle => simp [Step.isFair] at fair

theorem Poised.settle (h : Poised first actions)
    (spawned : first = spawn id options (.new limit) registry clock) {turns : List Task}
    (quiet : (first.run (actions ++ turns.map .step)).isQuiet = true) :
    Poised first (actions ++ turns.map .step) := by
  subst spawned
  have core := (settles id options limit registry clock h.fair h.answered quiet).core
  refine ⟨isFair_turns h.fair turns, ?_, ?_⟩
  · rw [core, Core.isAnswered, callers_settled]
    exact h.answered
  · rw [core]
    exact isEnded_settled _

theorem Alongside.settle (h : Alongside first actions actions') (poised : Poised first actions)
    (poised' : Poised first actions')
    (spawned : first = spawn id options (.new limit) registry clock) {turns turns' : List Task}
    (quiet : (first.run (actions ++ turns.map .step)).isQuiet = true)
    (quiet' : (first.run (actions' ++ turns'.map .step)).isQuiet = true) :
    Alongside first (actions ++ turns.map .step) (actions' ++ turns'.map .step) := by
  subst spawned
  have ends := settles id options limit registry clock poised.fair poised.answered quiet
  have ends' := settles id options limit registry clock poised'.fair poised'.answered quiet'
  constructor
  · rw [ends.core, ends'.core, h.core]
  · have handed := ends.datagrams
    rw [h.datagrams, h.core, ← ends'.datagrams] at handed
    exact (List.map_inj_right fun _ _ => Except.ok.inj).1 handed
  · rw [ends.accepted, ends'.accepted, h.accepted, h.core]

theorem Alongside.plays (spawned : first = spawn id options (.new limit) registry clock)
    {script : List (Step × Bool)} (fair : ∀ entry ∈ script, entry.1.isFair = true)
    {blocks blocks' : List (List Action)} (h : Alongside first actions actions')
    (poised : Poised first actions) (poised' : Poised first actions')
    (plays : Plays (first.run actions) script blocks)
    (plays' : Plays (first.run actions') script blocks') (n : Nat) :
    Alongside first (actions ++ (blocks.take n).flatten) (actions' ++ (blocks'.take n).flatten) ∧
      Poised first (actions ++ (blocks.take n).flatten) ∧
      Poised first (actions' ++ (blocks'.take n).flatten) := by
  induction script generalizing actions actions' blocks blocks' n with
  | nil =>
    cases plays
    cases plays'
    simpa using ⟨h, poised, poised'⟩
  | cons entry script ih =>
    obtain ⟨step, settle⟩ := entry
    have fairly := fair (step, settle) (by simp)
    have later : ∀ entry ∈ script, entry.1.isFair = true :=
      fun entry mem => fair entry (by simp [mem])
    cases n with
    | zero => simpa using ⟨h, poised, poised'⟩
    | succ n =>
      have at_once := h.append (step.actions (first.run actions))
      have before := poised.step spawned fairly
      have before' := poised'.step spawned fairly
      have same := step.actions_of_core h.core
      cases plays with
      | step rest =>
        cases plays' with
        | step rest' =>
          rw [← run_append] at rest rest'
          rw [← same] at before' rest' ⊢
          simpa using ih later at_once before before' rest rest' n
      | settle turns quiet rest =>
        cases plays' with
        | settle turns' quiet' rest' =>
          rw [alone, ← run_append, ← run_append, ← List.append_assoc] at quiet quiet' rest rest'
          rw [← same] at before' quiet' rest' ⊢
          have settled := at_once.settle before before' spawned quiet quiet'
          simpa using ih later settled (before.settle spawned quiet) (before'.settle spawned quiet')
            rest rest' n

theorem isPrompt_plain (s : Session) {actions : List Action}
    (plain : ∀ a ∈ actions, a.isErrand = false) (rest : List Action) :
    s.isPrompt (actions ++ rest) = (s.run actions).isPrompt rest := by
  induction actions generalizing s with
  | nil => rfl
  | cons a actions ih =>
    have later := ih (s.act a) fun b mem => plain b (List.mem_cons_of_mem a mem)
    simpa [isPrompt, run_cons, plain a (by simp)] using later

theorem Step.isPrompt_actions {s : Session} (answered : s.core.isAnswered = true) (step : Step)
    (rest : List Action) :
    s.isPrompt (step.actions s ++ rest) = (s.run (step.actions s)).isPrompt rest := by
  have errand (a : Action) (rest : List Action) :
      s.isPrompt (a :: rest) = (s.act a).isPrompt rest := by
    simp [isPrompt, answered]
  cases step with
  | request r =>
    rw [Step.actions, List.cons_append, errand, run_cons, isPrompt_plain]
    intro a mem
    obtain ⟨-, rfl⟩ := List.mem_replicate.1 mem
    rfl
  | later r => exact errand (.request r) rest
  | event e => exact errand (.event e) rest
  | describe | dropHandle | idle => rfl

theorem Poised.isPrompt (spawned : first = spawn id options (.new limit) registry clock)
    {script : List (Step × Bool)} (fair : ∀ entry ∈ script, entry.1.isFair = true)
    {blocks : List (List Action)} (poised : Poised first actions)
    (plays : Plays (first.run actions) script blocks) :
    (first.run actions).isPrompt blocks.flatten = true := by
  induction script generalizing actions blocks with
  | nil =>
    cases plays
    exact poised.answered
  | cons entry script ih =>
    obtain ⟨step, settle⟩ := entry
    have fairly := fair (step, settle) (by simp)
    have later : ∀ entry ∈ script, entry.1.isFair = true :=
      fun entry mem => fair entry (by simp [mem])
    have before := poised.step spawned fairly
    cases plays with
    | step rest =>
      rw [List.flatten_cons, Step.isPrompt_actions poised.answered, ← run_append]
      rw [← run_append] at rest
      exact ih later before rest
    | settle turns quiet rest =>
      rw [alone, ← run_append, ← run_append, ← List.append_assoc] at quiet rest
      rw [List.flatten_cons, List.append_assoc, Step.isPrompt_actions poised.answered,
        isPrompt_plain, ← run_append, ← run_append, ← List.append_assoc]
      · exact ih later (before.settle spawned quiet) rest
      · intro a mem
        obtain ⟨t, -, rfl⟩ := List.mem_map.1 mem
        rfl

theorem Poised.spent (h : Poised first actions)
    (spawned : first = spawn id options (.new limit) registry clock) (number : Nat)
    (stream : InboundStream) (d : Drain) (hs : (acceptedIn first actions)[number]? = some stream)
    (hd : (first.run actions).drains[number]? = some d) : IsSpent stream d := by
  refine .inl ⟨h.drained d (List.mem_of_getElem? hd), ?_⟩
  subst spawned
  obtain ⟨rest, injected, -⟩ :=
    (delivered_run id options (.new limit) registry clock actions).intake
  have mem : stream ∈ injectedStreams (spawn id options (.new limit) registry clock) actions := by
    rw [injected]
    exact List.mem_append_left _ (List.mem_of_getElem? hs)
  rw [injectedStreams, show (spawn id options (.new limit) registry clock).link = .new limit from
    congrArg Core.link (core_spawn id options (.new limit) registry clock)] at mem
  obtain ⟨a, mem, came⟩ : ∃ a ∈ actions, a.stream? = some stream := by
    simpa [Link.new] using mem
  have fair := h.fair a mem
  unfold Action.stream? at came
  split at came
  · obtain rfl := Option.some.inj came
    simpa [Action.isFair] using fair
  · simp at came

end

/-! Independence of the schedule -/

/-- What two plays of a script have in common. -/
structure Agrees (first : Session) (actions actions' : List Action) : Prop where
  datagrams : messagesOf .reader first actions = messagesOf .reader first actions'
  messages : (streamMessages first actions).Perm (streamMessages first actions')
  discards : (streamDiscards first actions).Perm (streamDiscards first actions')
  answered : ∀ k ∈ (first.run actions).callers, k.reply?.isSome = true
  callers : (first.run actions).callers = (first.run actions').callers
  calls : (first.run actions).link.calls = (first.run actions').link.calls
  state : (first.run actions).state = (first.run actions').state
  reason : (first.run actions).shutdown.reason = (first.run actions').shutdown.reason
  told : (first.run actions).history.filterMap Effect.closeReason? =
    (first.run actions').history.filterMap Effect.closeReason?

/-- Whatever the order in which the tasks of a session take their turns, at each step of a script
the session has done the same. -/
theorem schedule_independent (id : ConnectionId) (options : Options) (limit : Option Nat)
    (registry : Trace.Registry) (clock : Nat) (script : List (Step × Bool))
    (blocks blocks' : List (List Action))
    (fair : script.all (fun entry => entry.1.isFair) = true)
    (plays : Plays (spawn id options (.new limit) registry clock) script blocks)
    (plays' : Plays (spawn id options (.new limit) registry clock) script blocks') (n : Nat) :
    Agrees (spawn id options (.new limit) registry clock) (blocks.take n).flatten
      (blocks'.take n).flatten := by
  have start : Poised (spawn id options (.new limit) registry clock) [] := by
    constructor <;> simp [run, core_spawn, Core.isAnswered]
  obtain ⟨alongside, poised, poised'⟩ := Alongside.plays rfl (List.all_eq_true.1 fair)
    ⟨rfl, rfl, rfl⟩ start start plays plays' n
  simp only [List.nil_append] at alongside poised poised'
  obtain ⟨messages, discards⟩ := arrived id options (.new limit) registry clock _ (poised.spent rfl)
  obtain ⟨messages', discards'⟩ :=
    arrived id options (.new limit) registry clock _ (poised'.spent rfl)
  have closing := closing_run id options (.new limit) registry clock (blocks.take n).flatten
  have closing' := closing_run id options (.new limit) registry clock (blocks'.take n).flatten
  generalize spawn id options (.new limit) registry clock = first at *
  have core := alongside.core
  exact {
    datagrams := alongside.datagrams
    messages := messages.trans (alongside.accepted ▸ messages'.symm)
    discards := discards.trans (alongside.accepted ▸ discards'.symm)
    answered := List.all_eq_true.1 poised.answered
    callers := congrArg Core.callers core
    calls := congrArg (·.link.calls) core
    state := congrArg (·.shutdown.state) core
    reason := congrArg (·.shutdown.reason) core
    told := by
      have known := closing.closure.known
      rw [core, ← closing'.closure.known] at known
      rw [filterMap_closeReason?, known, ← filterMap_closeReason?] }

def trafficAndLoss : List (Step × Bool) :=
  [(.request (.send [9]), false), (.event (.datagram (.ok [1])), false),
    (.event (.stream ⟨[.ok [2]], false⟩), false),
    (.event (.stream ⟨[.ok [3], .error (.streamReset 7)], false⟩), true),
    (.event (.datagram (.ok [4])), false), (.event (.broken (.fault "read" "lost")), true)]

def trafficAndLossWith (first : Session) (turns : List Task) : List (List Action) :=
  [Step.actions first (.request (.send [9])), [.event (.datagram (.ok [1]))],
    [.event (.stream ⟨[.ok [2]], false⟩)],
    [.event (.stream ⟨[.ok [3], .error (.streamReset 7)], false⟩)] ++ turns.map .step,
    [.event (.datagram (.ok [4]))],
    [.event (.broken (.fault "read" "lost"))] ++ turns.map .step]

def readerFirst : List Task :=
  (List.replicate 12 [Task.reader, .acceptor, .drain 0, .drain 1]).flatten

def drainsFirst : List Task :=
  (List.replicate 12 [Task.drain 1, .drain 0, .acceptor, .reader]).flatten

theorem schedule_independent_trafficAndLoss :
    let first := spawn (.ofNumber 2) .server (.new (some 9)) untraced 0
    let blocks := trafficAndLossWith first readerFirst
    let blocks' := trafficAndLossWith first drainsFirst
    trafficAndLoss.all (fun entry => entry.1.isFair) = true ∧
      Plays first trafficAndLoss blocks ∧ Plays first trafficAndLoss blocks' ∧
      Agrees first blocks.flatten blocks'.flatten ∧
      messagesOf .reader first blocks.flatten = [[1]] ∧
      streamMessages first blocks.flatten = [[2]] ∧
      streamDiscards first blocks.flatten = [(1, .streamReset 7)] ∧
      (first.run blocks.flatten).shutdown.reason = some (.fault "read: lost") := by
  intro first blocks blocks'
  have fair : trafficAndLoss.all (fun entry => entry.1.isFair) = true := by decide +kernel
  have plays : Plays first trafficAndLoss blocks :=
    .step (.step (.step (.settle readerFirst (by decide +kernel)
      (.step (.settle readerFirst (by decide +kernel) .done)))))
  have plays' : Plays first trafficAndLoss blocks' :=
    .step (.step (.step (.settle drainsFirst (by decide +kernel)
      (.step (.settle drainsFirst (by decide +kernel) .done)))))
  have agrees : Agrees first (blocks.take 6).flatten (blocks'.take 6).flatten :=
    schedule_independent (.ofNumber 2) .server (some 9) untraced 0 trafficAndLoss blocks blocks'
      fair plays plays' 6
  exact ⟨fair, plays, plays', agrees, by decide +kernel, by decide +kernel, by decide +kernel,
    by decide +kernel⟩

end MessageTunnel.Session
