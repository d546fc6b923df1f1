import MessageTunnel.Proofs.Session.Refusal
import MessageTunnel.Proofs.Session.Schedules
set_option autoImplicit false

namespace MessageTunnel.Session

variable {s first : Session} {k : Caller} {r : Request} {number : Nat} {actions : List Action}

/-- Where a caller stands that has asked for something before these actions. -/
structure Stands (s : Session) (number : Nat) (r : Request) (later : List Action) (stage : Stage) :
    Prop where
  caller : (s.run later).callers[number]? = some ⟨r, stage⟩
  nearer : stage.work ≤ 5 - turnsOf (.caller number) later ∨
    ∃ moment, moment <+: later ∧ (s.run moment).core.IsHeld number

theorem callers_ask (s : Session) (r : Request) :
    (s.ask r).callers[s.callers.length]? = some ⟨r, .asked⟩ := by
  simp [ask]

theorem exists_stands (fit : ∀ later, ∀ k ∈ (s.run later).callers, k.isFit = true)
    (asked : s.callers[number]? = some ⟨r, .asked⟩) (other : r ≠ .awaitClosed)
    (later : List Action) : ∃ stage, s.Stands number r later stage := by
  induction later using List.reverseRecOn with
  | nil => exact ⟨.asked, asked, .inl (Nat.le_refl _)⟩
  | append_singleton later a ih =>
    obtain ⟨stage, caller, nearer⟩ := ih
    have before {moment : List Action} (early : moment <+: later) : moment <+: later ++ [a] :=
      early.trans (List.prefix_append ..)
    by_cases own : a = .step (.caller number)
    · subst own
      by_cases held : (s.run later).core.IsHeld number
      · have now : ∃ moment, moment <+: later ++ [.step (.caller number)] ∧
            (s.run moment).core.IsHeld number := ⟨later, List.prefix_append .., held⟩
        obtain ⟨elsewhere, -⟩ | ⟨-, sh, l, stage', moved, -⟩ | ⟨-, same, -⟩ :=
          (acts (s.run later) (.step (.caller number))).caller caller
        · exact absurd rfl elsewhere
        · have callers := congrArg Core.callers moved
          have inside := (List.getElem?_eq_some_iff.1 caller).1
          refine ⟨stage', ?_, .inr now⟩
          rw [run_concat]
          have there : (s.run later).core.callers = (s.run later).callers := rfl
          exact (congrArg (·[number]?) callers).trans (by simp [there, inside])
        · refine ⟨stage, ?_, .inr now⟩
          rw [run_concat]
          exact (congrArg (·[number]?) (congrArg Core.callers same)).trans caller
      · obtain ⟨stage', set, less⟩ := caller_turn (fit later) caller other held
        have inside := (List.getElem?_eq_some_iff.1 caller).1
        refine ⟨stage', by rw [run_concat, set]; simp [inside], ?_⟩
        rw [turnsOf_concat, turnsOf_self]
        obtain near | ⟨moment, early, held⟩ := nearer
        · exact .inl (by dsimp only at less; omega)
        · exact .inr ⟨moment, before early, held⟩
    · obtain ⟨-, same⟩ | ⟨is, -⟩ | ⟨is, -⟩ := (acts (s.run later) a).caller caller
      · refine ⟨stage, by rw [run_concat]; exact same, ?_⟩
        rw [turnsOf_concat, turnsOf_other own, Nat.add_zero]
        exact nearer.imp_right fun ⟨moment, early, held⟩ => ⟨moment, before early, held⟩
      · exact absurd is own
      · exact absurd is own

/-- A caller that has had its turns has its answer, unless its write was held. -/
theorem Stands.answered {later : List Action} {stage : Stage} (h : s.Stands number r later stage)
    (turns : 5 ≤ turnsOf (.caller number) later)
    (free : ∀ moment, moment <+: later → ¬ (s.run moment).core.IsHeld number) :
    ∃ reply, stage = .replied reply := by
  obtain near | ⟨moment, early, held⟩ := h.nearer
  · cases stage with
    | replied reply => exact ⟨reply, rfl⟩
    | asked | hangUp | sending =>
      simp only [Stage.work] at near
      omega
  · exact absurd held (free moment early)

theorem act_core_of_isHeld (held : s.core.IsHeld number) :
    (s.act (.step (.caller number))).core = s.core := by
  obtain ⟨k, e, caller, stage, opened⟩ := held
  obtain ⟨elsewhere, -⟩ | ⟨-, sh, l, stage', -, move⟩ | ⟨-, same, -⟩ :=
    (acts s (.step (.caller number))).caller caller
  · exact absurd rfl elsewhere
  · exact absurd opened (move.not_held stage)
  · exact same

def Caller.isStopping (k : Caller) : Prop := k.stage = .hangUp ∨ k.stage = .replied .stopped

theorem CallerMove.closing {id : ConnectionId} {o : Options} {sh sh' : Shutdown} {l l' : Link}
    {stage : Stage} {effects : List Effect} (move : CallerMove id o sh l k sh' l' stage effects)
    (stopping : Caller.isStopping { k with stage := stage }) :
    sh'.state ≠ .running ∨ k.isStopping ∧ sh' = sh := by
  obtain ⟨request, before⟩ := k
  cases move with
  | send out move =>
    cases move <;> simp [Caller.isStopping] at stopping
  | stopFirst => exact .inl (by simp [begun])
  | stopHangUp => exact .inr ⟨.inl rfl, rfl⟩
  | stopLate | told => simp [Caller.isStopping] at stopping

/-- What a caller cannot be at first, and comes to only by a move after which the session no longer
runs, shows that it no longer does. -/
theorem closing_of_callers {P : Caller → Prop} (fresh : first.callers = [])
    (asked : ∀ r, ¬ P ⟨r, .asked⟩)
    (moved : ∀ {id o sh sh' l l' k stage effects}, CallerMove id o sh l k sh' l' stage effects →
      P { k with stage := stage } → sh'.state ≠ .running ∨ P k ∧ sh' = sh) (actions : List Action) :
    ∀ k ∈ (first.run actions).callers, P k → (first.run actions).state ≠ .running := by
  refine run_induction (P := fun _ s => ∀ k ∈ s.callers, P k → s.state ≠ .running) ?_ ?_ actions
  · simp [fresh]
  · intro actions a ih k mem shows
    have acts := acts (first.run actions) a
    obtain ⟨number, caller⟩ := List.getElem?_of_mem mem
    cases old : (first.run actions).callers[number]? with
    | none =>
      obtain ⟨r, -, rfl⟩ := acts.newcomer old caller
      exact absurd shows (asked r)
    | some before =>
      have known := ih before (List.mem_of_getElem? old)
      obtain ⟨-, same⟩ | ⟨-, sh, l, stage, core, move⟩ | ⟨-, same, -⟩ := acts.caller old
      · obtain rfl := Option.some.inj (same.symm.trans caller)
        exact acts.keeps_closing (known shows)
      · have callers : ((first.run actions).act a).callers =
            (first.run actions).callers.set number { before with stage := stage } :=
          congrArg Core.callers core
        have shutdown : ((first.run actions).act a).shutdown = sh := congrArg Core.shutdown core
        have inside := (List.getElem?_eq_some_iff.1 old).1
        obtain rfl : k = { before with stage := stage } := by
          simpa [callers, inside] using caller.symm
        rw [state, shutdown]
        obtain closing | ⟨shows, rfl⟩ := moved move shows
        · exact closing
        · exact known shows
      · have callers : ((first.run actions).act a).callers = (first.run actions).callers :=
          congrArg Core.callers same
        rw [callers, old] at caller
        obtain rfl := Option.some.inj caller
        exact acts.keeps_closing (known shows)

theorem closing_of_isStopping (fresh : first.callers = []) (actions : List Action) :
    ∀ k ∈ (first.run actions).callers, k.isStopping → (first.run actions).state ≠ .running :=
  closing_of_callers fresh (by simp [Caller.isStopping]) CallerMove.closing actions

def Caller.hasTried (k : Caller) : Prop := k.request = .stop ∧ k.stage ≠ .asked

theorem CallerMove.tried {id : ConnectionId} {o : Options} {sh sh' : Shutdown} {l l' : Link}
    {stage : Stage} {effects : List Effect} (move : CallerMove id o sh l k sh' l' stage effects)
    (tried : Caller.hasTried { k with stage := stage }) :
    sh'.state ≠ .running ∨ k.hasTried ∧ sh' = sh := by
  obtain ⟨request, before⟩ := k
  obtain ⟨stop, -⟩ := tried
  cases move with
  | send out =>
    rw [show request = .stop from stop] at out
    simp [Request.outgoing?] at out
  | stopFirst => exact .inl (by simp [begun])
  | stopLate closing => exact .inl closing
  | stopHangUp => exact .inr ⟨⟨rfl, by simp⟩, rfl⟩
  | told => simp at stop

/-- Whether a stop was the first or came too late: the session no longer runs. -/
theorem closing_of_hasTried (fresh : first.callers = []) (actions : List Action) :
    ∀ k ∈ (first.run actions).callers, k.hasTried → (first.run actions).state ≠ .running :=
  closing_of_callers fresh (by simp [Caller.hasTried]) CallerMove.tried actions

theorem exists_stage (s : Session) (a : Action) (caller : s.callers[number]? = some k) :
    ∃ stage, (s.act a).callers[number]? = some { k with stage := stage } := by
  have inside := (List.getElem?_eq_some_iff.1 caller).1
  obtain ⟨-, same⟩ | ⟨-, sh, l, stage, moved, -⟩ | ⟨-, same, -⟩ := (acts s a).caller caller
  · exact ⟨k.stage, same⟩
  · refine ⟨stage, ?_⟩
    have callers : (s.act a).callers = s.callers.set number { k with stage := stage } :=
      congrArg Core.callers moved
    simp [callers, inside]
  · exact ⟨k.stage, (congrArg (·[number]?) (congrArg Core.callers same)).trans caller⟩

theorem reply_cases {reply : Reply} (fit : Caller.isFit ⟨r, .replied reply⟩ = true)
    (other : r ≠ .awaitClosed) :
    (∃ channel, reply = .sent channel) ∨ reply = .stopped ∨ ∃ e, reply = .failed e := by
  cases reply with
  | sent channel => exact .inl ⟨channel, rfl⟩
  | stopped => exact .inr (.inl rfl)
  | failed e => exact .inr (.inr ⟨e, rfl⟩)
  | closed reason => cases r <;> simp [Caller.isFit] at fit other

end MessageTunnel.Session
