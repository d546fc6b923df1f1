import MessageTunnel.Proofs.Session.Run
/-!
A step of a session is determined by its core: whether the task can go on, what becomes of the core,
and what is made visible. A move leaves one thing open, the error that an acceptor meets where two
would do; a step takes that of the acceptor first.
-/
set_option autoImplicit false

namespace MessageTunnel.Session

variable {id : ConnectionId} {loop : Log.InboundLoop} {sh sh₁ sh₂ : Shutdown} {l l₁ l₂ : Link}
  {c c' c₁ c₂ : Core} {t : Task} {s s' : Session} {effects effects₁ effects₂ : List Effect}

theorem EndMove.unique {stage stage₁ stage₂ : Ending}
    (h₁ : EndMove id loop sh l stage sh₁ l₁ stage₁ effects₁)
    (h₂ : EndMove id loop sh l stage sh₂ l₂ stage₂ effects₂) :
    sh₁ = sh₂ ∧ l₁ = l₂ ∧ stage₁ = stage₂ ∧ effects₁ = effects₂ := by
  cases h₁ <;> cases h₂ <;> simp_all

theorem DrainMove.unique {d d₁ d₂ : Drain} (h₁ : DrainMove l d d₁ effects₁)
    (h₂ : DrainMove l d d₂ effects₂) : d₁ = d₂ ∧ effects₁ = effects₂ := by
  cases h₁ <;> cases h₂ <;> simp_all

theorem SendMove.unique {payload : Payload} {channel : Channel} {stage stage₁ stage₂ : Stage}
    (h₁ : SendMove payload channel sh l stage l₁ stage₁ effects₁)
    (h₂ : SendMove payload channel sh l stage l₂ stage₂ effects₂) :
    l₁ = l₂ ∧ stage₁ = stage₂ ∧ effects₁ = effects₂ := by
  cases h₁ <;> cases h₂ <;> simp_all

theorem CallerMove.unique {o : Options} {k : Caller} {stage₁ stage₂ : Stage}
    (h₁ : CallerMove id o sh l k sh₁ l₁ stage₁ effects₁)
    (h₂ : CallerMove id o sh l k sh₂ l₂ stage₂ effects₂) :
    sh₁ = sh₂ ∧ l₁ = l₂ ∧ stage₁ = stage₂ ∧ effects₁ = effects₂ := by
  cases h₁ with
  | send out₁ move₁ =>
    cases h₂ with
    | send out₂ move₂ =>
      obtain ⟨rfl, rfl⟩ := Prod.mk.inj (Option.some.inj (out₁.symm.trans out₂))
      exact ⟨rfl, move₁.unique move₂⟩
    | _ => simp [Request.outgoing?] at out₁
  | _ =>
    cases h₂ with
    | send out => simp [Request.outgoing?] at out
    | _ => simp_all

/-- The move that a step is, with the error that an acceptor meets. -/
structure Steps (c : Core) (t : Task) (c' : Core) (effects : List Effect) : Prop where
  move : Move c t c' effects
  meets : ∀ e, c.acceptor = .accepting → c'.acceptor = .joining e →
    c.link.acceptFailure.or c.link.closed = some e

theorem exists_steps (h : s.step? t = some s') :
    ∃ effects, Steps s.core t s'.core effects ∧ Adds s s' effects := by
  obtain ⟨effects, move, adds⟩ := exists_move h
  refine ⟨effects, ⟨move, fun e accepting joining => ?_⟩, adds⟩
  have accepting : s.acceptor = .accepting := accepting
  have joining : s'.acceptor = .joining e := joining
  change s.link.acceptFailure.or s.link.closed = some e
  by_cases turn : t = .acceptor
  · subst turn
    simp only [step?, acceptorStep?, accepting, Link.acceptStream] at h
    cases works : s.link.acceptFailure with
    | some e' =>
      simp only [works, Option.some.injEq] at h
      subst h
      rw [← Acceptor.joining.inj joining, Option.some_or]
    | none =>
      cases closed : s.link.closed with
      | some e' =>
        simp only [works, closed, Option.some.injEq] at h
        subst h
        rw [← Acceptor.joining.inj joining, Option.none_or]
      | none =>
        cases queue : s.link.streams with
        | nil => simp [works, closed, queue] at h
        | cons stream rest =>
          simp only [works, closed, queue, Option.some.injEq] at h
          subst h
          simp at joining
  · have same := (Acts.moves move).acceptor_eq fun h => turn (Action.step.inj h)
    rw [show s'.core.acceptor = _ from joining, show s.core.acceptor = _ from accepting] at same
    simp at same

theorem Steps.unique (h₁ : Steps c t c₁ effects₁) (h₂ : Steps c t c₂ effects₂) :
    c₁ = c₂ ∧ effects₁ = effects₂ := by
  obtain ⟨move₁, meets₁⟩ := h₁
  obtain ⟨move₂, meets₂⟩ := h₂
  -- What the moves of a task need of the core excludes all but one of them.
  cases move₁ with
  | endReader reader₁ move₁ =>
    cases move₂ with
    | endReader reader₂ move₂ =>
      obtain rfl := Reader.ending.inj (reader₁.symm.trans reader₂)
      obtain ⟨rfl, rfl, rfl, rfl⟩ := move₁.unique move₂
      exact ⟨rfl, rfl⟩
    | _ => simp_all
  | endAcceptor acceptor₁ move₁ =>
    cases move₂ with
    | endAcceptor acceptor₂ move₂ =>
      obtain rfl := Acceptor.ending.inj (acceptor₁.symm.trans acceptor₂)
      obtain ⟨rfl, rfl, rfl, rfl⟩ := move₁.unique move₂
      exact ⟨rfl, rfl⟩
    | _ => simp_all
  | drain drain₁ move₁ =>
    cases move₂ with
    | drain drain₂ move₂ =>
      obtain rfl := Option.some.inj (drain₁.symm.trans drain₂)
      obtain ⟨rfl, rfl⟩ := move₁.unique move₂
      exact ⟨rfl, rfl⟩
  | call caller₁ move₁ =>
    cases move₂ with
    | call caller₂ move₂ =>
      obtain rfl := Option.some.inj (caller₁.symm.trans caller₂)
      obtain ⟨rfl, rfl, rfl, rfl⟩ := move₁.unique move₂
      exact ⟨rfl, rfl⟩
  | acceptError accepting fails =>
    cases move₂ with
    | acceptError =>
      have e₁ := meets₁ _ accepting rfl
      obtain rfl := Option.some.inj (e₁.symm.trans (meets₂ _ accepting rfl))
      exact ⟨rfl, rfl⟩
    | _ => simp_all
  | _ => cases move₂ <;> simp_all

theorem CallerMove.not_answered {o : Options} {k : Caller} {stage : Stage} {r : Reply}
    (move : CallerMove id o sh l k sh₁ l₁ stage effects) : k.stage ≠ .replied r := by
  obtain ⟨request, before⟩ := k
  cases move with
  | send out move => cases move <;> simp
  | _ => simp

theorem CallerMove.not_held {o : Options} {k : Caller} {stage : Stage} {e : TransportError}
    (move : CallerMove id o sh l k sh₁ l₁ stage effects) (held : k.stage = .sending (.held e)) :
    l.closed ≠ none := by
  intro opened
  obtain ⟨request, before⟩ := k
  cases move with
  | send out move =>
    obtain rfl : before = .sending (.held e) := held
    cases move with
    | call goesOn moves step =>
      simp only [Dispatch.step, opened] at step
      exact moves e rfl e (Prod.mk.inj step).1.symm
  | _ => simp at held

theorem CallerMove.not_misplaced {o : Options} {k : Caller} {stage : Stage}
    (move : CallerMove id o sh l k sh₁ l₁ stage effects) : k.isMisplaced = false := by
  obtain ⟨request, before⟩ := k
  cases move with
  | send out move =>
    cases request with
    | send payload => cases move <;> rfl
    | sendStream payload => cases move <;> rfl
    | stop | awaitClosed => simp [Request.outgoing?] at out
  | _ => rfl

theorem Move.not_blocked (h : Move c t c' effects) : ¬ Blocked c t := by
  intro blocked
  cases h with
  | endReader reader move =>
    cases blocked with
    | noDatagram reading => simp [reader] at reading
    | readerEnded ended =>
      obtain rfl := Reader.ending.inj (reader.symm.trans ended)
      cases move
  | endAcceptor acceptor move =>
    cases blocked with
    | noStream accepting => simp [acceptor] at accepting
    | joining joining => simp [acceptor] at joining
    | acceptorEnded ended =>
      obtain rfl := Acceptor.ending.inj (acceptor.symm.trans ended)
      cases move
  | drain drain move => cases blocked <;> cases move <;> simp_all
  | call caller move =>
    cases blocked with
    | noCaller none => simp [caller] at none
    | answered caller' stage =>
      obtain rfl := Option.some.inj (caller.symm.trans caller')
      exact move.not_answered stage
    | held caller' stage opened =>
      obtain rfl := Option.some.inj (caller.symm.trans caller')
      exact move.not_held stage opened
    | untold caller' unpublished =>
      obtain rfl := Option.some.inj (caller.symm.trans caller')
      cases move with
      | send out => simp [Request.outgoing?] at out
      | told published => simp [unpublished] at published
    | misplaced caller' misplaced =>
      obtain rfl := Option.some.inj (caller.symm.trans caller')
      simp [move.not_misplaced] at misplaced
  | _ => cases blocked <;> simp_all

/-- What an action comes to on a core, unless it is a turn of a task that has to wait. -/
inductive Goes (c : Core) : Action → Core → List Effect → Prop where
  | steps {t : Task} {c' : Core} {effects : List Effect} (steps : Steps c t c' effects) :
      Goes c (.step t) c' effects
  | request {r : Request} : Goes c (.request r) { c with callers := c.callers ++ [⟨r, .asked⟩] } []
  | event {e : Link.Event} : Goes c (.event e) { c with link := c.link.apply e } []
  | pass {nanoseconds : Nat} : Goes c (.pass nanoseconds) c []

theorem Goes.unique {a : Action} (h₁ : Goes c a c₁ effects₁) (h₂ : Goes c a c₂ effects₂) :
    c₁ = c₂ ∧ effects₁ = effects₂ := by
  cases h₁ with
  | steps steps₁ =>
    cases h₂ with
    | steps steps₂ => exact steps₁.unique steps₂
  | _ =>
    cases h₂
    exact ⟨rfl, rfl⟩

theorem goes (s : Session) (a : Action) (able : ∀ t, a = .step t → s.canStep t = true) :
    Goes s.core a (s.act a).core (visible (s.news a)) := by
  have silent (same : (s.act a).history = s.history) : visible (s.news a) = [] :=
    (Adds.of_history_eq same).news_eq.2
  cases a with
  | step t =>
    obtain ⟨s', step⟩ := Option.isSome_iff_exists.1 (able t rfl)
    obtain ⟨effects, steps, adds⟩ := exists_steps step
    have same : s.act (.step t) = s' := by simp [act, step]
    rw [← same] at steps adds
    rw [adds.news_eq.2]
    exact .steps steps
  | request r =>
    rw [silent rfl]
    exact .request
  | event e =>
    rw [silent rfl]
    exact .event
  | pass nanoseconds =>
    rw [silent rfl]
    exact .pass

end MessageTunnel.Session
