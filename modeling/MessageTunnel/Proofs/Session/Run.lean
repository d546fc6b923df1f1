import MessageTunnel.Proofs.Session.Action
set_option autoImplicit false

namespace MessageTunnel.Session

theorem run_cons (s : Session) (a : Action) (rest : List Action) :
    s.run (a :: rest) = (s.act a).run rest := rfl

theorem run_append (s : Session) (actions more : List Action) :
    s.run (actions ++ more) = (s.run actions).run more := List.foldl_append

theorem run_concat (s : Session) (actions : List Action) (a : Action) :
    s.run (actions ++ [a]) = (s.run actions).act a := by
  simp [run]

theorem run_induction {P : List Action → Session → Prop} {first : Session} (start : P [] first)
    (kept : ∀ actions a, P actions (first.run actions) →
      P (actions ++ [a]) ((first.run actions).act a)) (actions : List Action) :
    P actions (first.run actions) := by
  -- Runs are built from the front, so the induction is on what is still to be done.
  have later (rest : List Action) : ∀ done, P done (first.run done) →
      P (done ++ rest) (first.run (done ++ rest)) := by
    induction rest with
    | nil => simp
    | cons a rest ih =>
      intro done h
      have ha := ih (done ++ [a]) (by rw [run_concat]; exact kept done a h)
      simpa using ha
  exact later actions [] start

theorem fit_run {first : Session} (fresh : first.callers = []) (actions : List Action) :
    ∀ k ∈ (first.run actions).callers, k.isFit = true :=
  run_induction (P := fun _ s => ∀ k ∈ s.core.callers, k.isFit = true) (by simp [core, fresh])
    (fun actions a fit => (acts (first.run actions) a).fit fit) actions

def along {α : Type} (give : Session → Action → List α) (s : Session) : List Action → List α
  | [] => []
  | a :: rest => give s a ++ along give (s.act a) rest

theorem along_append {α : Type} (give : Session → Action → List α) (s : Session)
    (actions more : List Action) :
    along give s (actions ++ more) = along give s actions ++ along give (s.run actions) more := by
  induction actions generalizing s with
  | nil => rfl
  | cons a rest ih => simp [along, ih, run]

theorem along_concat {α : Type} (give : Session → Action → List α) (s : Session)
    (actions : List Action) (a : Action) :
    along give s (actions ++ [a]) = along give s actions ++ give (s.run actions) a := by
  induction actions generalizing s with
  | nil => simp [along, run]
  | cons b rest ih => simp [along, ih, run]

def newsByTask (s : Session) : Action → List (Task × Effect)
  | .step t => (s.news (.step t)).map (t, ·)
  | _ => []

def chronicle (s : Session) (actions : List Action) : List (Task × Effect) :=
  along newsByTask s actions

theorem newsByTask_snd (s : Session) (a : Action) : (s.newsByTask a).map Prod.snd = s.news a := by
  cases a with
  | step t => simp [newsByTask, Function.comp_def]
  | _ => simp [newsByTask, news, act, ask]

theorem history_run (s : Session) (actions : List Action) :
    (s.run actions).history = s.history ++ (s.chronicle actions).map Prod.snd := by
  induction actions generalizing s with
  | nil => simp [run, chronicle, along]
  | cons a rest ih =>
    have hr : (s.run (a :: rest)).history = ((s.act a).run rest).history := rfl
    rw [hr, ih (s.act a), history_act]
    simp [chronicle, along, newsByTask_snd]

def turnsOf (t : Task) (actions : List Action) : Nat :=
  actions.countP fun a => match a with
    | .step t' => t' = t
    | _ => false

theorem turnsOf_cons (t : Task) (a : Action) (rest : List Action) :
    turnsOf t (a :: rest) = turnsOf t [a] + turnsOf t rest := by
  rw [← List.singleton_append, turnsOf, List.countP_append]
  rfl

theorem turnsOf_self (t : Task) : turnsOf t [.step t] = 1 := by
  simp [turnsOf]

theorem turnsOf_other {t : Task} {a : Action} (other : a ≠ .step t) : turnsOf t [a] = 0 := by
  cases a with
  | step t' =>
    have hne : t' ≠ t := fun same => other (congrArg _ same)
    simp [turnsOf, hne]
  | _ => rfl

def seenOf {α : Type} (f : Effect → Option α) (t : Task) (entries : List (Task × Effect)) :
    List α :=
  entries.filterMap fun e => if e.1 = t then f e.2 else none

def seenIn {α : Type} (f : Effect → Option α) (t : Task) (a : Action) (effects : List Effect) :
    List α :=
  match a with
  | .step t' => if t' = t then effects.filterMap f else []
  | _ => []

theorem filterMap_visible {α : Type} {f : Effect → Option α}
    (blind : ∀ e, e.isDiagnostic = true → f e = none) (effects : List Effect) :
    (visible effects).filterMap f = effects.filterMap f := by
  rw [visible, List.filterMap_filter]
  congr 1
  funext e
  cases he : e.isDiagnostic with
  | false => rfl
  | true => exact (blind e he).symm

theorem seenOf_append {α : Type} (f : Effect → Option α) (t : Task)
    (entries more : List (Task × Effect)) :
    seenOf f t (entries ++ more) = seenOf f t entries ++ seenOf f t more := List.filterMap_append

theorem seenOf_newsByTask {α : Type} {f : Effect → Option α}
    (blind : ∀ e, e.isDiagnostic = true → f e = none) (s : Session) (t : Task) (a : Action) :
    seenOf f t (s.newsByTask a) = seenIn f t a (visible (s.news a)) := by
  cases a with
  | step t' =>
    by_cases same : t' = t
    · subst same
      simp only [newsByTask, seenOf, seenIn, List.filterMap_map, Function.comp_def, if_true,
        filterMap_visible blind]
    · simp only [newsByTask, seenOf, seenIn, List.filterMap_map, Function.comp_def, same, if_false]
      exact List.filterMap_eq_nil_iff.2 fun _ _ => rfl
  | _ => rfl

theorem seenOf_concat {α : Type} {f : Effect → Option α}
    (blind : ∀ e, e.isDiagnostic = true → f e = none) (s : Session) (t : Task)
    (actions : List Action) (a : Action) :
    seenOf f t (s.chronicle (actions ++ [a])) =
      seenOf f t (s.chronicle actions) ++ seenIn f t a (visible ((s.run actions).news a)) := by
  rw [chronicle, along_concat, seenOf_append, seenOf_newsByTask blind]
  rfl

theorem seenOf_perm {α : Type} (f : Effect → Option α) (tasks : List Task) (distinct : tasks.Nodup)
    (entries : List (Task × Effect))
    (only : ∀ e ∈ entries, (f e.2).isSome = true → e.1 ∈ tasks) :
    (entries.filterMap fun e => f e.2).Perm (tasks.flatMap fun t => seenOf f t entries) := by
  induction tasks generalizing entries with
  | nil =>
    have none : (entries.filterMap fun e => f e.2) = [] := by
      rw [List.filterMap_eq_nil_iff]
      intro e he
      cases hf : f e.2 with
      | none => rfl
      | some x => simpa [hf] using only e he
    simp [none]
  | cons t rest ih =>
    obtain ⟨absent, distinct⟩ := List.nodup_cons.1 distinct
    have here : seenOf f t entries = (entries.filter (·.1 = t)).filterMap fun e => f e.2 := by
      rw [List.filterMap_filter, seenOf]
      simp
    -- The other tasks cause none of the entries of `t`, so the rest may do without these.
    have elsewhere (t' : Task) (ht' : t' ∈ rest) :
        seenOf f t' entries = seenOf f t' (entries.filter fun e => !decide (e.1 = t)) := by
      have hne : t' ≠ t := fun same => absent (same ▸ ht')
      rw [seenOf, seenOf, List.filterMap_filter]
      congr 1
      funext e
      by_cases same : e.1 = t'
      · simp [same, hne]
      · simp [same]
    have others := ih distinct (entries.filter fun e => !decide (e.1 = t)) fun e he hf => by
      obtain ⟨mem, other⟩ := by simpa using he
      simpa [other] using only e mem hf
    have parts := ((List.filter_append_perm (fun e : Task × Effect => decide (e.1 = t))
      entries).filterMap fun e => f e.2).symm
    rw [List.filterMap_append, ← here] at parts
    rw [List.flatMap_cons, List.flatMap_def, List.map_congr_left elsewhere, ← List.flatMap_def]
    exact parts.trans (others.append_left _)

end MessageTunnel.Session
