import MessageTunnel.Foreign.Handle
import MessageTunnel.Proofs.Session.Calling
import MessageTunnel.Proofs.Session.Convergence
/-!
What becomes of a session whose handle is let go of. The release is three callers of the session, one
after the other, and between their turns the session does whatever it does. When the thread that let
go returns, the session no longer runs; left alone, every release comes to its end, and the session
with it.
-/
set_option autoImplicit false

namespace MessageTunnel.Foreign.Release

open Session (Action Request Caller Stage Task misledBy)

variable {first : Session} {r : Release} {done : List Action} {request : Request} {stage : Stage}
  {left : List Request} {id : ConnectionId} {options : Session.Options} {link : Link}
  {registry : Trace.Registry} {clock : Nat}

def next? (r : Release) : Option Request := if r.isAnswered then r.left.head? else none

def Move.actions (r : Release) : Move → List Action
  | session a => [a]
  | goOn => r.next?.toList.map .request

def actions (r : Release) : List Move → List Action
  | [] => []
  | m :: rest => m.actions r ++ (r.step m).actions rest

theorem run_append (r : Release) (moves more : List Move) :
    r.run (moves ++ more) = (r.run moves).run more := List.foldl_append

theorem goOn_eq (answered : r.isAnswered = true) (rest : r.left = request :: left) :
    r.step .goOn = ⟨r.session.ask request, r.session.callers.length, left⟩ := by
  simp [step, answered, rest]

theorem goOn_of_next? (waits : r.next? = none) : r.step .goOn = r := by
  simp only [step]
  split
  next answered rest => simp [next?, answered, rest] at waits
  next => rfl

theorem next?_eq_some_iff :
    r.next? = some request ↔ r.isAnswered = true ∧ ∃ left, r.left = request :: left := by
  cases r.isAnswered.eq_false_or_eq_true with
  | inl answered => simp [next?, answered, List.head?_eq_some_iff]
  | inr waits => simp [next?, waits]

theorem isAnswered_iff (caller : r.session.callers[r.caller]? = some ⟨request, stage⟩) :
    r.isAnswered = true ↔ ∃ reply, stage = .replied reply := by
  simp only [isAnswered, caller, Option.bind_some]
  cases stage <;> simp [Caller.reply?]

theorem session_step (r : Release) (m : Move) :
    (r.step m).session = r.session.run (m.actions r) := by
  cases m with
  | session a => rfl
  | goOn =>
    cases next : r.next? with
    | none => rw [goOn_of_next? next, Move.actions, next]; rfl
    | some request =>
      obtain ⟨answered, left, rest⟩ := next?_eq_some_iff.1 next
      rw [goOn_eq answered rest, Move.actions, next]
      rfl

theorem session_run (r : Release) (moves : List Move) :
    (r.run moves).session = r.session.run (r.actions moves) := by
  induction moves generalizing r with
  | nil => rfl
  | cons m rest ih =>
    rw [actions, Session.run_append, ← session_step]
    exact ih (r.step m)

/-- What a release asks, with what it asks afterwards. -/
inductive Asks : Request → List Request → Prop where
  | first : Asks .stop [.stop, .awaitClosed]
  | again : Asks .stop [.awaitClosed]
  | last : Asks .awaitClosed []

/-- A release of a session that started as `first`, after some actions of the session. -/
structure Stands (first : Session) (r : Release) (done : List Action) : Prop where
  session : r.session = first.run done
  asks : ∃ k, r.session.callers[r.caller]? = some k ∧ Asks k.request r.left
  closing : r.left.length < 2 → r.session.state ≠ .running

theorem stands_start (first : Session) (before : List Action) :
    Stands first (start (first.run before)) (before ++ [.request .stop]) where
  session := (Session.run_concat first before (.request .stop)).symm
  asks := ⟨_, Session.callers_ask _ _, .first⟩
  closing := by simp [start]

/-- The first stop has had a turn where it is answered, and afterwards the session stays closing. -/
theorem Stands.closing_of_answered (h : Stands first r done) (fresh : first.callers = [])
    (answered : r.isAnswered = true) : r.session.state ≠ .running := by
  obtain ⟨⟨request, stage⟩, caller, asks⟩ := h.asks
  obtain ⟨reply, rfl⟩ := (isAnswered_iff caller).1 answered
  generalize rest : r.left = left at asks
  cases asks with
  | first =>
    have mem := List.mem_of_getElem? caller
    rw [h.session] at mem ⊢
    exact Session.closing_of_hasTried fresh done _ mem ⟨rfl, by simp⟩
  | again | last => exact h.closing (by simp [rest])

theorem Stands.step (h : Stands first r done) (fresh : first.callers = []) (m : Move) :
    Stands first (r.step m) (done ++ m.actions r) := by
  have session : (r.step m).session = first.run (done ++ m.actions r) := by
    rw [session_step, h.session, Session.run_append]
  obtain ⟨k, caller, asks⟩ := h.asks
  cases m with
  | session a =>
    obtain ⟨stage, caller⟩ := Session.exists_stage r.session a caller
    exact ⟨session, ⟨_, caller, asks⟩, fun less => Session.closing_stays (h.closing less) [a]⟩
  | goOn =>
    cases next : r.next? with
    | none =>
      rw [goOn_of_next? next] at session ⊢
      exact ⟨session, ⟨k, caller, asks⟩, h.closing⟩
    | some request =>
      obtain ⟨answered, left, rest⟩ := next?_eq_some_iff.1 next
      have closing := h.closing_of_answered fresh answered
      have asks : Asks request left := by
        rw [rest] at asks
        generalize k.request = before at asks
        cases asks with
        | first => exact .again
        | again => exact .last
      rw [goOn_eq answered rest] at session ⊢
      exact ⟨session, ⟨_, Session.callers_ask _ _, asks⟩, fun _ => closing⟩

theorem Stands.run (h : Stands first r done) (fresh : first.callers = []) (moves : List Move) :
    Stands first (r.run moves) (done ++ r.actions moves) := by
  induction moves generalizing r done with
  | nil =>
    rw [actions, List.append_nil]
    exact h
  | cons m rest ih =>
    rw [actions, ← List.append_assoc]
    exact ih (h.step fresh m)

theorem Stands.closing_of_hasReturned (h : Stands first r done) (fresh : first.callers = [])
    {thread : Thread} (returned : r.hasReturned thread = true) : r.session.state ≠ .running := by
  cases thread with
  | plain =>
    obtain ⟨-, answered⟩ : r.left.isEmpty = true ∧ r.isAnswered = true := by
      simpa [hasReturned] using returned
    exact h.closing_of_answered fresh answered
  | guest | inside | pinned =>
    obtain less | answered : r.left.length < 2 ∨ r.isAnswered = true := by
      simpa [hasReturned] using returned
    · exact h.closing less
    · exact h.closing_of_answered fresh answered

theorem Stands.closed_of_last
    (h : Stands (.spawn id options link registry clock) r done) (last : r.left = [])
    (answered : r.isAnswered = true) : r.session.state = .closed ∧
      ∃ reason, r.session.history.filterMap Session.Effect.closeReason? = [reason] := by
  have closing := Session.closing_run id options link registry clock done
  have fresh := Session.callers_spawn id options link registry clock
  obtain ⟨⟨request, stage⟩, caller, asks⟩ := h.asks
  obtain ⟨reply, rfl⟩ := (isAnswered_iff caller).1 answered
  rw [last] at asks
  cases asks
  have mem := List.mem_of_getElem? caller
  rw [h.session] at mem ⊢
  have fit := Session.fit_run fresh done _ mem
  cases reply with
  | closed reason =>
    have published := closing.told _ mem reason rfl
    refine ⟨closing.closed_of_published published, reason, ?_⟩
    rw [Session.filterMap_closeReason?, (closing.of_published published).2]
    rfl
  | _ => simp [Caller.isFit] at fit

def turn : Option Task → Move
  | some t => .session (.step t)
  | none => .goOn

def alone (r : Release) (turns : List (Option Task)) : Release := r.run (turns.map turn)

theorem alone_append (r : Release) (turns more : List (Option Task)) :
    r.alone (turns ++ more) = (r.alone turns).alone more := by
  simp [alone, run_append]

theorem lossless_turns (r : Release) (turns : List (Option Task)) :
    ∀ a ∈ r.actions (turns.map turn), a.loss? = none := by
  induction turns generalizing r with
  | nil => simp [actions]
  | cons t rest ih =>
    rw [List.map_cons, actions, List.forall_mem_append]
    refine ⟨?_, ih _⟩
    cases t <;> simp [turn, Move.actions, Action.loss?]

theorem Stands.alone (h : Stands first r done) (fresh : first.callers = [])
    (fair : misledBy first done = []) (turns : List (Option Task)) :
    ∃ done', Stands first (r.alone turns) done' ∧ misledBy first done' = [] :=
  ⟨_, h.run fresh _, by rw [Session.misledBy_append _ _ (lossless_turns r turns), fair]⟩

theorem alone_tasks (r : Release) (turns : List Task) :
    r.alone (turns.map some) = { r with session := r.session.alone turns } := by
  induction turns generalizing r with
  | nil => rfl
  | cons t rest ih => exact ih _

theorem exists_rest (r : Release) : ∃ turns, (r.alone turns).session.isQuiet = true ∧
    (r.alone turns).left = r.left := by
  obtain ⟨turns, quiet⟩ := Session.exists_rest r.session
  exact ⟨turns.map some, by rw [alone_tasks]; exact ⟨quiet, rfl⟩⟩

theorem Stands.exists_next (h : Stands first r done) (fresh : first.callers = [])
    (rest : r.left = request :: left) : ∃ turns, (r.alone turns).left = left := by
  obtain ⟨turns, quiet, same⟩ := r.exists_rest
  have h : Stands first (r.alone turns) _ := h.run fresh _
  rw [rest] at same
  obtain ⟨⟨request', stage⟩, caller, asks⟩ := h.asks
  have fit := Session.fit_run fresh _ _ (h.session ▸ List.mem_of_getElem? caller)
  obtain rfl : request' = .stop := by
    rw [same] at asks
    cases asks <;> rfl
  have answered : (r.alone turns).isAnswered = true := by
    refine (isAnswered_iff caller).2 ?_
    obtain replied | ⟨e, rfl⟩ | ⟨waits, -⟩ := Session.caller_at_rest quiet caller fit
    · exact replied
    · simp [Caller.isFit] at fit
    · simp at waits
  refine ⟨turns ++ [none], ?_⟩
  rw [alone_append]
  exact congrArg Release.left (goOn_eq answered same)

theorem Stands.exists_last (h : Stands (.spawn id options link registry clock) r done)
    (honest : (Session.spawn id options link registry clock).core.IsHonest)
    (fair : misledBy (.spawn id options link registry clock) done = []) (last : r.left = []) :
    ∃ turns reason, (r.alone turns).left = [] ∧ (r.alone turns).isAnswered = true ∧
      (r.alone turns).session.IsOver reason := by
  have fresh := Session.callers_spawn id options link registry clock
  obtain ⟨turns, quiet, same⟩ := r.exists_rest
  obtain ⟨done, h, fair⟩ := h.alone fresh fair turns
  rw [last] at same
  have rests := Session.atWork_or_over id options link registry clock done honest fair
  rw [← h.session] at rests
  obtain working | ⟨reason, ended⟩ := rests quiet
  · exact absurd working.state (h.closing (by simp [same]))
  · obtain ⟨⟨request, stage⟩, caller, asks⟩ := h.asks
    obtain rfl : request = .awaitClosed := by
      rw [same] at asks
      cases asks
      rfl
    have told := ended.waiters _ (List.mem_of_getElem? caller) rfl
    exact ⟨turns, reason, same, (isAnswered_iff caller).2 ⟨_, told⟩, ended⟩

theorem Stands.exists_over (h : Stands (.spawn id options link registry clock) r done)
    (honest : (Session.spawn id options link registry clock).core.IsHonest)
    (fair : misledBy (.spawn id options link registry clock) done = []) :
    ∃ turns reason, (r.alone turns).left = [] ∧ (r.alone turns).isAnswered = true ∧
      (r.alone turns).session.IsOver reason := by
  have fresh := Session.callers_spawn id options link registry clock
  -- The induction is on what is still to be asked.
  generalize rest : r.left = left
  induction left generalizing r done with
  | nil => exact h.exists_last honest fair rest
  | cons request left ih =>
    obtain ⟨turns, fewer⟩ := h.exists_next fresh rest
    obtain ⟨done, h, fair⟩ := h.alone fresh fair turns
    obtain ⟨more, ended⟩ := ih h fair fewer
    exact ⟨turns ++ more, by rwa [alone_append]⟩

/-- What becomes of a session that started as `first` when its handle is let go of on a thread, at
any time and whatever happens meanwhile. -/
structure Stops (first : Session) (thread : Thread) : Prop where
  /-- When the thread has returned the session does not run, and it never runs again. -/
  returned : ∀ before moves more, ((start (first.run before)).run moves).hasReturned thread = true →
    (((start (first.run before)).run moves).run more).session.state ≠ .running
  /-- A plain thread returns when all is over and the host has been told. -/
  waited : ∀ before moves, ((start (first.run before)).run moves).hasReturned .plain = true →
    ((start (first.run before)).run moves).session.state = .closed ∧
      ∃ reason, ((start (first.run before)).run moves).session.history.filterMap
        Session.Effect.closeReason? = [reason]
  /-- If no loop is misled, then whatever turns are taken first, the thread returns and the session
  comes to its end when they are left alone. -/
  ends : ∀ before moves turns,
    misledBy first (before ++ .request .stop :: (start (first.run before)).actions moves) = [] →
      ∃ more reason,
        (((start (first.run before)).run moves).alone (turns ++ more)).hasReturned thread = true ∧
        (((start (first.run before)).run moves).alone (turns ++ more)).session.IsOver reason

theorem stops (id : ConnectionId) (options : Session.Options) (link : Link)
    (registry : Trace.Registry) (clock : Nat) (thread : Thread)
    (honest : (Session.spawn id options link registry clock).core.IsHonest) :
    Stops (.spawn id options link registry clock) thread := by
  have fresh := Session.callers_spawn id options link registry clock
  have stands (before : List Action) (moves : List Move) :=
    (stands_start (.spawn id options link registry clock) before).run fresh moves
  refine ⟨fun before moves more returned => ?_, fun before moves returned => ?_,
    fun before moves turns fair => ?_⟩
  · rw [session_run]
    exact Session.closing_stays ((stands before moves).closing_of_hasReturned fresh returned) _
  · obtain ⟨last, answered⟩ := Bool.and_eq_true_iff.1 returned
    exact (stands before moves).closed_of_last (List.isEmpty_iff.1 last) answered
  · have now := stands before moves
    rw [List.append_assoc, List.singleton_append] at now
    obtain ⟨done, later, fair⟩ := now.alone fresh fair turns
    obtain ⟨more, reason, last, answered, ended⟩ := later.exists_over honest fair
    refine ⟨more, reason, ?_, ?_⟩
    · rw [alone_append]
      cases thread <;> simp [hasReturned, last, answered]
    · rwa [alone_append]

/-- Nothing has happened yet when this handle is let go of. A thread of a runtime returns after the
stop; the other one waits until both loops have left. -/
example :
    let stopped := (start Session.receiver).alone [some (.caller 0), some (.caller 0)]
    let rest := [none, some (.caller 1), none] ++ List.replicate 3 (some .reader) ++
      List.replicate 8 (some .acceptor) ++ [some (.caller 2)]
    stopped.hasReturned (.inside .multi) = true ∧ stopped.hasReturned .plain = false ∧
      (stopped.alone rest).hasReturned .plain = true := by decide +kernel

end MessageTunnel.Foreign.Release
