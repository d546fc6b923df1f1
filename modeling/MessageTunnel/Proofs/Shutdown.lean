import Mathlib.Data.List.Induction
import MessageTunnel.Shutdown
/-!
A shutdown over the whole history of the calls made on it: those that begin the closing, the exits
of its loops, and those that check, publish or subscribe, in any order. The ledger of a history says
from the calls alone what the shutdown has come to. It is kept under one rule: nobody leaves as the
last loop before the closing was begun.
-/
set_option autoImplicit false

namespace MessageTunnel.Shutdown

inductive Call where
  | begin (reason : CloseReason)
  | exit
  | ensure
  | publish (reason : CloseReason)
  | subscribe
  deriving DecidableEq, Repr

inductive Answer where
  | began (first : Bool)
  | left (last : Option CloseReason)
  | checked (result : Except SessionError Unit)
  | published
  | subscribed (view : Option CloseReason)

def call (s : Shutdown) : Call → Answer × Shutdown
  | .begin reason => (.began (s.beginClosing reason).1, (s.beginClosing reason).2)
  | .exit => (.left s.loopExited.1, s.loopExited.2)
  | .ensure => (.checked s.ensureRunning, s)
  | .publish reason => (.published, s.publish reason)
  | .subscribe => (.subscribed s.published, s)

def after (loops : Nat) (calls : List Call) : Shutdown :=
  calls.foldl (fun s c => (s.call c).2) (start loops)

def answer (loops : Nat) (before : List Call) (c : Call) : Answer := ((after loops before).call c).1

theorem after_concat (loops : Nat) (calls : List Call) (c : Call) :
    after loops (calls ++ [c]) = ((after loops calls).call c).2 := by
  simp [after]

def Call.begins? : Call → Option CloseReason
  | .begin reason => some reason
  | _ => none

def Call.publishes? : Call → Option CloseReason
  | .publish reason => some reason
  | _ => none

def firstReason? (calls : List Call) : Option CloseReason := calls.findSome? Call.begins?

def exits (calls : List Call) : Nat := calls.count .exit

def lastPublished? (calls : List Call) : Option CloseReason :=
  (calls.filterMap Call.publishes?).getLast?

def isOver (loops : Nat) (calls : List Call) : Bool := max loops 1 ≤ exits calls

def stateAfter (loops : Nat) (calls : List Call) : SessionState :=
  if isOver loops calls then .closed
  else if (firstReason? calls).isSome then .closing else .running

/-- An exit that leaves no live loop comes only after a call that begins the closing. -/
def IsTimely (loops : Nat) (calls : List Call) : Prop :=
  ∀ before, before ++ [.exit] <+: calls → (after loops before).liveLoops ≤ 1 →
    ∃ reason, .begin reason ∈ before

theorem IsTimely.of_prefix {loops : Nat} {calls before : List Call} (h : IsTimely loops calls)
    (le : before <+: calls) : IsTimely loops before :=
  fun earlier exits => h earlier (exits.trans le)

theorem isSome_firstReason? {calls : List Call} :
    (firstReason? calls).isSome = true ↔ ∃ reason, .begin reason ∈ calls := by
  rw [firstReason?, List.findSome?_isSome_iff]
  constructor
  · rintro ⟨c, mem, begins⟩
    cases c with
    | begin reason => exact ⟨reason, mem⟩
    | _ => simp [Call.begins?] at begins
  · rintro ⟨reason, mem⟩
    exact ⟨_, mem, rfl⟩

theorem isTimely_iff {loops : Nat} {calls : List Call} : IsTimely loops calls ↔
    ∀ i < calls.length, calls[i]? = some .exit → (after loops (calls.take i)).liveLoops ≤ 1 →
      (firstReason? (calls.take i)).isSome = true := by
  constructor
  · intro h i less exit few
    refine isSome_firstReason?.2 (h (calls.take i) ⟨calls.drop (i + 1), ?_⟩ few)
    have hi : calls[i] = .exit := by simpa [less] using exit
    rw [List.append_assoc, ← hi, List.singleton_append, List.getElem_cons_drop,
      List.take_append_drop]
  · rintro h before ⟨rest, rfl⟩ few
    have here := h before.length (by simp) (by simp)
    simp only [List.append_assoc, List.take_left] at here
    exact isSome_firstReason?.1 (here few)

instance (loops : Nat) (calls : List Call) : Decidable (IsTimely loops calls) :=
  decidable_of_iff _ isTimely_iff.symm

@[simp] theorem firstReason?_concat (calls : List Call) (c : Call) :
    firstReason? (calls ++ [c]) = (firstReason? calls).or c.begins? := by
  simp [firstReason?, List.findSome?_append]

@[simp] theorem exits_concat (calls : List Call) (c : Call) :
    exits (calls ++ [c]) = exits calls + if c = .exit then 1 else 0 := by
  by_cases h : c = .exit <;> simp [exits, List.count_append, h]

@[simp] theorem lastPublished?_concat (calls : List Call) (c : Call) :
    lastPublished? (calls ++ [c]) = c.publishes?.or (lastPublished? calls) := by
  cases h : c.publishes? <;> simp [lastPublished?, List.filterMap_append, h]

structure Ledger (loops : Nat) (calls : List Call) (s : Shutdown) : Prop where
  state : s.state = stateAfter loops calls
  reason : s.reason = firstReason? calls
  live : s.liveLoops + min (exits calls) loops = loops
  published : s.published = lastPublished? calls
  begun : isOver loops calls = true → (firstReason? calls).isSome = true

theorem ledger_start (loops : Nat) : Ledger loops [] (start loops) := by
  constructor <;> simp [start, stateAfter, isOver, exits, firstReason?, lastPublished?]

variable {loops : Nat} {calls : List Call} {s : Shutdown}

theorem Ledger.running_iff (h : Ledger loops calls s) :
    s.state = .running ↔ (firstReason? calls).isSome = false := by
  rw [h.state, stateAfter]
  cases finished : isOver loops calls with
  | true => simp [h.begun finished]
  | false => cases firstReason? calls <;> simp

theorem Ledger.closed_iff (h : Ledger loops calls s) :
    s.state = .closed ↔ isOver loops calls = true := by
  rw [h.state, stateAfter]
  cases isOver loops calls with
  | true => simp
  | false => cases firstReason? calls <;> simp

theorem Ledger.keep {s' : Shutdown} {c : Call} (h : Ledger loops calls s) (other : c ≠ .exit)
    (state : s'.state = stateAfter loops (calls ++ [c]))
    (reason : s'.reason = firstReason? (calls ++ [c]))
    (live : s'.liveLoops = s.liveLoops)
    (published : s'.published = c.publishes?.or s.published) :
    Ledger loops (calls ++ [c]) s' where
  state := state
  reason := reason
  live := by rw [exits_concat, if_neg other, live]; exact h.live
  published := by rw [published, lastPublished?_concat, h.published]
  begun := by
    intro finished
    rw [isOver, exits_concat, if_neg other] at finished
    simp [h.begun finished]

theorem stateAfter_concat {c : Call} (quiet : c.begins? = none) (other : c ≠ .exit) :
    stateAfter loops (calls ++ [c]) = stateAfter loops calls := by
  simp [stateAfter, isOver, other, quiet]

theorem Ledger.begin (h : Ledger loops calls s) (reason : CloseReason) :
    Ledger loops (calls ++ [.begin reason]) (s.beginClosing reason).2 := by
  by_cases running : s.state = .running
  · have fresh := h.running_iff.1 running
    have going : isOver loops calls = false := by
      cases finished : isOver loops calls with
      | false => rfl
      | true => simp [h.begun finished] at fresh
    have unbegun : firstReason? calls = none := by simpa using fresh
    simp only [beginClosing, running, if_true]
    refine h.keep (by simp) ?_ ?_ rfl rfl
    · have same : isOver loops (calls ++ [.begin reason]) = isOver loops calls := by simp [isOver]
      simp [stateAfter, same, going, unbegun, Call.begins?]
    · simp [unbegun, Call.begins?]
  · obtain ⟨first, hf⟩ : ∃ first, firstReason? calls = some first := by
      rw [h.running_iff, Bool.not_eq_false] at running
      exact Option.isSome_iff_exists.1 running
    simp only [beginClosing, running, if_false]
    refine h.keep (by simp) ?_ ?_ rfl rfl
    · rw [h.state]
      simp [stateAfter, isOver, hf]
    · simp [h.reason, hf]

/-- Who leaves, and with what: only the exit with which it is over is handed the reason. -/
theorem Ledger.exit (h : Ledger loops calls s)
    (timely : s.liveLoops ≤ 1 → (firstReason? calls).isSome = true) :
    Ledger loops (calls ++ [.exit]) s.loopExited.2 ∧
      s.loopExited.1 = if exits calls + 1 = max loops 1 then firstReason? calls else none := by
  have live := h.live
  have counted : exits (calls ++ [.exit]) = exits calls + 1 := by simp
  have same : firstReason? (calls ++ [.exit]) = firstReason? calls := by simp [Call.begins?]
  have before : isOver loops calls = true ↔ max loops 1 ≤ exits calls := by simp [isOver]
  have later : isOver loops (calls ++ [.exit]) = true ↔ max loops 1 ≤ exits calls + 1 := by
    simp [isOver]
  have kept : lastPublished? (calls ++ [.exit]) = lastPublished? calls := by
    simp [Call.publishes?]
  have closed := h.closed_iff
  by_cases last : s.liveLoops - 1 = 0 ∧ s.state ≠ .closed
  · obtain ⟨nothing, going⟩ := last
    have given := timely (by omega)
    obtain ⟨reason, hr⟩ := Option.isSome_iff_exists.1 given
    have short : ¬ max loops 1 ≤ exits calls := by rwa [← before, ← closed]
    have finished : isOver loops (calls ++ [.exit]) = true := later.2 (by omega)
    have exited : s.loopExited =
        (some reason, { s with liveLoops := s.liveLoops - 1, state := .closed }) := by
      simp [loopExited, nothing, going, h.reason, hr]
    rw [exited, if_pos (by omega), hr]
    exact ⟨{
      state := by simp [stateAfter, finished]
      reason := by rw [same, h.reason]
      live := by
        rw [counted]
        dsimp only
        omega
      published := by rw [kept, h.published]
      begun := fun _ => by rw [same, given] }, rfl⟩
  · have exited : s.loopExited = (none, { s with liveLoops := s.liveLoops - 1 }) := by
      simp only [loopExited]
      rw [if_neg last]
    -- Either loops are left, or it was over before.
    have still : isOver loops (calls ++ [.exit]) = isOver loops calls := by
      rw [Bool.eq_iff_iff, later, before]
      constructor
      · intro finished
        apply Classical.byContradiction
        intro short
        have going : s.state ≠ .closed := by rwa [ne_eq, closed, before]
        exact last ⟨by omega, going⟩
      · omega
    have counts : exits calls + 1 ≠ max loops 1 := by
      intro now
      have finished := before.1 (still ▸ later.2 (by omega))
      omega
    rw [exited, if_neg counts]
    exact ⟨{
      state := by rw [stateAfter, still, same, ← stateAfter, ← h.state]
      reason := by rw [same, h.reason]
      live := by
        rw [counted]
        dsimp only
        omega
      published := by rw [kept, h.published]
      begun := by rw [still, same]; exact h.begun }, rfl⟩

theorem Ledger.call (h : Ledger loops calls s) (c : Call)
    (timely : c = .exit → s.liveLoops ≤ 1 → (firstReason? calls).isSome = true) :
    Ledger loops (calls ++ [c]) (s.call c).2 := by
  have keep (other : c ≠ .exit) (quiet : c.begins? = none) (s' : Shutdown)
      (state : s'.state = s.state) (reason : s'.reason = s.reason)
      (live : s'.liveLoops = s.liveLoops) (published : s'.published = c.publishes?.or s.published) :
      Ledger loops (calls ++ [c]) s' :=
    h.keep other (by rw [stateAfter_concat quiet other, state, h.state])
      (by simp [quiet, reason, h.reason]) live published
  cases c with
  | begin reason => exact h.begin reason
  | exit => exact (h.exit (timely rfl)).1
  | _ => exact keep (by simp) rfl _ rfl rfl rfl rfl

theorem ledger_after (calls : List Call) (timely : IsTimely loops calls) :
    Ledger loops calls (after loops calls) := by
  induction calls using List.reverseRecOn with
  | nil => exact ledger_start loops
  | append_singleton calls c ih =>
    have h := ih (timely.of_prefix (List.prefix_append _ _))
    rw [after_concat]
    refine h.call c fun exit few => ?_
    subst exit
    exact isSome_firstReason?.2 (timely calls List.prefix_rfl few)

def follow (view : Option CloseReason) (calls : List Call) : Option CloseReason :=
  calls.foldl (fun view c => c.publishes?.or view) view

theorem follow_lastPublished? (before calls : List Call) :
    follow (lastPublished? before) calls = lastPublished? (before ++ calls) := by
  induction calls generalizing before with
  | nil => simp [follow]
  | cons c rest ih =>
    have later := ih (before ++ [c])
    rw [lastPublished?_concat, List.append_assoc] at later
    exact later

def answersFrom (s : Shutdown) : List Call → List Answer
  | [] => []
  | c :: rest => (s.call c).1 :: answersFrom (s.call c).2 rest

def Answer.handed? : Answer → Option CloseReason
  | .left last => last
  | _ => none

def handedOver (loops : Nat) (calls : List Call) : List CloseReason :=
  (answersFrom (start loops) calls).filterMap Answer.handed?

theorem answersFrom_append (s : Shutdown) (calls more : List Call) :
    answersFrom s (calls ++ more) =
      answersFrom s calls ++ answersFrom (calls.foldl (fun s c => (s.call c).2) s) more := by
  induction calls generalizing s with
  | nil => rfl
  | cons c rest ih => simp [answersFrom, ih]

theorem handedOver_concat (loops : Nat) (calls : List Call) (c : Call) :
    handedOver loops (calls ++ [c]) =
      handedOver loops calls ++ (answer loops calls c).handed?.toList := by
  rw [handedOver, answersFrom_append, List.filterMap_append, handedOver, answer, after]
  cases h : Answer.handed? ((calls.foldl (fun s c => (s.call c).2) (start loops)).call c).1 <;>
    simp [answersFrom, h]

/-- How a shutdown of so many loops comes through a history of calls. -/
structure Orderly (loops : Nat) (calls : List Call) : Prop where
  begins : ∀ before reason, before ++ [.begin reason] <+: calls →
    answer loops before (.begin reason) = .began (firstReason? before).isNone
  /-- One exit is handed the reason, and it is the reason of the first to begin. -/
  exits : ∀ before, before ++ [.exit] <+: calls →
    answer loops before .exit =
        .left (if exits before + 1 = max loops 1 then firstReason? before else none) ∧
      (exits before + 1 = max loops 1 → (firstReason? before).isSome = true)
  handedOver : handedOver loops calls =
    if isOver loops calls then (firstReason? calls).toList else []
  moves : ∀ before c, before ++ [c] <+: calls →
    (after loops before).state.mayBecome (after loops (before ++ [c])).state = true
  reason : ∀ before, before <+: calls → (after loops before).reason = firstReason? before ∧
    ((after loops before).reason.isSome = true ↔ (after loops before).state ≠ .running)
  closed : ∀ before, before <+: calls →
    ((after loops before).state = .closed ↔ max loops 1 ≤ Shutdown.exits before)
  stays : ∀ before more, before ++ more <+: calls → (after loops before).state = .closed →
    (after loops (before ++ more)).state = .closed
  checks : ∀ before, before ++ [.ensure] <+: calls → answer loops before .ensure =
    .checked (if (firstReason? before).isNone then .ok () else .error .closed)
  live : ∀ before, before <+: calls →
    (after loops before).liveLoops + min (Shutdown.exits before) loops = loops
  subscribers : ∀ before more, before ++ .subscribe :: more <+: calls →
    ∃ view, answer loops before .subscribe = .subscribed view ∧
      follow view more = lastPublished? (before ++ .subscribe :: more)

theorem answer_exit (h : Ledger loops calls (after loops calls))
    (timely : (after loops calls).liveLoops ≤ 1 → (firstReason? calls).isSome = true) :
    answer loops calls .exit =
      .left (if exits calls + 1 = max loops 1 then firstReason? calls else none) :=
  congrArg Answer.left (h.exit timely).2

theorem IsTimely.begun (timely : IsTimely loops calls) {before : List Call}
    (le : before ++ [.exit] <+: calls) (few : (after loops before).liveLoops ≤ 1) :
    (firstReason? before).isSome = true :=
  isSome_firstReason?.2 (timely before le few)

theorem handedOver_eq (calls : List Call) (timely : IsTimely loops calls) :
    handedOver loops calls = if isOver loops calls then (firstReason? calls).toList else [] := by
  induction calls using List.reverseRecOn with
  | nil => simp [handedOver, answersFrom, isOver, exits]
  | append_singleton calls c ih =>
    have before := timely.of_prefix (List.prefix_append calls [c])
    have h := ledger_after calls before
    rw [handedOver_concat, ih before]
    by_cases exit : c = .exit
    · subst exit
      rw [answer_exit h (timely.begun List.prefix_rfl)]
      by_cases now : exits calls + 1 = max loops 1
      · have going : isOver loops calls = false := by simp [isOver]; omega
        have finished : isOver loops (calls ++ [.exit]) = true := by simp [isOver]; omega
        simp [now, going, finished, Answer.handed?, Call.begins?]
      · have same : isOver loops (calls ++ [.exit]) = isOver loops calls := by
          simp only [isOver, exits_concat, if_true, decide_eq_decide]
          omega
        simp [now, same, Answer.handed?, Call.begins?]
    · have same : isOver loops (calls ++ [c]) = isOver loops calls := by
        simp [isOver, exit]
      have nothing : (answer loops calls c).handed? = none := by
        cases c with
        | exit => exact absurd rfl exit
        | _ => rfl
      rw [nothing, same, firstReason?_concat]
      cases finished : isOver loops calls with
      | false => simp
      | true =>
        obtain ⟨reason, hr⟩ := Option.isSome_iff_exists.1 (h.begun finished)
        simp [hr]

theorem Ledger.moves {c : Call} {s' : Shutdown} (h : Ledger loops calls s)
    (h' : Ledger loops (calls ++ [c]) s') : s.state.mayBecome s'.state = true := by
  have finished : isOver loops (calls ++ [c]) = true →
      isOver loops calls = true ∨ (firstReason? calls).isSome = true := by
    intro finished
    by_cases exit : c = .exit
    · subst exit
      have given := h'.begun finished
      exact .inr (by simpa [Call.begins?] using given)
    · exact .inl (by simpa [isOver, exit] using finished)
  have grows : isOver loops calls = true → isOver loops (calls ++ [c]) = true := by
    simp only [isOver, exits_concat, decide_eq_true_eq]
    omega
  rw [h.state, h'.state, stateAfter, stateAfter, firstReason?_concat]
  cases was : isOver loops calls with
  | true => simp [grows was, SessionState.mayBecome]
  | false =>
    cases hr : firstReason? calls with
    | none =>
      have still : isOver loops (calls ++ [c]) = false := by
        simpa [was, hr] using mt finished
      cases c.begins? <;> simp [still, SessionState.mayBecome]
    | some reason => cases isOver loops (calls ++ [c]) <;> simp [SessionState.mayBecome]

/-- In every timely history the closing is begun once, the reason is handed over once, and the state
only moves on. -/
theorem hands_over_once (loops : Nat) (calls : List Call) (timely : IsTimely loops calls) :
    Orderly loops calls := by
  have ledger {before : List Call} (le : before <+: calls) :
      Ledger loops before (after loops before) := ledger_after before (timely.of_prefix le)
  have earlier {before more : List Call} (le : before ++ more <+: calls) : before <+: calls :=
    (List.prefix_append before more).trans le
  exact {
    begins := by
      intro before reason le
      have h := ledger (earlier le)
      have running := h.running_iff
      simp only [answer, call, beginClosing]
      cases hr : firstReason? before with
      | none => simp [running, hr]
      | some first => simp [running, hr]
    exits := by
      intro before le
      have h := ledger (earlier le)
      refine ⟨answer_exit h (timely.begun le), fun now => timely.begun le ?_⟩
      have live := h.live
      omega
    handedOver := handedOver_eq calls timely
    moves := fun before c le => (ledger (earlier le)).moves (ledger le)
    reason := by
      intro before le
      have h := ledger le
      refine ⟨h.reason, ?_⟩
      rw [ne_eq, h.running_iff, h.reason, Bool.not_eq_false]
    closed := fun before le => (ledger le).closed_iff.trans decide_eq_true_iff
    stays := by
      intro before more le closed
      have finished := of_decide_eq_true ((ledger (earlier le)).closed_iff.1 closed)
      refine (ledger le).closed_iff.2 (decide_eq_true ?_)
      rw [Shutdown.exits, List.count_append]
      exact Nat.le_add_right_of_le finished
    checks := by
      intro before le
      have running := (ledger (earlier le)).running_iff
      simp only [answer, call, ensureRunning]
      cases hr : firstReason? before <;> simp [running, hr]
    live := fun before le => (ledger le).live
    subscribers := by
      intro before more le
      have h := ledger (earlier le)
      refine ⟨_, rfl, ?_⟩
      have seen := follow_lastPublished? (before ++ [.subscribe]) more
      rw [lastPublished?_concat, List.append_assoc] at seen
      rw [h.published]
      exact seen }

def earlyExit : List Call :=
  [.ensure, .exit, .subscribe, .begin (.fault "lost"), .begin (.cooperative .peer), .ensure, .exit,
    .publish (.fault "lost"), .subscribe, .exit]

theorem hands_over_once_earlyExit :
    IsTimely 2 earlyExit ∧ handedOver 2 earlyExit = [.fault "lost"] ∧
      (after 2 (earlyExit.take 2)).state = .running ∧ (after 2 earlyExit).state = .closed := by
  have timely : IsTimely 2 earlyExit := by decide
  have h := hands_over_once 2 earlyExit timely
  refine ⟨timely, ?_, ?_, ?_⟩
  · rw [h.handedOver]
    decide
  · decide
  · rw [h.closed _ List.prefix_rfl]
    decide

end MessageTunnel.Shutdown
