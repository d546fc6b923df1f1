import MessageTunnel.Foreign.Api
import MessageTunnel.Proofs.Session.Calling
/-!
The calls on a handle against the session behind it. Threads call in any order, and between and
during the calls the session does whatever it does. A call that is turned away leaves the session
alone; any other one is a caller of the session with the same request, and returns what that caller is
answered.
-/
set_option autoImplicit false

namespace MessageTunnel.Foreign

open Session (Action Request Reply Stage Caller turnsOf)

variable {first s : Session} {c : Call} {hasHandle : Bool} {number : Nat}

def Call.isMalformed : Call → Bool
  | stop => false
  | sendStream data length | sendDatagram data length => data.isNone && length != 0

def Call.operation : Call → Request
  | stop => .stop
  | sendStream data length => .sendStream ((data.getD []).take length)
  | sendDatagram data length => .send ((data.getD []).take length)

theorem Call.request_eq (c : Call) :
    c.request = if c.isMalformed then .error .invalidArgument else .ok c.operation := by
  cases c with
  | stop => rfl
  | sendStream data length | sendDatagram data length =>
    cases data with
    | some bytes => rfl
    | none =>
      by_cases empty : length = 0
      · simp [request, readPayload, isMalformed, operation, empty, Functor.map, Except.map]
      · simp [request, readPayload, isMalformed, empty, Functor.map, Except.map]

theorem Call.operation_ne (c : Call) : c.operation ≠ .awaitClosed := by
  cases c <;> simp [operation]

/-- What can happen at the handle of a session: somebody calls, with the handle or with a null
pointer, or the session does or meets anything else. -/
inductive Happening where
  | call (hasHandle : Bool) (c : Call)
  | action (a : Action)

def Call.isRefused (hasHandle : Bool) (c : Call) : Bool := !hasHandle || c.isMalformed

def Happening.actions : Happening → List Action
  | call hasHandle c => if c.isRefused hasHandle then [] else [.request c.operation]
  | action a => [a]

/-- A session and the calls that were made: one has its status at once, or the number of a caller. -/
structure Desk where
  session : Session
  calls : List (Except Status Nat)

namespace Desk

def step (d : Desk) : Happening → Desk
  | .call hasHandle c =>
    match if hasHandle then c.request else .error .invalidArgument with
    | .error status => { d with calls := d.calls ++ [.error status] }
    | .ok r => ⟨d.session.ask r, d.calls ++ [.ok d.session.callers.length]⟩
  | .action a => { d with session := d.session.act a }

def run (d : Desk) (happenings : List Happening) : Desk := happenings.foldl step d

def status? (d : Desk) (call : Nat) : Option Status :=
  match d.calls[call]? with
  | none => none
  | some (.error status) => some status
  | some (.ok number) => (d.session.callers[number]?.bind Caller.reply?).map Status.ofReply

def code? (d : Desk) (call : Nat) : Option Int := (d.status? call).map Status.code

theorem run_cons (d : Desk) (h : Happening) (rest : List Happening) :
    d.run (h :: rest) = (d.step h).run rest := rfl

theorem run_append (d : Desk) (happenings more : List Happening) :
    d.run (happenings ++ more) = (d.run happenings).run more := List.foldl_append

theorem step_refused (d : Desk) (refused : c.isRefused hasHandle = true) :
    d.step (.call hasHandle c) = { d with calls := d.calls ++ [.error .invalidArgument] } := by
  cases hasHandle with
  | false => rfl
  | true =>
    have malformed : c.isMalformed = true := by simpa [Call.isRefused] using refused
    simp [step, c.request_eq, malformed]

theorem step_performed (d : Desk) (formed : c.isMalformed = false) :
    d.step (.call true c) =
      ⟨d.session.ask c.operation, d.calls ++ [.ok d.session.callers.length]⟩ := by
  simp [step, c.request_eq, formed]

theorem session_step (d : Desk) (h : Happening) : (d.step h).session = d.session.run h.actions := by
  cases h with
  | action a => rfl
  | call hasHandle c =>
    cases refused : c.isRefused hasHandle with
    | true => simp [step_refused d refused, Happening.actions, refused, Session.run]
    | false =>
      obtain ⟨rfl, formed⟩ : hasHandle = true ∧ c.isMalformed = false := by
        simpa [Call.isRefused] using refused
      simp [step_performed d formed, Happening.actions, refused, Session.run, Session.act]

theorem session_run (d : Desk) (happenings : List Happening) :
    (d.run happenings).session = d.session.run (happenings.flatMap Happening.actions) := by
  induction happenings generalizing d with
  | nil => rfl
  | cons h rest ih =>
    rw [List.flatMap_cons, Session.run_append, ← session_step]
    exact ih (d.step h)

theorem calls_run (d : Desk) (happenings : List Happening) :
    d.calls <+: (d.run happenings).calls := by
  induction happenings generalizing d with
  | nil => exact List.prefix_rfl
  | cons h rest ih =>
    refine List.IsPrefix.trans ?_ (ih (d.step h))
    cases h with
    | action a => exact List.prefix_rfl
    | call hasHandle c =>
      unfold step
      dsimp only
      split <;> exact List.prefix_append ..

theorem call_run {d d' : Desk} {entry : Except Status Nat} (entered : d'.calls = d.calls ++ [entry])
    (more : List Happening) : (d'.run more).calls[d.calls.length]? = some entry := by
  obtain ⟨rest, same⟩ := calls_run d' more
  rw [← same, entered]
  simp

end Desk

inductive Returns : Stage → Option Int → Prop where
  | pending {stage : Stage} (waits : ∀ reply, stage ≠ .replied reply) : Returns stage none
  | sent {channel : Channel} : Returns (.replied (.sent channel)) (some 0)
  | stopped : Returns (.replied .stopped) (some 0)
  | failed {e : SessionError} :
      Returns (.replied (.failed e)) (some (Status.ofSessionError e).code)

theorem returns_code? {d : Desk} {call : Nat} {stage : Stage}
    (entered : d.calls[call]? = some (.ok number))
    (caller : d.session.callers[number]? = some ⟨c.operation, stage⟩)
    (fit : Caller.isFit ⟨c.operation, stage⟩ = true) : Returns stage (d.code? call) := by
  have code : d.code? call =
      ((Caller.reply? ⟨c.operation, stage⟩).map Status.ofReply).map Status.code := by
    simp [Desk.code?, Desk.status?, entered, caller]
  rw [code]
  cases stage with
  | replied reply =>
    obtain ⟨channel, rfl⟩ | rfl | ⟨e, rfl⟩ := Session.reply_cases fit c.operation_ne
    · exact .sent
    · exact .stopped
    · exact .failed
  | _ => exact .pending (by simp)

theorem Returns.exists_code {code : Option Int} {reply : Reply}
    (h : Returns (.replied reply) code) : ∃ number, code = some number := by
  cases h with
  | pending waits => exact absurd rfl (waits reply)
  | sent | stopped | failed => exact ⟨_, rfl⟩

theorem Returns.not_replied {stage : Stage} (h : Returns stage none) (reply : Reply) :
    stage ≠ .replied reply := by
  rintro rfl
  obtain ⟨number, code⟩ := h.exists_code
  simp at code

theorem Returns.eq_stopped {stage : Stage} (h : Returns stage (some 0))
    (fit : Caller.isFit ⟨.stop, stage⟩ = true) : stage = .replied .stopped := by
  generalize zero : some (0 : Int) = code at h
  cases h with
  | pending => simp at zero
  | sent => simp [Caller.isFit] at fit
  | stopped => rfl
  | @failed e =>
    have code := Option.some.inj zero
    cases e <;> simp [Status.ofSessionError, Status.code] at code

namespace Desk

def start (first : Session) : Desk := ⟨first, []⟩

/-- In these happenings a call is made that is not turned away. -/
structure Makes (happenings before : List Happening) (c : Call) (after : List Happening) :
    Prop where
  order : happenings = before ++ .call true c :: after
  formed : c.isMalformed = false

structure Carries (d d' : Desk) (c : Call) (later : List Action) (stage : Stage) : Prop where
  session : d'.session = (d.session.ask c.operation).run later
  stands : (d.session.ask c.operation).Stands d.session.callers.length c.operation later stage
  fit : Caller.isFit ⟨c.operation, stage⟩ = true
  returns : Returns stage (d'.code? d.calls.length)

theorem Carries.caller {d d' : Desk} {later : List Action} {stage : Stage}
    (h : Carries d d' c later stage) :
    d'.session.callers[d.session.callers.length]? = some ⟨c.operation, stage⟩ := by
  rw [h.session]
  exact h.stands.caller

theorem exists_carries {happenings before after : List Happening} (fresh : first.callers = [])
    (makes : Makes happenings before c after) : ∃ stage,
      Carries ((start first).run before) ((start first).run happenings) c
        (after.flatMap Happening.actions) stage := by
  have called := step_performed ((start first).run before) makes.formed
  have reached : ((start first).run before).session =
      first.run (before.flatMap Happening.actions) := session_run _ _
  have whole : (start first).run happenings =
      (((start first).run before).step (.call true c)).run after := by
    rw [makes.order, run_append, run_cons]
  have session : ((start first).run happenings).session =
      (((start first).run before).session.ask c.operation).run
        (after.flatMap Happening.actions) := by
    rw [whole, session_run, called]
  have fit (later : List Action) :
      ∀ k ∈ ((((start first).run before).session.ask c.operation).run later).callers,
        k.isFit = true := by
    have all := Session.fit_run fresh
      (before.flatMap Happening.actions ++ .request c.operation :: later)
    rwa [Session.run_append, ← reached] at all
  have asked := Session.callers_ask ((start first).run before).session c.operation
  obtain ⟨stage, stands⟩ := Session.exists_stands fit asked c.operation_ne
    (after.flatMap Happening.actions)
  have entered : ((start first).run happenings).calls[((start first).run before).calls.length]? =
      some (.ok ((start first).run before).session.callers.length) := by
    rw [whole]
    exact call_run (by rw [called]) after
  have fits := fit _ _ (List.mem_of_getElem? stands.caller)
  exact ⟨stage, session, stands, fits,
    returns_code? entered (by rw [session]; exact stands.caller) fits⟩

def aloneFrom (d : Desk) (c : Call) : List Happening :=
  .call true c :: List.replicate 8 (.action (.step (.caller d.session.callers.length)))

theorem flatMap_replicate (n : Nat) (a : Action) :
    (List.replicate n (Happening.action a)).flatMap Happening.actions = List.replicate n a := by
  induction n with
  | zero => rfl
  | succ n ih => simp [List.replicate_succ, ih, Happening.actions]

theorem run_aloneFrom (d : Desk) (formed : c.isMalformed = false) :
    (d.run (d.aloneFrom c)).calls[d.calls.length]? = some (.ok d.session.callers.length) ∧
      (d.run (d.aloneFrom c)).session = Session.Schedule.alone (d.session.ask c.operation)
        (.caller d.session.callers.length) := by
  have called := step_performed d formed
  rw [aloneFrom, run_cons]
  constructor
  · exact call_run (by rw [called]) _
  · rw [session_run, called, flatMap_replicate, Session.Script.alone_eq_run]

theorem performOn_eq (d : Desk) (formed : c.isMalformed = false) :
    c.performOn (some d.session) =
      ((d.run (d.aloneFrom c)).status? d.calls.length, some (d.run (d.aloneFrom c)).session) := by
  obtain ⟨entered, session⟩ := run_aloneFrom d formed
  have request : c.request = .ok c.operation := by rw [c.request_eq, formed]; rfl
  unfold status? Call.performOn Call.perform
  rw [entered, request, session]

theorem performOn_refused (malformed : c.isMalformed = true) :
    c.performOn (some s) = (some .invalidArgument, some s) := by
  simp [Call.performOn, Call.perform, c.request_eq, malformed]

theorem isHeld_replicate (held : s.core.IsHeld number) (turns : Nat) :
    (s.run (List.replicate turns (.step (.caller number)))).core.IsHeld number := by
  induction turns generalizing s with
  | zero => exact held
  | succ turns ih =>
    refine ih ?_
    rwa [Session.act_core_of_isHeld held]

/-- Who has no answer after the eight turns is held by the transport. -/
theorem isHeld_of_waits (fresh : first.callers = []) (happenings : List Happening)
    (formed : c.isMalformed = false) :
    let d := (start first).run happenings
    (d.run (d.aloneFrom c)).code? d.calls.length = none →
      (d.run (d.aloneFrom c)).session.core.IsHeld d.session.callers.length := by
  intro d waits
  have makes : Makes (happenings ++ d.aloneFrom c) happenings c
      (List.replicate 8 (.action (.step (.caller d.session.callers.length)))) := ⟨rfl, formed⟩
  obtain ⟨stage, carries⟩ := exists_carries fresh makes
  rw [run_append, flatMap_replicate] at carries
  by_contra free
  have turns : 5 ≤ turnsOf (.caller d.session.callers.length)
      (List.replicate 8 (.step (.caller d.session.callers.length))) := by simp [turnsOf]
  obtain ⟨reply, replied⟩ := carries.stands.answered turns fun moment early held => by
    obtain ⟨rest, whole⟩ := early
    obtain ⟨-, -, only⟩ := List.append_eq_replicate_iff.1 whole
    have stays := isHeld_replicate held rest.length
    rw [← only, ← Session.run_append, whole, ← carries.session] at stays
    exact free stays
  have pending := carries.returns
  rw [waits] at pending
  exact pending.not_replied reply replied

theorem closing_of_stopped (fresh : first.callers = []) {happenings before after : List Happening}
    (makes : Makes happenings before .stop after)
    (stopped : ((start first).run happenings).code? ((start first).run before).calls.length =
      some 0) : ((start first).run happenings).session.state ≠ .running := by
  obtain ⟨stage, carries⟩ := exists_carries fresh makes
  have returns := carries.returns
  rw [stopped] at returns
  have replied := returns.eq_stopped carries.fit
  have closing := Session.closing_of_isStopping fresh (happenings.flatMap Happening.actions)
  rw [show first.run _ = _ from (session_run (start first) happenings).symm] at closing
  exact closing _ (List.mem_of_getElem? carries.caller) (.inr replied)

theorem code?_of_closing (fresh : first.callers = []) {happenings before after : List Happening}
    (makes : Makes happenings before c after)
    (closing : ((start first).run before).session.state ≠ .running) :
    ((start first).run happenings).code? ((start first).run before).calls.length =
      if turnsOf (.caller ((start first).run before).session.callers.length)
        (after.flatMap Happening.actions) = 0 then none else some (-3) := by
  obtain ⟨stage, carries⟩ := exists_carries fresh makes
  have closing : (((start first).run before).session.ask c.operation).state ≠ .running := closing
  have asked := Session.callers_ask ((start first).run before).session c.operation
  have refused := (Session.refuses_of_closing closing asked c.operation_ne
    (after.flatMap Happening.actions)).1
  have told : stage = _ := (Caller.mk.inj
    (Option.some.inj (carries.stands.caller.symm.trans refused))).2
  have returns := carries.returns
  generalize ((start first).run happenings).code? _ = code at returns ⊢
  rw [told] at returns
  split
  next early =>
    rw [if_pos early] at returns
    cases returns
    rfl
  next later =>
    rw [if_neg later] at returns
    cases returns with
    | pending waits => exact absurd rfl (waits _)
    | failed => rfl

end Desk

/-- The calls on a handle are calls of the session's own operations. -/
structure FaithfulCalls (first : Session) (happenings : List Happening) : Prop where
  session : ((Desk.start first).run happenings).session =
    first.run (happenings.flatMap Happening.actions)
  /-- Without a handle, or with a length and no data, a call returns −1 and does nothing else. -/
  refused : ∀ {before hasHandle c after}, happenings = before ++ .call hasHandle c :: after →
    c.isRefused hasHandle = true →
      let d := (Desk.start first).run before
      (d.step (.call hasHandle c)).session = d.session ∧
        ((Desk.start first).run happenings).code? d.calls.length = some (-1)
  performed : ∀ {before c after}, Desk.Makes happenings before c after →
    let d := (Desk.start first).run before
    let d' := (Desk.start first).run happenings
    ∃ stage, d'.session.callers[d.session.callers.length]? = some ⟨c.operation, stage⟩ ∧
      Returns stage (d'.code? d.calls.length)
  /-- It does return, unless the transport holds its write. -/
  returns : ∀ {before c after}, Desk.Makes happenings before c after →
    let d := (Desk.start first).run before
    let later := after.flatMap Happening.actions
    5 ≤ turnsOf (.caller d.session.callers.length) later →
      (∀ moment, moment <+: later →
        ¬ ((d.session.ask c.operation).run moment).core.IsHeld d.session.callers.length) →
      ∃ code, ((Desk.start first).run happenings).code? d.calls.length = some code
  /-- After a stop that returned 0 whoever calls is told −3 at the first turn. -/
  stopped : ∀ {before c after}, Desk.Makes happenings before c after →
    (∃ early late, Desk.Makes before early .stop late ∧
      ((Desk.start first).run before).code? ((Desk.start first).run early).calls.length = some 0) →
    let d := (Desk.start first).run before
    ((Desk.start first).run happenings).code? d.calls.length =
      if turnsOf (.caller d.session.callers.length) (after.flatMap Happening.actions) = 0 then none
      else some (-3)
  atOnce : ∀ {c : Call}, c.isMalformed = false →
    let d := (Desk.start first).run happenings
    c.performOn (some d.session) =
        ((d.run (d.aloneFrom c)).status? d.calls.length, some (d.run (d.aloneFrom c)).session) ∧
      ((c.performOn (some d.session)).1 = none →
        (d.run (d.aloneFrom c)).session.core.IsHeld d.session.callers.length)
  refusedAtOnce : ∀ {c : Call}, c.isMalformed = true →
    let s := ((Desk.start first).run happenings).session
    c.performOn (some s) = (some .invalidArgument, some s)
  nullAtOnce : ∀ c, Call.performOn none c = (some .invalidArgument, none)

theorem faithfulCalls (fresh : first.callers = []) (happenings : List Happening) :
    FaithfulCalls first happenings where
  session := Desk.session_run _ _
  refused := by
    intro before hasHandle c after order refused d
    have called := d.step_refused refused
    refine ⟨by rw [called], ?_⟩
    have whole : (Desk.start first).run happenings =
        (d.step (.call hasHandle c)).run after := by
      rw [order, Desk.run_append, Desk.run_cons]
    have entered := Desk.call_run (congrArg Desk.calls called) after
    rw [whole, Desk.code?, Desk.status?, entered]
    rfl
  performed := by
    intro before c after makes d d'
    obtain ⟨stage, carries⟩ := Desk.exists_carries fresh makes
    exact ⟨stage, carries.caller, carries.returns⟩
  returns := by
    intro before c after makes d later turns free
    obtain ⟨stage, carries⟩ := Desk.exists_carries fresh makes
    obtain ⟨reply, rfl⟩ := carries.stands.answered turns free
    exact carries.returns.exists_code
  stopped := by
    rintro before c after makes ⟨early, late, stop, returned⟩
    exact Desk.code?_of_closing fresh makes (Desk.closing_of_stopped fresh stop returned)
  atOnce := by
    intro c formed d
    have eq := d.performOn_eq formed
    refine ⟨eq, fun waits => Desk.isHeld_of_waits fresh happenings formed ?_⟩
    rw [eq] at waits
    exact congrArg (Option.map Status.code) waits
  refusedAtOnce := fun malformed => Desk.performOn_refused malformed
  nullAtOnce := fun _ => rfl

example :
    let first := Session.spawn (.ofNumber 2) .server (.new none) Session.untraced 0
    let stop := .call true .stop :: List.replicate 3 (.action (.step (.caller 0)))
    let late := [.call true (.sendStream (some [7]) 1), .action (.step (.caller 1))]
    let d := (Desk.start first).run (stop ++ late)
    d.code? 0 = some 0 ∧ d.code? 1 = some (-3) := by
  decide +kernel

end MessageTunnel.Foreign
