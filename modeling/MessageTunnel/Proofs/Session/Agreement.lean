import Mathlib.Data.List.Induction
import MessageTunnel.Proofs.Session.Losses
/-!
Two sessions at the two ends of a connection. What one end says when it closes reaches the other end
some time later, or never if the connection is lost, and crosses whatever is under way there. Each
end closes for its own reason; yet the two reasons agree.
-/
set_option autoImplicit false

namespace MessageTunnel

inductive Side where
  | left
  | right
  deriving DecidableEq, Repr

def Side.other : Side → Side
  | left => right
  | right => left

structure Pair where
  left : Session
  right : Session

namespace Session

theorem Acts.calls_grow {c c' : Core} {a : Action} {effects : List Effect}
    (h : Acts c a c' effects) : c.link.calls <+: c'.link.calls := by
  cases h with
  | moves move =>
    cases move with
    | endReader reader move | endAcceptor acceptor move =>
      obtain ⟨made, calls, -⟩ := move.sends
      exact ⟨made, calls.symm⟩
    | call caller move =>
      cases move with
      | send out move =>
        obtain ⟨made, calls, -⟩ := move.sends
        exact ⟨made, calls.symm⟩
      | stopHangUp => exact ⟨[.close .cooperative], rfl⟩
      | _ => exact List.prefix_rfl
    | _ => exact List.prefix_rfl
  | @event e => cases e <;> exact List.prefix_rfl
  | _ => exact List.prefix_rfl

/-- What the calls of a session tell of its reason to close, and that reason of its troubles. -/
structure Accounts (s : Session) (known : List TransportError) : Prop where
  closed : s.state = .closed → ∃ reason, s.shutdown.reason = some reason
  origin : ∀ reason, s.shutdown.reason = some reason →
    reason = .cooperative .here ∨ ∃ e ∈ known, reason = lossReason e
  stopped : .close .cooperative ∈ s.link.calls → s.shutdown.reason = some (.cooperative .here) ∧
    ∃ k ∈ s.callers, k.request = .stop ∧ k.reply? = some .stopped
  closes : ∀ notice, .close notice ∈ s.link.calls → notice = .cooperative ∨
    ∃ detail, s.shutdown.reason = some (.fault detail)

theorem request_of_stopped {k : Caller} (fit : k.isFit = true) (stopped : k.hasStopped = true) :
    k.request = .stop := by
  obtain ⟨request, stage⟩ := k
  cases stage with
  | replied reply =>
    obtain rfl : reply = .stopped := by simpa [Caller.hasStopped, Caller.reply?] using stopped
    cases request with
    | stop => rfl
    | _ => simp [Caller.isFit] at fit
  | _ => simp [Caller.hasStopped, Caller.reply?] at stopped

theorem accounts_run (id : ConnectionId) (options : Options) (limit : Option Nat)
    (registry : Trace.Registry) (clock : Nat) (actions : List Action) :
    Accounts ((spawn id options (.new limit) registry clock).run actions) (troubles actions) := by
  obtain ⟨balance, -⟩ := balance_run id options (.new limit) registry clock actions
  have closing := closing_run id options (.new limit) registry clock actions
  have snd := begunBy_snd (spawn id options (.new limit) registry clock) actions
  have core := core_spawn id options (.new limit) registry clock
  have origin (reason : CloseReason)
      (given : ((spawn id options (.new limit) registry clock).run actions).shutdown.reason =
        some reason) :=
    reason_origin id options limit registry clock actions given
  have callers : (spawn id options (.new limit) registry clock).callers = [] :=
    congrArg Core.callers core
  have calls : (spawn id options (.new limit) registry clock).link.calls = [] :=
    congrArg (·.link.calls) core
  generalize spawn id options (.new limit) registry clock = first at *
  have begun_eq := snd.trans closing.taken_eq
  have noticed {notice : CloseNotice} (mem : .close notice ∈ (first.run actions).link.calls) :
      notice ∈ noticesSince first actions := by
    rw [noticesSince, callsSince, calls]
    exact List.mem_filterMap.2 ⟨_, mem, rfl⟩
  exact {
    closed := by
      intro closed
      have ended : (first.run actions).core.shutdown.state ≠ .running := fun running => by
        simp [show (first.run actions).core.shutdown.state = .closed from closed] at running
      rw [Ne, closing.closure.running_iff] at ended
      exact Option.ne_none_iff_exists'.1 ended
    origin := origin
    stopped := by
      intro mem
      have stopped : 0 < (first.run actions).core.callers.countP Caller.hasStopped := by
        rw [← balance.stopped]
        exact List.count_pos_iff.2 (noticed mem)
      obtain ⟨⟨t, reason⟩, began, due⟩ := balance.exists_due (noticed mem)
      have given := List.mem_map_of_mem (f := Prod.snd) began
      rw [begun_eq, Option.mem_toList] at given
      refine ⟨?_, ?_⟩
      · cases t with
        | caller number =>
          rw [← reason_of_caller began]
          exact given
        | _ => cases reason <;> simp [due?, lossNotice?, CloseNotice.cooperative,
            CloseNotice.fault] at due
      · obtain ⟨k, mem, hk⟩ := List.countP_pos_iff.1 stopped
        exact ⟨k, mem, request_of_stopped (fit_run callers actions k mem) hk,
          by simpa [Caller.hasStopped] using hk⟩
    closes := by
      intro notice mem
      obtain ⟨b, -, due⟩ := balance.exists_due (noticed mem)
      obtain rfl | rfl := due?_mem due
      · exact .inl rfl
      · exact .inr (balance.fault_given begun_eq (noticed mem)) }

def EndsWith (s : Session) (reason : CloseReason) : Prop :=
  s.state = .closed ∧ s.shutdown.reason = some reason

end Session

open Session (Action Accounts troubles lossReason)

namespace Pair

def session (p : Pair) : Side → Session
  | .left => p.left
  | .right => p.right

def act (p : Pair) : Side × Action → Pair
  | (.left, a) => { p with left := p.left.act a }
  | (.right, a) => { p with right := p.right.act a }

def run (p : Pair) (actions : List (Side × Action)) : Pair := actions.foldl act p

/-- What the connection allows to happen at an end: it is closed by the peer only with a notice that
the other end gave, and all errors that come from elsewhere are faults. -/
def admits (p : Pair) : Side × Action → Bool
  | (side, .event (.peerClosed notice)) =>
    (p.session side.other).link.calls.contains (.close notice)
  | (_, .event (.broken e)) | (_, .event (.datagram (.error e))) | (_, .event (.acceptFailed e)) =>
    e.disposition == .fault
  | _ => true

def isLawful (p : Pair) : List (Side × Action) → Bool
  | [] => true
  | x :: rest => p.admits x && (p.act x).isLawful rest

end Pair

def actionsAt (side : Side) (actions : List (Side × Action)) : List Action :=
  actions.filterMap fun x => if x.1 = side then some x.2 else none

def faultOf? : Action → Option TransportError
  | .event (.broken e) => some e
  | a => a.loss?

def faultsIn (actions : List (Side × Action)) : List TransportError :=
  actions.filterMap fun x => faultOf? x.2

variable {p first : Pair} {side : Side} {x : Side × Action} {a : Action}
  {actions : List (Side × Action)} {e : TransportError} {notice : CloseNotice}

namespace Pair

theorem run_concat (p : Pair) (actions : List (Side × Action)) (x : Side × Action) :
    p.run (actions ++ [x]) = (p.run actions).act x := by
  simp [run]

theorem isLawful_concat (p : Pair) (actions : List (Side × Action)) (x : Side × Action) :
    p.isLawful (actions ++ [x]) = (p.isLawful actions && (p.run actions).admits x) := by
  induction actions generalizing p with
  | nil => simp [isLawful, run]
  | cons y rest ih => simp [isLawful, ih, run, Bool.and_assoc]

theorem session_act (p : Pair) (x : Side × Action) (side : Side) :
    (p.act x).session side =
      if x.1 = side then (p.session side).act x.2 else p.session side := by
  obtain ⟨here, a⟩ := x
  cases here <;> cases side <;> rfl

theorem session_run (p : Pair) (actions : List (Side × Action)) (side : Side) :
    (p.run actions).session side = (p.session side).run (actionsAt side actions) := by
  induction actions generalizing p with
  | nil => rfl
  | cons x rest ih =>
    have here : (p.run (x :: rest)).session side = ((p.act x).run rest).session side := rfl
    rw [here, ih, session_act]
    by_cases same : x.1 = side
    · simp [actionsAt, same, Session.run]
    · simp [actionsAt, same]

theorem calls_grow (p : Pair) (x : Side × Action) (side : Side) :
    (p.session side).link.calls <+: ((p.act x).session side).link.calls := by
  rw [session_act]
  split
  · exact (Session.acts (p.session side) x.2).calls_grow
  · exact List.prefix_rfl

end Pair

theorem trouble?_cases (h : a.trouble? = some e) :
    faultOf? a = some e ∨ ∃ notice, a = .event (.peerClosed notice) ∧ e = .ofNotice notice := by
  unfold Action.trouble? at h
  split at h
  · exact .inr ⟨_, rfl, (Option.some.inj h).symm⟩
  · exact .inl h
  · refine .inl ?_
    unfold faultOf?
    split
    · simp [Action.loss?] at h
    · exact h

theorem disposition_of_faultOf? (admitted : p.admits (side, a) = true)
    (fault : faultOf? a = some e) : e.disposition = .fault := by
  unfold faultOf? at fault
  split at fault
  · obtain rfl := Option.some.inj fault
    exact eq_of_beq admitted
  · unfold Action.loss? at fault
    split at fault
    · obtain rfl := Option.some.inj fault
      exact eq_of_beq admitted
    · obtain rfl := Option.some.inj fault
      exact eq_of_beq admitted
    · simp at fault

theorem mem_troubles_concat (mem : e ∈ troubles (actionsAt side (actions ++ [x]))) :
    e ∈ troubles (actionsAt side actions) ∨ x.1 = side ∧ x.2.trouble? = some e := by
  obtain ⟨a, ha, trouble⟩ := List.mem_filterMap.1 mem
  obtain ⟨y, hy, here⟩ := List.mem_filterMap.1 ha
  obtain old | new := List.mem_append.1 hy
  · exact .inl (List.mem_filterMap.2 ⟨a, List.mem_filterMap.2 ⟨y, old, here⟩, trouble⟩)
  · obtain rfl := List.mem_singleton.1 new
    by_cases same : y.1 = side
    · obtain rfl : y.2 = a := by simpa [same] using here
      exact .inr ⟨same, trouble⟩
    · simp [same] at here

/-- Each trouble at an end is a fault, or the other end has caused it. -/
theorem trouble_origin (lawful : first.isLawful actions = true)
    (mem : e ∈ troubles (actionsAt side actions)) : e.disposition = .fault ∨
      ∃ notice, e = .ofNotice notice ∧
        .close notice ∈ ((first.run actions).session side.other).link.calls := by
  -- The induction is on the end of the run: what was said before has not been taken back.
  induction actions using List.reverseRecOn with
  | nil => simp [actionsAt, troubles] at mem
  | append_singleton actions x ih =>
    rw [Pair.isLawful_concat, Bool.and_eq_true] at lawful
    rw [Pair.run_concat]
    have later := ((first.run actions).calls_grow x side.other).subset
    obtain old | ⟨rfl, trouble⟩ := mem_troubles_concat mem
    · obtain fault | ⟨notice, he, caused⟩ := ih lawful.1 old
      · exact .inl fault
      · exact .inr ⟨notice, he, later caused⟩
    · obtain ⟨side, a⟩ := x
      obtain fault | ⟨notice, rfl, he⟩ := trouble?_cases trouble
      · exact .inl (disposition_of_faultOf? lawful.2 fault)
      · exact .inr ⟨notice, he, later (List.contains_iff_mem.1 lawful.2)⟩

theorem lossReason_cooperative : lossReason (.ofNotice .cooperative) = .cooperative .peer := rfl

theorem eq_of_lossReason (h : lossReason e = .cooperative .peer) : e = .ofNotice .cooperative := by
  unfold Session.lossReason at h
  split at h
  · simp at h
  · split at h
    · assumption
    · simp at h

theorem troubles_of_faultless (lawful : first.isLawful actions = true)
    (accounts : ∀ side actions, Accounts ((first.session side).run actions) (troubles actions))
    (faultless : faultsIn actions = []) (mem : e ∈ troubles (actionsAt side actions)) :
    e = .ofNotice .cooperative := by
  induction actions using List.reverseRecOn generalizing side e with
  | nil => simp [actionsAt, troubles] at mem
  | append_singleton actions x ih =>
    rw [Pair.isLawful_concat, Bool.and_eq_true] at lawful
    rw [faultsIn, List.filterMap_append, List.append_eq_nil_iff] at faultless
    obtain old | ⟨rfl, trouble⟩ := mem_troubles_concat mem
    · exact ih lawful.1 faultless.1 old
    · obtain ⟨side, a⟩ := x
      obtain fault | ⟨notice, rfl, rfl⟩ := trouble?_cases trouble
      · simp [fault] at faultless
      · -- The other end would have closed for a fault, but nothing it was told of is one.
        have other := accounts side.other (actionsAt side.other actions)
        have caused := List.contains_iff_mem.1 lawful.2
        rw [Pair.session_run] at caused
        obtain rfl | ⟨detail, fault⟩ := other.closes notice caused
        · rfl
        · obtain here | ⟨e, told, reason⟩ := other.origin _ fault
          · simp at here
          · rw [ih lawful.1 faultless.1 told, lossReason_cooperative] at reason
            simp at reason

/-- What the two ends of a connection close for that started as `first`. -/
structure EndsAgree (first : Pair) (actions : List (Side × Action)) : Prop where
  peer : ∀ side, ((first.run actions).session side).EndsWith (.cooperative .peer) →
    ((first.run actions).session side.other).state = .closed →
    ((first.run actions).session side.other).EndsWith (.cooperative .here) ∧
      ∃ k ∈ ((first.run actions).session side.other).callers,
        k.request = .stop ∧ k.reply? = some .stopped
  not_both : ¬ ∀ side, ((first.run actions).session side).EndsWith (.cooperative .peer)
  faultless : faultsIn actions = [] →
    (∀ side, ((first.run actions).session side).state = .closed) →
    (∀ side detail, ¬ ((first.run actions).session side).EndsWith (.fault detail)) ∧
      ∃ side, ((first.run actions).session side).EndsWith (.cooperative .here)
  fault : ∀ side detail, ((first.run actions).session side).EndsWith (.fault detail) →
    ¬ ((first.run actions).session side.other).EndsWith (.cooperative .peer)

theorem Side.other_other (side : Side) : side.other.other = side := by cases side <;> rfl

/-- However stops, sends and faults at two ends run into each other, what they close for agrees. -/
theorem ends_agree (id₁ id₂ : ConnectionId) (options₁ options₂ : Session.Options)
    (limit₁ limit₂ : Option Nat) (registry₁ registry₂ : Trace.Registry) (clock₁ clock₂ : Nat)
    (actions : List (Side × Action))
    (lawful : Pair.isLawful ⟨.spawn id₁ options₁ (.new limit₁) registry₁ clock₁,
      .spawn id₂ options₂ (.new limit₂) registry₂ clock₂⟩ actions = true) :
    EndsAgree ⟨.spawn id₁ options₁ (.new limit₁) registry₁ clock₁,
      .spawn id₂ options₂ (.new limit₂) registry₂ clock₂⟩ actions := by
  have accounts (side : Side) (actions : List Action) : Accounts
      ((Pair.session ⟨.spawn id₁ options₁ (.new limit₁) registry₁ clock₁,
        .spawn id₂ options₂ (.new limit₂) registry₂ clock₂⟩ side).run actions)
      (troubles actions) := by
    cases side with
    | left => exact Session.accounts_run ..
    | right => exact Session.accounts_run ..
  generalize (⟨.spawn id₁ options₁ (.new limit₁) registry₁ clock₁,
    .spawn id₂ options₂ (.new limit₂) registry₂ clock₂⟩ : Pair) = first at *
  have ends (side : Side) : Accounts ((first.run actions).session side)
      (troubles (actionsAt side actions)) := by
    rw [Pair.session_run]
    exact accounts side _
  -- Only a notice of the other end is an error that says it closed in agreement.
  have stopped (side : Side)
      (peer : ((first.run actions).session side).shutdown.reason = some (.cooperative .peer)) :
      .close .cooperative ∈ ((first.run actions).session side.other).link.calls := by
    obtain here | ⟨e, told, reason⟩ := (ends side).origin _ peer
    · simp at here
    · obtain rfl := eq_of_lossReason reason.symm
      obtain fault | ⟨⟨code, text⟩, he, caused⟩ := trouble_origin lawful told
      · simp [TransportError.disposition, TransportError.ofNotice] at fault
      · obtain ⟨rfl, rfl⟩ := TransportError.applicationClosed.inj he
        exact caused
  have other (side : Side)
      (peer : ((first.run actions).session side).shutdown.reason = some (.cooperative .peer)) :=
    (ends side.other).stopped (stopped side peer)
  exact {
    peer := fun side peer closed => ⟨⟨closed, (other side peer.2).1⟩, (other side peer.2).2⟩
    not_both := by
      intro both
      have here := (other .left (both .left).2).1
      rw [show Side.left.other = .right from rfl, (both .right).2] at here
      simp at here
    faultless := by
      intro faultless closed
      have agreed (side : Side) : ((first.run actions).session side).shutdown.reason =
            some (.cooperative .here) ∨
          ((first.run actions).session side).shutdown.reason = some (.cooperative .peer) := by
        obtain ⟨reason, given⟩ := (ends side).closed (closed side)
        obtain rfl | ⟨e, told, rfl⟩ := (ends side).origin reason given
        · exact .inl given
        · obtain rfl := troubles_of_faultless lawful accounts faultless told
          exact .inr given
      refine ⟨fun side detail failed => ?_, ?_⟩
      · have fault := failed.2
        obtain given | given := agreed side <;> simp [given] at fault
      · obtain here | peer := agreed .left
        · exact ⟨.left, closed .left, here⟩
        · exact ⟨.right, closed .right, (other .left peer).1⟩
    fault := by
      intro side detail fault peer
      have here := (other side.other peer.2).1
      rw [side.other_other, fault.2] at here
      simp at here }

def twoEnds : Pair :=
  ⟨.spawn (.ofNumber 1) .client (.new none) Session.untraced 0,
    .spawn (.ofNumber 1) .server (.new none) Session.untraced 0⟩

def itsLoops : List Action :=
  List.replicate 3 (.step .reader) ++ List.replicate 8 (.step .acceptor)

def stopAtLeft : List (Side × Action) :=
  (.left, .request .stop) :: List.replicate 2 (.left, .step (.caller 0)) ++
    (.right, .event (.peerClosed .cooperative)) :: itsLoops.map (.left, ·) ++
    itsLoops.map (.right, ·)

theorem ends_agree_stopAtLeft :
    twoEnds.isLawful stopAtLeft = true ∧
      ((twoEnds.run stopAtLeft).session .right).EndsWith (.cooperative .peer) ∧
      ((twoEnds.run stopAtLeft).session .left).EndsWith (.cooperative .here) ∧
      ∃ k ∈ ((twoEnds.run stopAtLeft).session .left).callers,
        k.request = .stop ∧ k.reply? = some .stopped := by
  have lawful : twoEnds.isLawful stopAtLeft = true := by decide +kernel
  have right : ((twoEnds.run stopAtLeft).session .right).EndsWith (.cooperative .peer) :=
    ⟨by decide +kernel, by decide +kernel⟩
  have left : ((twoEnds.run stopAtLeft).session .left).state = .closed := by decide +kernel
  have agree : EndsAgree twoEnds stopAtLeft := ends_agree (.ofNumber 1) (.ofNumber 1) .client
    .server none none Session.untraced Session.untraced 0 0 stopAtLeft lawful
  exact ⟨lawful, right, agree.peer .right right left⟩

end MessageTunnel
