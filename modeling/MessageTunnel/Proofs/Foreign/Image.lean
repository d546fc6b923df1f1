import MessageTunnel.Proofs.Foreign.Calls
import MessageTunnel.Proofs.Session.Callbacks
import MessageTunnel.Proofs.Text.Utf8
import MessageTunnel.Proofs.Trace.Registry
/-!
What a session says to its host, and what arrives on the other side. Each callback that is there is
called in its turn with the same data; a missing one is left out and changes nothing else. Strings
cross whole, because none holds a zero: the name of a trace has no such character, and the detail of
a fault has a space in place of each.
-/
set_option autoImplicit false

namespace MessageTunnel.Foreign

open Session (Action Effect Options)

variable {id : ConnectionId} {callbacks : Callbacks} {effects : List Effect} {text : String}
  {name : String} {e : Effect}

def cString (text : String) : CString := some (Utf8.encode text.toList ++ [0])

def HoldsNul (text : String) : Prop := '\x00' ∈ text.toList

theorem toNat_eq_zero_iff {c : Char} : c.toNat = 0 ↔ c = '\x00' :=
  ⟨fun zero => by rw [← Char.ofNat_toNat c, zero], fun nul => by rw [nul]; rfl⟩

theorem zero_mem_encode_iff : (0 : UInt8) ∈ Utf8.encode text.toList ↔ HoldsNul text := by
  constructor
  · intro mem
    obtain high | ⟨c, here, nul⟩ := Utf8.mem_encode mem
    · simp at high
    · obtain rfl := toNat_eq_zero_iff.1 nul
      exact here
  · exact fun nul => List.mem_flatMap.2 ⟨_, nul, by decide⟩

theorem readText_cString (plain : ¬ HoldsNul text) : readText (cString text) = .ok text := by
  have nonzero : ∀ b ∈ Utf8.encode text.toList, decide (b ≠ 0) = true := by
    intro b mem
    have : b ≠ 0 := fun zero => plain (zero_mem_encode_iff.1 (zero ▸ mem))
    exact decide_eq_true this
  have whole : (Utf8.encode text.toList ++ [0]).takeWhile (· ≠ 0) = Utf8.encode text.toList := by
    rw [List.takeWhile_append_of_pos nonzero]
    simp
  simp only [readText, cString, whole, Utf8.decode_encode, String.ofList_toList]

theorem nulPosition_eq_none_iff : nulPosition text = none ↔ ¬ HoldsNul text := by
  rw [← zero_mem_encode_iff, nulPosition, List.findIdx?_eq_none_iff]
  constructor
  · intro none mem
    simpa using none 0 mem
  · intro absent b mem
    have : b ≠ 0 := fun zero => absent (zero ▸ mem)
    simpa using this

theorem not_holdsNul_traceName (id : ConnectionId) : ¬ HoldsNul (Trace.traceName id) := fun nul =>
  absurd (Trace.mem_traceName nul) (by decide +kernel)

/-- The number and the text with which a host is told of the end. -/
inductive Tells : CloseReason → Nat → String → Prop where
  | here : Tells (.cooperative .here) 0 ""
  | peer : Tells (.cooperative .peer) 1 ""
  | fault {detail cleaned : String}
      (cleans : cleaned.toList = detail.toList.map fun c => if c = '\x00' then ' ' else c) :
      Tells (.fault detail) 2 cleaned

/-- What a host is told, against what the session says. -/
inductive Mirrors : Effect → Notice → Prop where
  | message {payload : Payload} : Mirrors (.message payload) (.message payload)
  | fileName {name : String} : Mirrors (.announced name) (.fileName name)
  | closed {reason : CloseReason} {kind : CloseKind} {detail : String}
      (tells : Tells reason kind.code detail) :
      Mirrors (.sessionClosed reason) (.closed kind detail)

def Callbacks.hasFor (callbacks : Callbacks) : Effect → Bool
  | .message _ => callbacks.onMessage
  | .announced _ => callbacks.onFileName
  | .sessionClosed _ => callbacks.onClosed
  | _ => false

theorem Tells.not_holdsNul {reason : CloseReason} {kind : Nat} (tells : Tells reason kind text) :
    ¬ HoldsNul text := by
  cases tells with
  | here | peer => simp [HoldsNul]
  | fault cleans =>
    intro nul
    rw [HoldsNul, cleans] at nul
    obtain ⟨c, -, same⟩ := List.mem_map.1 nul
    split at same
    · exact absurd same (by decide)
    · exact absurd same ‹_›

theorem mirrors_closeNotice (reason : CloseReason) :
    Mirrors (.sessionClosed reason) (closeNotice reason) := by
  cases reason with
  | cooperative initiator =>
    cases initiator with
    | here => exact .closed .here
    | peer => exact .closed .peer
  | fault detail => exact .closed (.fault (by simp [withoutNul, toNat_eq_zero_iff]))

inductive Delivers (callbacks : Callbacks) (e : Effect) : List Notice × List Log.Entry → Prop where
  | told {n : Notice} (has : callbacks.hasFor e = true) (mirrors : Mirrors e n) :
      Delivers callbacks e ([n], [])
  | silent (absent : callbacks.hasFor e = false) : Delivers callbacks e ([], [])
  | unnamed {name message : String} (has : callbacks.hasFor e = true) (of : e = .announced name)
      (nul : HoldsNul name) : Delivers callbacks e ([], [.nameUnrepresentable message])

theorem delivers (callbacks : Callbacks) (e : Effect) :
    Delivers callbacks e (callbacks.deliver e) := by
  cases has : callbacks.hasFor e with
  | false =>
    have silent : callbacks.deliver e = ([], []) := by
      cases e <;> simp_all [Callbacks.hasFor, Callbacks.deliver]
    rw [silent]
    exact .silent has
  | true =>
    cases e with
    | message payload =>
      have wanted : callbacks.onMessage = true := has
      simp only [Callbacks.deliver, wanted]
      exact .told has .message
    | sessionClosed reason =>
      have wanted : callbacks.onClosed = true := has
      simp only [Callbacks.deliver, wanted]
      exact .told has (mirrors_closeNotice reason)
    | announced name =>
      have wanted : callbacks.onFileName = true := has
      cases position : nulPosition name with
      | none =>
        simp only [Callbacks.deliver, wanted, position]
        exact .told has .fileName
      | some byte =>
        simp only [Callbacks.deliver, wanted, position]
        refine .unnamed has rfl ?_
        by_contra plain
        simp [nulPosition_eq_none_iff.2 plain] at position
    | traced | released | published | logged => simp [Callbacks.hasFor] at has

def Callbacks.heard (callbacks : Callbacks) (effects : List Effect) : List Notice :=
  effects.flatMap fun e => (callbacks.deliver e).1

def Callbacks.missed (callbacks : Callbacks) (effects : List Effect) : List Log.Entry :=
  effects.flatMap fun e => (callbacks.deliver e).2

def Notice.texts : Notice → List String
  | .message _ => []
  | .fileName name => [name]
  | .closed _ detail => [detail]

def Notice.isClosed : Notice → Bool
  | .closed _ _ => true
  | _ => false

/-- A host hears what the session says, as far as it has callbacks for it. -/
structure FaithfulNotices (callbacks : Callbacks) (effects : List Effect) : Prop where
  /-- One call for each that the host wants, in the same order and with the same data. -/
  same : List.Forall₂ Mirrors (effects.filter callbacks.hasFor) (callbacks.heard effects)
  missed : callbacks.missed effects = []
  texts : ∀ n ∈ callbacks.heard effects, ∀ text ∈ n.texts, readText (cString text) = .ok text

theorem Mirrors.not_holdsNul {n : Notice} (mirrors : Mirrors e n)
    (plain : ∀ name, e = .announced name → ¬ HoldsNul name) :
    ∀ text ∈ n.texts, ¬ HoldsNul text := by
  intro text mem
  cases mirrors with
  | message => simp [Notice.texts] at mem
  | fileName =>
    obtain rfl := List.mem_singleton.1 mem
    exact plain _ rfl
  | closed tells =>
    obtain rfl := List.mem_singleton.1 mem
    exact tells.not_holdsNul

theorem faithfulNotices (callbacks : Callbacks)
    (plain : ∀ name, .announced name ∈ effects → ¬ HoldsNul name) :
    FaithfulNotices callbacks effects := by
  induction effects with
  | nil => exact ⟨.nil, rfl, by simp [Callbacks.heard]⟩
  | cons e rest ih =>
    obtain ⟨same, missed, texts⟩ := ih fun name mem => plain name (List.mem_cons_of_mem e mem)
    have heard : callbacks.heard (e :: rest) = (callbacks.deliver e).1 ++ callbacks.heard rest :=
      List.flatMap_cons
    have lost : callbacks.missed (e :: rest) = (callbacks.deliver e).2 ++ callbacks.missed rest :=
      List.flatMap_cons
    have delivered := delivers callbacks e
    generalize callbacks.deliver e = outcome at heard lost delivered
    cases delivered with
    | @told n has mirrors =>
      have crosses := mirrors.not_holdsNul fun name of => plain name (of ▸ List.mem_cons_self)
      rw [List.singleton_append] at heard
      refine ⟨?_, lost.trans missed, ?_⟩
      · rw [heard, List.filter_cons_of_pos has]
        exact .cons mirrors same
      · rw [heard]
        intro n' mem text here
        obtain rfl | mem := List.mem_cons.1 mem
        · exact readText_cString (crosses text here)
        · exact texts n' mem text here
    | silent absent =>
      refine ⟨?_, lost.trans missed, by rwa [heard]⟩
      rw [heard, List.filter_cons_of_neg (by simp [absent])]
      exact same
    | unnamed has of nul => exact absurd nul (plain _ (of ▸ List.mem_cons_self))

theorem eq_of_announced_writerFor (registry : Trace.Registry) (clock : Nat)
    (mem : .announced name ∈ (registry.writerFor id clock).2.1) : name = Trace.traceName id := by
  have refers := registry.refers id clock
  generalize registry.writerFor id clock = outcome,
    registry.opening? (.writerFor id clock) = opening at refers mem
  cases refers with
  | disabled | found | blocked => simp at mem
  | opened => simpa using mem

theorem announced_of_log_trace {s : Session} {event : TraceEvent} {entry : Log.Entry}
    (mem : .announced name ∈ ((s.trace event).log entry).history) :
    .announced name ∈ s.history := by
  obtain ⟨entries, told⟩ := Session.trace_history s event
  simpa [Session.log, Session.emit, told] using mem

theorem announced_of_ofNotice {notices : List Trace.Notice}
    (mem : .announced name ∈ notices.map Effect.ofNotice) : .announced name ∈ notices := by
  obtain ⟨notice, here, same⟩ := List.mem_map.1 mem
  cases notice with
  | announced fileName =>
    obtain rfl := Effect.announced.inj same
    exact here
  | logged entry => simp [Effect.ofNotice] at same

theorem eq_of_announced_spawn {options : Options} {link : Link} {registry : Trace.Registry}
    {clock : Nat} (mem : .announced name ∈ (Session.spawn id options link registry clock).history) :
    name = Trace.traceName id := by
  apply eq_of_announced_writerFor registry clock
  unfold Session.spawn at mem
  split at mem
  next writer notices registry' made =>
    rw [made]
    apply announced_of_ofNotice
    have before := announced_of_log_trace mem
    cases writer with
    | error e => simpa [Session.log, Session.emit] using before
    | ok writer => exact before

theorem eq_of_announced_run {options : Options} {link : Link} {registry : Trace.Registry}
    {clock : Nat} (actions : List Action) :
    .announced name ∈ ((Session.spawn id options link registry clock).run actions).history →
      name = Trace.traceName id := by
  refine Session.run_induction (P := fun _ s => .announced name ∈ s.history →
    name = Trace.traceName id) eq_of_announced_spawn ?_ actions
  intro actions a ih mem
  rw [Session.history_act] at mem
  obtain before | now := List.mem_append.1 mem
  · exact ih before
  · exact absurd now (Session.announced_notMem_news _ a name)

theorem countP_isClosed {notices : List Notice} (same : List.Forall₂ Mirrors effects notices) :
    notices.countP Notice.isClosed = (effects.filterMap Effect.closeReason?).length := by
  induction same with
  | nil => rfl
  | @cons e n _ _ mirrors _ ih =>
    cases mirrors with
    | message | fileName =>
      rw [List.countP_cons_of_neg (by simp [Notice.isClosed]), List.filterMap_cons_none rfl]
      exact ih
    | @closed reason =>
      have told : (Effect.sessionClosed reason).closeReason? = some reason := rfl
      rw [List.countP_cons_of_pos rfl, List.filterMap_cons_some told, List.length_cons, ih]

structure FaithfulImage (first : Session) (happenings : List Happening) : Prop where
  calls : FaithfulCalls first happenings
  notices : ∀ callbacks : Callbacks,
    FaithfulNotices callbacks ((Desk.start first).run happenings).session.history
  once : ∀ callbacks : Callbacks,
    (callbacks.heard ((Desk.start first).run happenings).session.history).countP
      Notice.isClosed ≤ 1

/-- Whatever is called and whatever happens, the C interface shows the session as it is. -/
theorem faithful_image (id : ConnectionId) (options : Options) (link : Link)
    (registry : Trace.Registry) (clock : Nat) (happenings : List Happening) :
    FaithfulImage (Session.spawn id options link registry clock) happenings := by
  obtain ⟨first, spawned⟩ : ∃ first, first = Session.spawn id options link registry clock :=
    ⟨_, rfl⟩
  rw [← spawned]
  have fresh : first.callers = [] := by
    rw [spawned]
    exact congrArg Session.Core.callers (Session.core_spawn id options link registry clock)
  have session : ((Desk.start first).run happenings).session =
      first.run (happenings.flatMap Happening.actions) := Desk.session_run _ _
  have notices (callbacks : Callbacks) :
      FaithfulNotices callbacks ((Desk.start first).run happenings).session.history := by
    refine faithfulNotices callbacks fun name mem => ?_
    rw [session, spawned] at mem
    rw [eq_of_announced_run _ mem]
    exact not_holdsNul_traceName id
  refine ⟨faithfulCalls fresh happenings, notices, fun callbacks => ?_⟩
  have once := Session.closeReasons_toList id options link registry clock
    (happenings.flatMap Happening.actions)
  rw [countP_isClosed (notices callbacks).same]
  refine Nat.le_trans (List.filter_sublist.filterMap Effect.closeReason?).length_le ?_
  rw [session, spawned, once]
  exact Option.length_toList_le

end MessageTunnel.Foreign
