import MessageTunnel.Proofs.Calls
import MessageTunnel.Proofs.Dispatch
import MessageTunnel.Proofs.Session.Run
/-!
What a session sends, and what its link keeps of it. A datagram is one call; a stream is opened,
written and finished by one caller, under a number that no other caller has. So the calls of a link
tell which sends went out, whatever fails between.
-/
set_option autoImplicit false

namespace MessageTunnel.Session

variable {payload : Payload} {channel : Channel} {sh : Shutdown} {l l' : Link} {c c' : Core}
  {a : Action} {effects : List Effect} {calls : List Call} {next : Nat} {callers : List Caller}
  {number : Nat} {k : Caller} {stage : Stage}

def Request.payload? : Request → Option Payload
  | .send payload | .sendStream payload => some payload
  | .stop | .awaitClosed => none

def Stage.used? : Stage → Option Channel
  | .sending (.ended (.ok channel)) | .replied (.sent channel) => some channel
  | _ => none

def Stage.stream? : Stage → Option Nat
  | .sending (.write stream) | .sending (.finish stream) => some stream
  | _ => none

def Caller.out? (channel : Channel) (k : Caller) : Option Payload :=
  if k.stage.used? = some channel then k.request.payload? else none

def Caller.sent? (k : Caller) : Option Payload :=
  match k.reply? with
  | some (.sent _) => k.request.payload?
  | _ => none

def Caller.isSending (k : Caller) : Bool := k.request.payload?.isSome && k.reply?.isNone

/-- What the calls say of the stream that a caller is about. -/
def OnWay (calls : List Call) (k : Caller) : Prop :=
  match k.stage with
  | .sending (.write stream) =>
    .openStream stream ∈ calls ∧ writtenTo stream calls = [] ∧ .finish stream ∉ calls
  | .sending (.finish stream) =>
    .openStream stream ∈ calls ∧ (∃ payload, k.request.payload? = some payload ∧
      writtenTo stream calls = [payload]) ∧ .finish stream ∉ calls
  | _ => True

theorem onWay_of_idle (idle : k.stage.stream? = none) : OnWay calls k := by
  obtain ⟨request, stage⟩ := k
  cases stage with
  | sending stage =>
    cases stage with
    | write | finish => simp [Stage.stream?] at idle
    | _ => trivial
  | _ => trivial

theorem OnWay.opened {stream : Nat} (h : OnWay calls k) (about : k.stage.stream? = some stream) :
    .openStream stream ∈ calls ∧ .finish stream ∉ calls := by
  obtain ⟨request, stage⟩ := k
  cases stage with
  | sending stage =>
    cases stage with
    | write stream' | finish stream' =>
      obtain rfl : stream' = stream := by simpa [Stage.stream?] using about
      obtain ⟨opened, -, unfinished⟩ := h
      exact ⟨opened, unfinished⟩
    | _ => simp [Stage.stream?] at about
  | _ => simp [Stage.stream?] at about

theorem OnWay.append {call : Call} (h : OnWay calls k)
    (other : ∀ stream, k.stage.stream? = some stream → call.stream? ≠ some stream) :
    OnWay (calls ++ [call]) k := by
  obtain ⟨request, stage⟩ := k
  cases stage with
  | sending stage =>
    cases stage with
    | write stream =>
      have hne : call.stream? ≠ some stream := other stream rfl
      obtain ⟨opened, unwritten, unfinished⟩ := h
      exact ⟨List.mem_append_left _ opened, by rw [writtenTo_append hne, unwritten],
        fun mem => unfinished ((mem_append_other rfl hne).1 mem)⟩
    | finish stream =>
      have hne : call.stream? ≠ some stream := other stream rfl
      obtain ⟨opened, ⟨payload, request, written⟩, unfinished⟩ := h
      exact ⟨List.mem_append_left _ opened,
        ⟨payload, request, by rw [writtenTo_append hne, written]⟩,
        fun mem => unfinished ((mem_append_other rfl hne).1 mem)⟩
    | _ => trivial
  | _ => trivial

/-- The calls of a link and the callers of its session, as they go together. -/
structure Outbound (calls : List Call) (next : Nat) (callers : List Caller) : Prop where
  below : ∀ call ∈ calls, ∀ stream, call.stream? = some stream → stream < next
  onWay : ∀ k ∈ callers, OnWay calls k
  apart : ∀ (i j : Nat) (k k' : Caller) (stream : Nat), callers[i]? = some k →
    callers[j]? = some k' → k.stage.stream? = some stream → k'.stage.stream? = some stream → i = j
  streams : (finishedStreams calls).Perm (callers.filterMap (Caller.out? .stream))
  datagrams : (datagramsIn calls).Perm (callers.filterMap (Caller.out? .datagram))

theorem outbound_start (next : Nat) : Outbound [] next [] where
  below := by simp
  onWay := by simp
  apart := by simp
  streams := .nil
  datagrams := .nil

theorem Outbound.close (h : Outbound calls next callers) (notice : CloseNotice) :
    Outbound (calls ++ [.close notice]) next callers where
  below := by
    intro call mem stream about
    obtain mem | rfl := by simpa using mem
    · exact h.below call mem stream about
    · simp [Call.stream?] at about
  onWay := fun k hk => (h.onWay k hk).append fun _ _ => by simp [Call.stream?]
  apart := h.apart
  streams := by
    rw [finishedStreams_append (by simp [Call.stream?])]
    simpa [wholeStream?] using h.streams
  datagrams := by simpa [datagramsIn, List.filterMap_cons, Call.datagram?] using h.datagrams

theorem Outbound.request (h : Outbound calls next callers) (r : Request) :
    Outbound calls next (callers ++ [⟨r, .asked⟩]) where
  below := h.below
  onWay := by
    intro k hk
    obtain hk | rfl := by simpa using hk
    · exact h.onWay k hk
    · exact onWay_of_idle rfl
  apart := by
    intro i j k k' stream hi hj about about'
    -- Who has only asked is about no stream, so both callers were there before.
    have old (i : Nat) (k : Caller) (hi : (callers ++ [⟨r, .asked⟩])[i]? = some k)
        (about : k.stage.stream? = some stream) : callers[i]? = some k := by
      rw [List.getElem?_append] at hi
      split at hi
      · exact hi
      · have mem := List.mem_of_getElem? hi
        obtain rfl := List.mem_singleton.1 mem
        simp [Stage.stream?] at about
    exact h.apart i j k k' stream (old i k hi about) (old j k' hj about') about about'
  streams := by simpa [Caller.out?, Stage.used?] using h.streams
  datagrams := by simpa [Caller.out?, Stage.used?] using h.datagrams

theorem Outbound.turn (h : Outbound calls next callers) (hk : callers[number]? = some k)
    (idle : stage.stream? = none)
    (same : ∀ channel, Caller.out? channel { k with stage := stage } = k.out? channel) :
    Outbound calls next (callers.set number { k with stage := stage }) where
  below := h.below
  onWay := by
    intro k' hk'
    obtain hk' | rfl := List.mem_or_eq_of_mem_set hk'
    · exact h.onWay k' hk'
    · exact onWay_of_idle idle
  apart := by
    intro i j k₁ k₂ stream hi hj about about'
    have old (i : Nat) (k₁ : Caller)
        (hi : (callers.set number { k with stage := stage })[i]? = some k₁)
        (about : k₁.stage.stream? = some stream) : callers[i]? = some k₁ := by
      by_cases here : number = i
      · subst here
        have hn := (List.getElem?_eq_some_iff.1 hk).1
        obtain rfl : _ = k₁ := by simpa [hn] using hi
        simp [idle] at about
      · rwa [List.getElem?_set_ne here] at hi
    exact h.apart i j k₁ k₂ stream (old i k₁ hi about) (old j k₂ hj about') about about'
  streams := by
    rw [filterMap_set_eq _ hk (same _)]
    exact h.streams
  datagrams := by
    rw [filterMap_set_eq _ hk (same _)]
    exact h.datagrams

theorem Outbound.call {next next' : Nat} (h : Outbound calls next callers) {call : Call}
    (hk : callers[number]? = some k) (grows : next ≤ next')
    (below : ∀ stream, call.stream? = some stream → stream < next' ∧ .finish stream ∉ calls)
    (others : ∀ j k' stream, j ≠ number → callers[j]? = some k' →
      k'.stage.stream? = some stream → call.stream? ≠ some stream)
    (onWay : OnWay (calls ++ [call]) { k with stage := stage })
    (about : ∀ stream, stage.stream? = some stream → call.stream? = some stream)
    (unused : k.stage.used? = none)
    (streams : Caller.out? .stream { k with stage := stage } = wholeStream? (calls ++ [call]) call)
    (datagrams : Caller.out? .datagram { k with stage := stage } = call.datagram?) :
    Outbound (calls ++ [call]) next' (callers.set number { k with stage := stage }) where
  below := by
    intro call' mem stream about'
    obtain mem | rfl := by simpa using mem
    · exact Nat.lt_of_lt_of_le (h.below call' mem stream about') grows
    · exact (below stream about').1
  onWay := by
    intro k' hk'
    obtain ⟨j, hj⟩ := List.getElem?_of_mem hk'
    by_cases here : number = j
    · subst here
      have hn := (List.getElem?_eq_some_iff.1 hk).1
      obtain rfl : _ = k' := by simpa [hn] using hj
      exact onWay
    · rw [List.getElem?_set_ne here] at hj
      exact (h.onWay k' (List.mem_of_getElem? hj)).append
        fun stream => others j k' stream (Ne.symm here) hj
  apart := by
    intro i j k₁ k₂ stream hi hj about₁ about₂
    have hn := (List.getElem?_eq_some_iff.1 hk).1
    by_cases hi' : number = i
    · subst hi'
      obtain rfl : _ = k₁ := by simpa [hn] using hi
      by_cases hj' : number = j
      · exact hj'
      · rw [List.getElem?_set_ne hj'] at hj
        exact absurd (about stream about₁) (others j k₂ stream (Ne.symm hj') hj about₂)
    · rw [List.getElem?_set_ne hi'] at hi
      by_cases hj' : number = j
      · subst hj'
        obtain rfl : _ = k₂ := by simpa [hn] using hj
        exact absurd (about stream about₂) (others i k₁ stream (Ne.symm hi') hi about₁)
      · rw [List.getElem?_set_ne hj'] at hj
        exact h.apart i j k₁ k₂ stream hi hj about₁ about₂
  streams := by
    have none : k.out? .stream = none := by simp [Caller.out?, unused]
    rw [finishedStreams_append fun stream hs => (below stream hs).2, ← streams]
    exact (h.streams.append_right _).trans (filterMap_set_perm _ _ hk none).symm
  datagrams := by
    have none : k.out? .datagram = none := by simp [Caller.out?, unused]
    have added : datagramsIn (calls ++ [call]) = datagramsIn calls ++ call.datagram?.toList := by
      cases hd : call.datagram? <;> simp [datagramsIn, hd]
    rw [added, ← datagrams]
    exact (h.datagrams.append_right _).trans (filterMap_set_perm _ _ hk none).symm

theorem Outbound.others (h : Outbound calls next callers) {stream : Nat}
    (hk : callers[number]? = some k) (about : k.stage.stream? = some stream) (j : Nat) (k' : Caller)
    (stream' : Nat) (hne : j ≠ number) (hk' : callers[j]? = some k')
    (about' : k'.stage.stream? = some stream') : some stream ≠ some stream' := by
  rintro same
  obtain rfl := Option.some.inj same
  exact hne (h.apart j number k' k stream hk' hk about' about)

/-- Every step of a send keeps calls and callers together. -/
theorem Outbound.send (h : Outbound l.calls l.nextStream callers) (hk : callers[number]? = some k)
    (sends : k.request.payload? = some payload)
    (move : SendMove payload channel sh l k.stage l' stage effects) :
    Outbound l'.calls l'.nextStream (callers.set number { k with stage := stage }) := by
  obtain ⟨request, before⟩ := k
  have mem := List.mem_of_getElem? hk
  cases move with
  | refused | sent | failed => exact h.turn hk rfl fun _ => rfl
  | admitted => cases channel <;> exact h.turn hk rfl fun _ => rfl
  | @call _ stage next goesOn moves step =>
    have called := Dispatch.called payload stage l
    rw [step] at called
    have unused : (Stage.sending stage).used? = none := by
      cases stage with
      | ended result => exact absurd rfl (goesOn result)
      | _ => rfl
    have turn {next : Dispatch.Stage} (idle : (Stage.sending next).stream? = none)
        (unused' : (Stage.sending next).used? = none) :
        Outbound l.calls l.nextStream (callers.set number ⟨request, .sending next⟩) :=
      h.turn hk idle fun channel => by simp [Caller.out?, unused, unused']
    cases called with
    | fails => exact turn rfl rfl
    | hold => exact turn rfl rfl
    | wait => exact turn rfl rfl
    | ended => exact absurd rfl (goesOn _)
    | sendDatagram =>
      exact h.call hk (Nat.le_refl _) (by simp [Call.stream?]) (by simp [Call.stream?])
        (onWay_of_idle rfl) (by simp [Stage.stream?]) rfl rfl sends
    | openStream =>
      -- The number of the new stream is above all that were ever given out.
      have fresh (call : Call) (hc : call.stream? = some l.nextStream) : call ∉ l.calls :=
        fun mem => Nat.lt_irrefl _ (h.below call mem _ hc)
      refine h.call hk (Nat.le_succ _) ?_ ?_ ?_ (fun stream hs => hs) rfl rfl rfl
      · intro stream hs
        obtain rfl := Option.some.inj hs
        exact ⟨Nat.lt_succ_self _, fresh _ rfl⟩
      · intro j k' stream hne hk' about same
        obtain rfl := Option.some.inj same
        exact fresh _ rfl ((h.onWay k' (List.mem_of_getElem? hk')).opened about).1
      · refine ⟨by simp, writtenTo_eq_nil fun payload => ?_, by simpa using fresh _ rfl⟩
        simpa using fresh (.write l.nextStream payload) rfl
    | @write stream =>
      obtain ⟨opened, unwritten, unfinished⟩ := h.onWay _ mem
      refine h.call hk (Nat.le_refl _) ?_ (h.others hk rfl) ?_ (fun stream hs => hs) rfl rfl rfl
      · intro stream' hs
        obtain rfl := Option.some.inj hs
        exact ⟨h.below _ opened _ rfl, unfinished⟩
      · have written : writtenTo stream (l.calls ++ [.write stream payload]) = [payload] := by
          rw [writtenTo_write, unwritten]
          rfl
        exact ⟨List.mem_append_left _ opened, ⟨payload, sends, written⟩, by simpa using unfinished⟩
    | @finish stream =>
      obtain ⟨opened, ⟨payload', hp, written⟩, unfinished⟩ := h.onWay _ mem
      refine h.call hk (Nat.le_refl _) ?_ (h.others hk rfl) (onWay_of_idle rfl)
        (by simp [Stage.stream?]) rfl ?_ rfl
      · intro stream' hs
        obtain rfl := Option.some.inj hs
        exact ⟨h.below _ opened _ rfl, unfinished⟩
      · have out : Caller.out? .stream ⟨request, .sending (.ended (.ok .stream))⟩ =
            some payload' := hp
        simp [out, wholeStream?, opened, writtenTo_finish, written]

theorem EndMove.outbound {id : ConnectionId} {loop : Log.InboundLoop} {sh sh' : Shutdown}
    {stage stage' : Ending} (move : EndMove id loop sh l stage sh' l' stage' effects)
    (h : Outbound l.calls l.nextStream callers) : Outbound l'.calls l'.nextStream callers := by
  cases move with
  | hangUp => exact h.close _
  | _ => exact h

theorem payload?_of_outgoing? {r : Request} {o : Options}
    (out : r.outgoing? o = some (payload, channel)) : r.payload? = some payload := by
  cases r with
  | send payload' =>
    obtain ⟨rfl, -⟩ := by simpa [Request.outgoing?] using out
    rfl
  | sendStream payload' =>
    obtain ⟨rfl, -⟩ := by simpa [Request.outgoing?] using out
    rfl
  | stop | awaitClosed => simp [Request.outgoing?] at out

theorem Outbound.acts (h : Outbound c.link.calls c.link.nextStream c.callers)
    (acts : Acts c a c' effects) : Outbound c'.link.calls c'.link.nextStream c'.callers := by
  cases acts with
  | moves move =>
    cases move with
    | endReader reader move => exact move.outbound h
    | endAcceptor acceptor move => exact move.outbound h
    | call caller move =>
      cases move with
      | send out move => exact h.send caller (payload?_of_outgoing? out) move
      | stopHangUp => exact (h.close _).turn caller rfl fun _ => rfl
      | stopFirst | stopLate | told => exact h.turn caller rfl fun _ => rfl
    | _ => exact h
  | request => exact h.request _
  | @event e => cases e <;> exact h
  | _ => exact h

def Core.overtaken (c : Core) : Action → List Caller
  | .request r => if r.payload?.isSome then c.callers.filter Caller.isSending else []
  | _ => []

def InTurn (s : Session) (actions : List Action) : Prop :=
  along (fun s a => s.core.overtaken a) s actions = []

/-- No send is made behind one that is still under way, and the datagrams lie in the order of the
sends. -/
structure Orderly (calls : List Call) (callers : List Caller) : Prop where
  last : ∀ (i j : Nat) (k k' : Caller), i < j → callers[i]? = some k → callers[j]? = some k' →
    k'.request.payload?.isSome = true → k.isSending = false
  order : datagramsIn calls = callers.filterMap (Caller.out? .datagram)

theorem SendMove.isSending (move : SendMove payload channel sh l k.stage l' stage effects)
    (sends : k.request.payload? = some payload) : k.isSending = true := by
  obtain ⟨request, before⟩ := k
  cases move <;> simpa [Caller.isSending, Caller.reply?] using congrArg Option.isSome sends

theorem SendMove.datagrams (move : SendMove payload channel sh l k.stage l' stage effects)
    (sends : k.request.payload? = some payload) : (datagramsIn l'.calls = datagramsIn l.calls ∧
      Caller.out? .datagram { k with stage := stage } = k.out? .datagram) ∨
    (datagramsIn l'.calls =
        datagramsIn l.calls ++ (Caller.out? .datagram { k with stage := stage }).toList ∧
      k.out? .datagram = none) := by
  obtain ⟨request, before⟩ := k
  cases move with
  | refused | sent | failed => exact .inl ⟨rfl, rfl⟩
  | admitted => cases channel <;> exact .inl ⟨rfl, rfl⟩
  | @call _ stage next goesOn moves step =>
    have called := Dispatch.called payload stage l
    rw [step] at called
    cases called with
    | sendDatagram =>
      have out : Caller.out? .datagram ⟨request, .sending (.ended (.ok .datagram))⟩ =
          some payload := sends
      exact .inr ⟨by simp [datagramsIn, Call.datagram?, out], rfl⟩
    | fails =>
      cases stage with
      | ended result => exact absurd rfl (goesOn result)
      | _ => exact .inl ⟨rfl, rfl⟩
    | ended => exact absurd rfl (goesOn _)
    | hold | wait => exact .inl ⟨rfl, rfl⟩
    | openStream | write | finish =>
      exact .inl ⟨by simp [datagramsIn, Link.record, List.filterMap_cons, Call.datagram?], rfl⟩

theorem Orderly.turn {calls calls' : List Call} (h : Orderly calls callers)
    (hk : callers[number]? = some k)
    (sending : Caller.isSending { k with stage := stage } = true → k.isSending = true)
    (order : datagramsIn calls' =
      (callers.set number { k with stage := stage }).filterMap (Caller.out? .datagram)) :
    Orderly calls' (callers.set number { k with stage := stage }) where
  last := by
    intro i j k₁ k₂ less hi hj sends
    have hn := (List.getElem?_eq_some_iff.1 hk).1
    have later : ∃ k₃, callers[j]? = some k₃ ∧ k₃.request.payload?.isSome = true := by
      by_cases here : number = j
      · subst here
        obtain rfl : _ = k₂ := by simpa [hn] using hj
        exact ⟨k, hk, sends⟩
      · rw [List.getElem?_set_ne here] at hj
        exact ⟨k₂, hj, sends⟩
    obtain ⟨k₃, hj, sends⟩ := later
    by_cases here : number = i
    · subst here
      obtain rfl : _ = k₁ := by simpa [hn] using hi
      have done := h.last number j k k₃ less hk hj sends
      exact Bool.eq_false_iff.2 fun still => by simp [sending still] at done
    · rw [List.getElem?_set_ne here] at hi
      exact h.last i j k₁ k₃ less hi hj sends
  order := order

theorem Orderly.idle (h : Orderly calls callers) (hk : callers[number]? = some k)
    (none : k.request.payload? = none) :
    Orderly calls (callers.set number { k with stage := stage }) := by
  refine h.turn hk (by simp [Caller.isSending, none]) ?_
  rw [filterMap_set_eq _ hk (by simp [Caller.out?, none])]
  exact h.order

theorem Orderly.send (h : Orderly l.calls callers) (hk : callers[number]? = some k)
    (sends : k.request.payload? = some payload)
    (move : SendMove payload channel sh l k.stage l' stage effects) :
    Orderly l'.calls (callers.set number { k with stage := stage }) := by
  have sending := move.isSending sends
  refine h.turn hk (fun _ => sending) ?_
  obtain ⟨same, out⟩ | ⟨more, fresh⟩ := move.datagrams sends
  · rw [same, h.order, filterMap_set_eq _ hk out]
  · rw [more, h.order, filterMap_set_last _ _ hk fresh]
    intro j k' less hk'
    -- Behind a send that is still under way there is no other, so its datagram comes last.
    have none : k'.request.payload? = none := by
      cases hp : k'.request.payload? with
      | none => rfl
      | some payload' =>
        have done := h.last number j k k' less hk hk' (by simp [hp])
        simp [sending] at done
    simp [Caller.out?, none]

theorem Orderly.close (h : Orderly calls callers) (notice : CloseNotice) :
    Orderly (calls ++ [.close notice]) callers :=
  ⟨h.last, by simpa [datagramsIn, List.filterMap_cons, Call.datagram?] using h.order⟩

theorem EndMove.orderly {id : ConnectionId} {loop : Log.InboundLoop} {sh sh' : Shutdown}
    {stage stage' : Ending} (move : EndMove id loop sh l stage sh' l' stage' effects)
    (h : Orderly l.calls callers) : Orderly l'.calls callers := by
  cases move with
  | hangUp => exact h.close _
  | _ => exact h

theorem Orderly.request {r : Request} (h : Orderly c.link.calls c.callers)
    (turn : c.overtaken (.request r) = []) : Orderly c.link.calls (c.callers ++ [⟨r, .asked⟩]) where
  last := by
    intro i j k k' less hi hj sends
    have bound := (List.getElem?_eq_some_iff.1 hj).1
    rw [List.length_append, List.length_singleton] at bound
    have hi : c.callers[i]? = some k := by rwa [List.getElem?_append_left (by omega)] at hi
    by_cases old : j < c.callers.length
    · rw [List.getElem?_append_left old] at hj
      exact h.last i j k k' less hi hj sends
    · obtain rfl : j = c.callers.length := by omega
      obtain rfl : _ = k' := by simpa using hj
      have sends : r.payload?.isSome = true := sends
      simp only [Core.overtaken, sends, if_true, List.filter_eq_nil_iff, Bool.not_eq_true] at turn
      exact turn k (List.mem_of_getElem? hi)
  order := by simpa [Caller.out?, Stage.used?] using h.order

theorem Orderly.acts (h : Orderly c.link.calls c.callers) (turn : c.overtaken a = [])
    (acts : Acts c a c' effects) : Orderly c'.link.calls c'.callers := by
  cases acts with
  | moves move =>
    cases move with
    | endReader reader move => exact move.orderly h
    | endAcceptor acceptor move => exact move.orderly h
    | call caller move =>
      cases move with
      | send out move => exact h.send caller (payload?_of_outgoing? out) move
      | stopHangUp => exact (h.close _).idle caller rfl
      | stopFirst | stopLate | told => exact h.idle caller rfl
    | _ => exact h
  | request => exact h.request turn
  | @event e => cases e <;> exact h
  | _ => exact h

theorem outbound_run (id : ConnectionId) (options : Options) (limit : Option Nat)
    (registry : Trace.Registry) (clock : Nat) (actions : List Action) :
    let first := spawn id options (.new limit) registry clock
    let s := first.run actions
    Outbound s.link.calls s.link.nextStream s.callers ∧
      (InTurn first actions → Orderly s.link.calls s.callers) := by
  intro first
  have hc : first.core = ⟨id, options, .start 2, .new limit, .reading, .accepting, [], []⟩ :=
    core_spawn id options (.new limit) registry clock
  refine run_induction (P := fun actions s =>
    Outbound s.core.link.calls s.core.link.nextStream s.core.callers ∧
      (InTurn first actions → Orderly s.core.link.calls s.core.callers)) ?_ ?_ actions
  · rw [hc]
    exact ⟨outbound_start _, fun _ => ⟨by simp, rfl⟩⟩
  · rintro actions a ⟨outbound, orderly⟩
    have ha := acts (first.run actions) a
    refine ⟨outbound.acts ha, fun turn => ?_⟩
    rw [InTurn, along_concat, List.append_eq_nil_iff] at turn
    exact (orderly turn.1).acts turn.2 ha

end MessageTunnel.Session
