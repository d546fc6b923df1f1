import MessageTunnel.Proofs.Session.Delivery
set_option autoImplicit false

namespace MessageTunnel

namespace InboundStream

def hangs (s : InboundStream) : Bool := s.failure?.isNone && s.stalls

def message? (s : InboundStream) : Option Payload :=
  if s.failure?.isNone && !s.stalls then some s.content else none

def discard? (s : InboundStream) : Option (Nat × TransportError) :=
  s.failure?.map fun e => (s.content.length, e)

end InboundStream

namespace Session

variable {c c' : Core} {a : Action} {s : Session} {l : Link} {d d' : Drain} {stream : InboundStream}
  {effects : List Effect} {streams accepted : List InboundStream} {messages : List Payload}
  {discards : List (Nat × TransportError)}

theorem Holds.ended {outcome : Drained} (h : Holds stream (.ended outcome) messages discards)
    (ends : stream.hangs = false) :
    messages = stream.message?.toList ∧ discards = stream.discard?.toList := by
  simp only [InboundStream.hangs, Bool.and_eq_false_iff, Option.isNone_eq_false_iff] at ends
  simp only [InboundStream.message?, InboundStream.discard?]
  cases h with
  | delivered complete =>
    obtain ⟨sound, flows⟩ := complete
    simp [sound, flows]
  | discarded fails =>
    obtain failure | ⟨sound, stalls⟩ := fails
    · simp [failure]
    · simp [sound, stalls] at ends

def Drain.hangs : Drain → Bool
  | .reading rest _ => rest.hangs
  | _ => false

theorem DrainMove.hangs (move : DrainMove l d d' effects) (opened : l.closed = none)
    (h : d.hangs = true) : d'.hangs = true := by
  cases move with
  | @piece stream part message rest parts =>
    simpa [Drain.hangs, InboundStream.hangs, InboundStream.failure?, parts, firstError?,
      firstError?_partsLeft] using h
  | complete parts ends => simp [Drain.hangs, InboundStream.hangs, ends] at h
  | broken parts =>
    simp [Drain.hangs, InboundStream.hangs, InboundStream.failure?, parts, firstError?] at h
  | cut parts stalls closed => simp [opened] at closed
  | _ => simp [Drain.hangs] at h

theorem Holds.hangs (h : Holds stream d messages discards) (hung : d.hangs = true) :
    stream.hangs = true := by
  cases h with
  | reading content failure stalls => rwa [InboundStream.hangs, failure, stalls]
  | _ => simp [Drain.hangs] at hung

/-- Where all is quiet, a drain that is not over hangs. -/
theorem Drain.ended_or_hangs (quiet : s.isQuiet = true) {number : Nat}
    (hd : s.drains[number]? = some d) : d.isEnded = true ∨ d.hangs = true := by
  cases blocked_of_quiet quiet (mem_tasks_drain (List.getElem?_eq_some_iff.1 hd).1) with
  | noDrain drain => simp [show s.core.drains[number]? = some d from hd] at drain
  | stalled drain parts stalls opened =>
    obtain rfl := Option.some.inj (hd.symm.trans drain)
    simp [Drain.hangs, InboundStream.hangs, InboundStream.failure?, parts, firstError?, stalls]
  | drained drain =>
    obtain rfl := Option.some.inj (hd.symm.trans drain)
    exact .inl rfl

def Hanging (c : Core) (accepted : List InboundStream) : Prop :=
  ∀ (number : Nat) (stream : InboundStream) (d : Drain), accepted[number]? = some stream →
    c.drains[number]? = some d → stream.hangs = true → d.hangs = true

theorem Hanging.acts (h : Hanging c accepted) (length : c.drains.length = accepted.length)
    (acts : Acts c a c' effects) (opened : c.link.closed = none) :
    Hanging c' (accepted ++ c.accepts a) := by
  intro number stream d hs hd hangs
  by_cases less : number < accepted.length
  · rw [List.getElem?_append_left less] at hs
    have before : c.drains[number]? = some c.drains[number] := List.getElem?_eq_getElem _
    have hung := h number stream _ hs before hangs
    obtain ⟨-, after⟩ | ⟨-, d', after, move⟩ | ⟨-, rfl, -⟩ := acts.drain before
    · obtain rfl := Option.some.inj (hd.symm.trans after)
      exact hung
    · obtain rfl := Option.some.inj (hd.symm.trans after)
      exact move.hangs opened hung
    · obtain rfl := Option.some.inj (hd.symm.trans before)
      exact hung
  · obtain ⟨nothing, -⟩ | ⟨stream', -, one, grown⟩ := acts.grows
    · rw [nothing, List.append_nil] at hs
      exact absurd (List.getElem?_eq_some_iff.1 hs).1 less
    · have bound := (List.getElem?_eq_some_iff.1 hs).1
      rw [one, List.length_append, List.length_singleton] at bound
      obtain rfl : number = accepted.length := by omega
      obtain rfl : stream' = stream := by simpa [one] using hs
      obtain rfl : Drain.reading stream' [] = d := by simpa [grown, ← length] using hd
      exact hangs

def Task.isDrain : Task → Bool
  | .drain _ => true
  | _ => false

def seenOfDrains {α : Type} (f : Effect → Option α) (entries : List (Task × Effect)) : List α :=
  (entries.filter (·.1.isDrain)).filterMap fun e => f e.2

theorem seenOfDrains_perm {α : Type} {f : Effect → Option α} {entries : List (Task × Effect)}
    {count : Nat} (silent : ∀ number, count ≤ number → seenOf f (.drain number) entries = []) :
    (seenOfDrains f entries).Perm
      ((List.range count).flatMap fun number => seenOf f (.drain number) entries) := by
  have own (number : Nat) : seenOf f (.drain number) (entries.filter (·.1.isDrain)) =
      seenOf f (.drain number) entries := by
    rw [seenOf, seenOf, List.filterMap_filter]
    congr 1
    funext e
    by_cases same : e.1 = .drain number <;> simp [same, Task.isDrain]
  have distinct : ((List.range count).map Task.drain).Nodup :=
    List.pairwise_map.2 (List.nodup_range.imp (by simp))
  have parts := seenOf_perm f _ distinct (entries.filter (·.1.isDrain)) (by
    intro e mem sees
    obtain ⟨mem, drains⟩ := List.mem_filter.1 mem
    obtain ⟨x, hx⟩ := Option.isSome_iff_exists.1 sees
    cases he : e.1 with
    | drain number =>
      refine List.mem_map.2 ⟨number, List.mem_range.2 ?_, rfl⟩
      apply Classical.byContradiction
      intro beyond
      have heard : x ∈ seenOf f (.drain number) entries :=
        List.mem_filterMap.2 ⟨e, mem, by simp [he, hx]⟩
      simp [silent number (by omega)] at heard
    | _ => simp [he, Task.isDrain] at drains)
  rw [List.flatMap_map] at parts
  simp only [own] at parts
  exact parts

def streamMessages (first : Session) (actions : List Action) : List Payload :=
  seenOfDrains Effect.message? (first.chronicle actions)

def streamDiscards (first : Session) (actions : List Action) : List (Nat × TransportError) :=
  seenOfDrains Effect.discard? (first.chronicle actions)

theorem flatMap_range_toList {α β : Type} (f : α → Option β) (items : List α) (g : Nat → List β)
    (agree : ∀ (i : Nat) (x : α), items[i]? = some x → g i = (f x).toList) :
    (List.range items.length).flatMap g = items.filterMap f := by
  have each : (List.range items.length).map g = items.map fun x => (f x).toList := by
    refine List.ext_getElem (by simp) fun i less _ => ?_
    have hi : i < items.length := by simpa using less
    simp [agree i items[i] (List.getElem?_eq_getElem hi)]
  rw [List.flatMap_def, each, ← List.flatMap_def]
  clear agree each
  induction items with
  | nil => rfl
  | cons x rest ih => cases h : f x <;> simp [h, ih]

def IsSpent (stream : InboundStream) (d : Drain) : Prop :=
  d.isEnded = true ∧ stream.hangs = false ∨ d.hangs = true ∧ stream.hangs = true

theorem Holds.spent (h : Holds stream d messages discards) (spent : IsSpent stream d) :
    messages = stream.message?.toList ∧ discards = stream.discard?.toList := by
  obtain ⟨ended, ends⟩ | ⟨hung, hangs⟩ := spent
  · cases d with
    | ended outcome => exact h.ended ends
    | _ => simp [Drain.isEnded] at ended
  · simp only [InboundStream.hangs, Bool.and_eq_true, Option.isNone_iff_eq_none] at hangs
    cases h with
    | reading => simp [InboundStream.message?, InboundStream.discard?, hangs]
    | _ => simp [Drain.hangs] at hung

theorem arrived (id : ConnectionId) (options : Options) (link : Link) (registry : Trace.Registry)
    (clock : Nat) (actions : List Action)
    (spent : ∀ (number : Nat) (stream : InboundStream) (d : Drain),
      (acceptedIn (spawn id options link registry clock) actions)[number]? = some stream →
      ((spawn id options link registry clock).run actions).drains[number]? = some d →
        IsSpent stream d) :
    let first := spawn id options link registry clock
    (streamMessages first actions).Perm
        ((acceptedIn first actions).filterMap InboundStream.message?) ∧
      (streamDiscards first actions).Perm
        ((acceptedIn first actions).filterMap InboundStream.discard?) := by
  intro first
  have h := delivered_run id options link registry clock actions
  have each (number : Nat) (stream : InboundStream)
      (hs : (acceptedIn first actions)[number]? = some stream) :
      messagesOf (.drain number) first actions = stream.message?.toList ∧
        discardsOf (.drain number) first actions = stream.discard?.toList := by
    obtain ⟨d, hd, holds⟩ := h.exists_drain hs
    exact holds.spent (spent number stream d hs hd)
  have later (number : Nat) (beyond : (acceptedIn first actions).length ≤ number) :=
    h.drains.later number (h.drains.length ▸ beyond)
  rw [← flatMap_range_toList _ _ _ fun number stream hs => (each number stream hs).1,
    ← flatMap_range_toList _ _ _ fun number stream hs => (each number stream hs).2]
  exact ⟨seenOfDrains_perm fun number beyond => (later number beyond).1,
    seenOfDrains_perm fun number beyond => (later number beyond).2⟩

end Session

end MessageTunnel
