import MessageTunnel.Proofs.Calls
import MessageTunnel.Proofs.Dispatch
/-!
The calls that are made for a message. The record of a link keeps only the calls that succeed; an
attempt is any call, with the error it fails with if it does. A message that leaves as a datagram is
one attempt at most. One that leaves on a stream opens, writes and finishes it, and the first of
these that fails is the last.
-/
set_option autoImplicit false

namespace MessageTunnel

/-- Makes a call on a link. A held write has not failed yet, but it will. -/
def Link.perform (l : Link) : Call → Option TransportError × Link
  | .sendDatagram payload =>
    (Dispatch.errorOf? (l.sendDatagram payload).1, (l.sendDatagram payload).2)
  | .openStream _ => (Dispatch.errorOf? l.openStream.1, l.openStream.2)
  | .write stream payload =>
    match l.write stream payload with
    | (.ended result, l) => (Dispatch.errorOf? result, l)
    | (.held e, l) => (some e, l)
  | .finish stream => (Dispatch.errorOf? (l.finish stream).1, (l.finish stream).2)
  | .close notice => (none, l.close notice)

namespace Dispatch

structure Attempt where
  call : Call
  error? : Option TransportError
  deriving DecidableEq, Repr

def Attempt.carriedOut? (a : Attempt) : Option Call :=
  if a.error? = none then some a.call else none

/-- The call that a message needs next. A datagram above the limit is not handed over, and whoever
waits for a held write makes no call. -/
def nextCall? (payload : Payload) : Stage → Link → Option Call
  | .datagram, l =>
    if l.limit.any (payload.length ≤ ·) then some (.sendDatagram payload) else none
  | .openStream, l => some (.openStream l.nextStream)
  | .write stream, _ => some (.write stream payload)
  | .finish stream, _ => some (.finish stream)
  | .held _, _ | .ended _, _ => none

def attempt? (payload : Payload) (stage : Stage) (l : Link) : Option Attempt :=
  (nextCall? payload stage l).map fun call => ⟨call, (l.perform call).1⟩

def goOn (payload : Payload) : Nat → Stage → Link → Stage × Link
  | 0, stage, l => (stage, l)
  | n + 1, stage, l => goOn payload n (step payload stage l).1 (step payload stage l).2

def attempts (payload : Payload) : Nat → Stage → Link → List Attempt
  | 0, _, _ => []
  | n + 1, stage, l =>
    (attempt? payload stage l).toList ++
      attempts payload n (step payload stage l).1 (step payload stage l).2

variable {payload : Payload} {channel : Channel} {stage : Stage} {l first : Link}
  {made : List Attempt}

theorem step_link (payload : Payload) (stage : Stage) (l : Link) :
    (step payload stage l).2 =
      (nextCall? payload stage l).elim l fun call => (l.perform call).2 := by
  cases stage with
  | datagram =>
    simp only [step, sendDatagram, nextCall?]
    cases l.limit with
    | none => rfl
    | some limit =>
      by_cases long : limit < payload.length
      · simp [long, Nat.not_le.2 long]
      · simp only [long, Option.any_some, Nat.not_lt.1 long, decide_true, if_true, if_false,
          Option.elim_some, Link.perform]
        cases l.sendDatagram payload with
        | mk result l' => cases result <;> rfl
  | openStream =>
    simp only [step, nextCall?, Option.elim_some, Link.perform]
    cases l.openStream with
    | mk result l' => cases result <;> rfl
  | write stream =>
    simp only [step, nextCall?, Option.elim_some, Link.perform]
    cases l.write stream payload with
    | mk result l' =>
      cases result with
      | ended result => cases result <;> rfl
      | held e => rfl
  | held e =>
    simp only [step]
    split <;> rfl
  | finish stream =>
    simp only [step, nextCall?, Option.elim_some, Link.perform]
    cases l.finish stream with
    | mk result l' => cases result <;> rfl
  | ended result => rfl

theorem calls_perform {call : Call} (next : nextCall? payload stage l = some call) :
    (l.perform call).2.calls =
      l.calls ++ (Attempt.carriedOut? ⟨call, (l.perform call).1⟩).toList := by
  have kept {op : Operation} {e : TransportError} {l' : Link}
      (taken : l.takeFailure op = some (e, l')) : l'.calls = l.calls := by
    obtain ⟨failures, rfl⟩ := takeFailure_eq taken
    rfl
  cases stage with
  | datagram =>
    obtain ⟨-, rfl⟩ := by simpa [nextCall?] using next
    simp only [Link.perform, Link.sendDatagram]
    cases taken : l.takeFailure .sendDatagram with
    | some failure => simp [errorOf?, Attempt.carriedOut?, kept taken]
    | none => cases l.closed <;> simp [errorOf?, Attempt.carriedOut?, Link.record]
  | openStream =>
    obtain rfl := by simpa [nextCall?] using next
    simp only [Link.perform, Link.openStream]
    cases taken : l.takeFailure .openStream with
    | some failure => simp [errorOf?, Attempt.carriedOut?, kept taken]
    | none => cases l.closed <;> simp [errorOf?, Attempt.carriedOut?, Link.record]
  | write stream =>
    obtain rfl := by simpa [nextCall?] using next
    simp only [Link.perform, Link.write]
    cases taken : l.takeFailure .write with
    | some failure => simp [errorOf?, Attempt.carriedOut?, kept taken]
    | none =>
      cases l.heldWrites with
      | some e => simp [Attempt.carriedOut?]
      | none => cases l.closed <;> simp [errorOf?, Attempt.carriedOut?, Link.record]
  | finish stream =>
    obtain rfl := by simpa [nextCall?] using next
    simp only [Link.perform, Link.finish]
    cases taken : l.takeFailure .finish with
    | some failure => simp [errorOf?, Attempt.carriedOut?, kept taken]
    | none => simp [errorOf?, Attempt.carriedOut?, Link.record]
  | held e => simp [nextCall?] at next
  | ended result => simp [nextCall?] at next

theorem goOn_link (payload : Payload) (n : Nat) (stage : Stage) (l : Link) :
    (goOn payload n stage l).2 =
      (attempts payload n stage l).foldl (fun l a => (l.perform a.call).2) l := by
  induction n generalizing stage l with
  | zero => rfl
  | succ n ih =>
    rw [goOn, attempts, List.foldl_append, ih, step_link]
    cases hc : nextCall? payload stage l <;> simp [attempt?, hc]

theorem calls_goOn (payload : Payload) (n : Nat) (stage : Stage) (l : Link) :
    (goOn payload n stage l).2.calls =
      l.calls ++ (attempts payload n stage l).filterMap Attempt.carriedOut? := by
  induction n generalizing stage l with
  | zero => simp [goOn, attempts]
  | succ n ih =>
    rw [goOn, attempts, ih, step_link]
    cases hc : nextCall? payload stage l with
    | none => simp [attempt?, hc]
    | some call =>
      simp only [attempt?, hc, Option.elim_some, calls_perform hc, Option.map_some,
        Option.toList_some, List.filterMap_append, List.append_assoc]
      cases ho : Attempt.carriedOut? ⟨call, (l.perform call).1⟩ <;> simp [ho]

inductive Way (first : Link) (payload : Payload) : Channel → List Attempt → Stage → Prop where
  | unavailable (unlimited : first.limit = none) :
      Way first payload .datagram [] (.ended (.error .datagramsUnavailable))
  | tooLarge {limit : Nat} (limited : first.limit = some limit) (long : limit < payload.length) :
      Way first payload .datagram [] (.ended (.error (.datagramTooLarge payload.length limit)))
  | refused {limit : Nat} {e : TransportError} (limited : first.limit = some limit)
      (fits : payload.length ≤ limit) :
      Way first payload .datagram [⟨.sendDatagram payload, some e⟩] (.failed e)
  | sent {limit : Nat} (limited : first.limit = some limit) (fits : payload.length ≤ limit) :
      Way first payload .datagram [⟨.sendDatagram payload, none⟩] (.ended (.ok .datagram))
  | unopened {e : TransportError} :
      Way first payload .stream [⟨.openStream first.nextStream, some e⟩] (.failed e)
  | opened :
      Way first payload .stream [⟨.openStream first.nextStream, none⟩] (.write first.nextStream)
  | held {e : TransportError} :
      Way first payload .stream
        [⟨.openStream first.nextStream, none⟩, ⟨.write first.nextStream payload, some e⟩] (.held e)
  | unwritten {e : TransportError} :
      Way first payload .stream
        [⟨.openStream first.nextStream, none⟩, ⟨.write first.nextStream payload, some e⟩]
        (.failed e)
  | written :
      Way first payload .stream
        [⟨.openStream first.nextStream, none⟩, ⟨.write first.nextStream payload, none⟩]
        (.finish first.nextStream)
  | unfinished {e : TransportError} :
      Way first payload .stream
        [⟨.openStream first.nextStream, none⟩, ⟨.write first.nextStream payload, none⟩,
          ⟨.finish first.nextStream, some e⟩] (.failed e)
  | finished :
      Way first payload .stream
        [⟨.openStream first.nextStream, none⟩, ⟨.write first.nextStream payload, none⟩,
          ⟨.finish first.nextStream, none⟩] (.ended (.ok .stream))

theorem way_start (l : Link) (payload : Payload) (channel : Channel) :
    Way l payload channel (attempt? payload (.first channel) l).toList
      (step payload (.first channel) l).1 := by
  cases channel with
  | datagram =>
    simp only [Stage.first, attempt?, nextCall?, step, sendDatagram]
    cases limited : l.limit with
    | none => exact .unavailable limited
    | some limit =>
      by_cases long : limit < payload.length
      · simpa [long, Nat.not_le.2 long] using .tooLarge limited long
      · have fits := Nat.not_lt.1 long
        simp only [long, Option.any_some, fits, decide_true, if_true, if_false, Option.map_some,
          Option.toList_some, Link.perform]
        cases l.sendDatagram payload with
        | mk result l' =>
          cases result with
          | ok => exact .sent limited fits
          | error e => exact .refused limited fits
  | stream =>
    simp only [Stage.first, attempt?, nextCall?, step, Option.map_some, Option.toList_some,
      Link.perform]
    cases opened : l.openStream with
    | mk result l' =>
      cases result with
      | ok stream =>
        obtain rfl : stream = l.nextStream := by
          unfold Link.openStream at opened
          split at opened <;> simp at opened
          exact opened.1.symm
        exact .opened
      | error e => exact .unopened

/-- A message stays on its way, whatever has become of the link between two of its steps. -/
theorem Way.step (h : Way first payload channel made stage) (l : Link) :
    Way first payload channel (made ++ (attempt? payload stage l).toList)
      (step payload stage l).1 := by
  cases h with
  | opened =>
    simp only [attempt?, nextCall?, Dispatch.step, Option.map_some, Option.toList_some,
      Link.perform]
    cases l.write first.nextStream payload with
    | mk result l' =>
      cases result with
      | ended result =>
        cases result with
        | ok => exact .written
        | error e => exact .unwritten
      | held e => exact .held
  | held =>
    simp only [attempt?, nextCall?, Dispatch.step, Option.map_none, Option.toList_none,
      List.append_nil]
    split
    · exact .unwritten
    · exact .held
  | written =>
    simp only [attempt?, nextCall?, Dispatch.step, Option.map_some, Option.toList_some,
      Link.perform]
    cases l.finish first.nextStream with
    | mk result l' =>
      cases result with
      | ok => exact .finished
      | error e => exact .unfinished
  | unavailable unlimited => exact .unavailable unlimited
  | tooLarge limited long => exact .tooLarge limited long
  | refused limited fits => exact .refused limited fits
  | sent limited fits => exact .sent limited fits
  | unopened => exact .unopened
  | unwritten => exact .unwritten
  | unfinished => exact .unfinished
  | finished => exact .finished

theorem Way.further (h : Way first payload channel made stage) (n : Nat) (l : Link) :
    Way first payload channel (made ++ attempts payload n stage l) (goOn payload n stage l).1 := by
  induction n generalizing made stage l with
  | zero => simpa [attempts, goOn] using h
  | succ n ih =>
    rw [attempts, ← List.append_assoc]
    exact ih (h.step l) _

def Stage.left : Stage → Nat
  | .openStream => 3
  | .write _ => 2
  | .datagram | .held _ | .finish _ => 1
  | .ended _ => 0

theorem eq_ended_of_left (h : stage.left = 0) : ∃ result, stage = .ended result := by
  cases stage with
  | ended result => exact ⟨result, rfl⟩
  | _ => simp [Stage.left] at h

theorem Called.goes_on {stage' : Stage} {l' : Link} (h : Called payload l stage stage' l') :
    l'.closed = l.closed ∧ l'.heldWrites = l.heldWrites ∧
      (stage'.left ≤ stage.left - 1 ∨ ∃ e, stage = .held e ∧ stage' = .held e) := by
  cases h with
  | wait => exact ⟨rfl, rfl, .inr ⟨_, rfl, rfl⟩⟩
  | _ => exact ⟨rfl, rfl, .inl (by simp [Stage.left])⟩

theorem step_held {e : TransportError} (h : (step payload stage l).1 = .held e) :
    (stage = .held e ∧ l.closed = none) ∨ l.heldWrites = some e := by
  have move := called payload stage l
  rw [h] at move
  generalize (step payload stage l).2 = l' at move
  cases move with
  | @hold stream =>
    simp only [step, Link.write] at h
    cases taken : l.takeFailure .write with
    | some failure => simp [taken, Stage.failed] at h
    | none =>
      cases held : l.heldWrites with
      | some e' =>
        simp only [taken, held] at h
        exact .inr (congrArg some (by simpa using h))
      | none => cases closed : l.closed <;> simp [taken, held, closed, Stage.failed] at h
  | wait =>
    cases closed : l.closed with
    | none => exact .inl ⟨rfl, rfl⟩
    | some e' => simp [step, closed, Stage.failed] at h

theorem goOn_held {e : TransportError} (opened : l.closed = none) (n : Nat) :
    (goOn payload n (.held e) l).1 = .held e := by
  induction n with
  | zero => rfl
  | succ n ih => simpa [goOn, step, opened] using ih

theorem goOn_returns {n : Nat} (steps : stage.left ≤ n)
    (held : ∀ e, stage = .held e → l.heldWrites = some e) :
    (∃ result, (goOn payload n stage l).1 = .ended result) ∨
      ∃ e, (goOn payload n stage l).1 = .held e ∧ l.heldWrites = some e ∧ l.closed = none := by
  -- What a step does not take off the steps that are left, it leaves to a write that is held.
  induction n generalizing stage l with
  | zero =>
    obtain ⟨result, rfl⟩ := eq_ended_of_left (Nat.le_zero.1 steps)
    exact .inl ⟨result, rfl⟩
  | succ n ih =>
    obtain ⟨closed, heldWrites, less | ⟨e, rfl, same⟩⟩ := (called payload stage l).goes_on
    · rw [goOn, ← closed, ← heldWrites]
      refine ih (by omega) fun e he => ?_
      rw [heldWrites]
      obtain ⟨rfl, -⟩ | write := step_held he
      · exact held e rfl
      · exact write
    · have opened : l.closed = none := by
        cases closed : l.closed with
        | none => rfl
        | some e' => simp [step, closed, Stage.failed] at same
      exact .inr ⟨e, goOn_held opened (n + 1), held e rfl, opened⟩

def Stage.stream? : Stage → Option Nat
  | .write stream | .finish stream => some stream
  | _ => none

def IsNumbered (l : Link) : Prop :=
  ∀ call ∈ l.calls, ∀ stream, call.stream? = some stream → stream < l.nextStream

theorem IsNumbered.record (h : IsNumbered l) {call : Call} {next : Nat}
    (grows : l.nextStream ≤ next)
    (below : ∀ stream, call.stream? = some stream → stream < next) :
    IsNumbered { l.record call with nextStream := next } := by
  intro call' mem stream about
  obtain mem | rfl := by simpa [Link.record] using mem
  · exact Nat.lt_of_lt_of_le (h call' mem stream about) grows
  · exact below stream about

theorem Called.numbered {stage' : Stage} {l' : Link} (h : Called payload l stage stage' l')
    (numbered : IsNumbered l)
    (below : ∀ stream, stage.stream? = some stream → stream < l.nextStream) :
    IsNumbered l' ∧ ∀ stream, stage'.stream? = some stream → stream < l'.nextStream := by
  cases h with
  | sendDatagram =>
    exact ⟨numbered.record (Nat.le_refl _) (by simp [Call.stream?]), by simp [Stage.stream?]⟩
  | openStream =>
    exact ⟨numbered.record (Nat.le_succ _) (by simp [Call.stream?]), by simp [Stage.stream?]⟩
  | write => exact ⟨numbered.record (Nat.le_refl _) below, below⟩
  | finish => exact ⟨numbered.record (Nat.le_refl _) below, by simp [Stage.stream?]⟩
  | _ => exact ⟨numbered, by simp [Stage.stream?]⟩

theorem IsNumbered.goOn (h : IsNumbered l) (n : Nat)
    (below : ∀ stream, stage.stream? = some stream → stream < l.nextStream) :
    IsNumbered (Dispatch.goOn payload n stage l).2 := by
  induction n generalizing stage l with
  | zero => exact h
  | succ n ih =>
    obtain ⟨numbered, below⟩ := (called payload stage l).numbered h below
    exact ih numbered below

end Dispatch

end MessageTunnel
