import MessageTunnel.Proofs.Session.Run
/-!
The end of a session as the loops bring it about. `Closure` ties the shutdown, what was made known
and where the two loops stand together; it does not tell the loops apart, so one loop's end serves
for both.
-/
set_option autoImplicit false

namespace MessageTunnel.Session

variable {id : ConnectionId} {loop : Log.InboundLoop} {sh sh' : Shutdown} {l l' : Link}
  {stage stage' : Ending} {known effects : List Effect} {a b : Option Ending} {reason : CloseReason}

def Effect.isClosing : Effect → Bool
  | .traced (.connectionClosed ..) | .released | .sessionClosed _ | .published _ => true
  | _ => false

def Effect.closeReason? : Effect → Option CloseReason
  | .sessionClosed reason => some reason
  | _ => none

def lastRecord : CloseReason → TraceEvent
  | .cooperative _ => .connectionClosed 0 "normal shutdown"
  | .fault detail => .connectionClosed 1 detail

/-- The end of a session, as it is made known: in the trace, whose writer is then given up, to the
host, and to those who wait. -/
def rite (reason : CloseReason) : List Effect :=
  [.traced (lastRecord reason), .released, .sessionClosed reason, .published reason]

theorem ofNotice_notice (reason : CloseReason) :
    TraceEvent.ofNotice reason.notice = lastRecord reason := by
  cases reason <;> rfl

/-- How many of the four closing effects a loop that is the last one has behind it. -/
def rank : Option Ending → Nat
  | some (.release _) => 1
  | some (.notify _) => 2
  | some (.publish _) => 3
  | some .ended => 4
  | _ => 0

def hasLeft : Option Ending → Bool
  | none | some (.classify _) | some .hangUp | some .leave => false
  | _ => true

def hasCalled : Option Ending → Bool
  | none | some (.classify _) => false
  | _ => true

def carried? : Option Ending → Option CloseReason
  | some (.record reason) | some (.release reason) | some (.notify reason)
  | some (.publish reason) => some reason
  | _ => none

def rites (reason : Option CloseReason) : List Effect := (reason.map rite).getD []

/-- The shutdown, the closing effects so far and where two loops stand, as they go together. -/
structure Closure (sh : Shutdown) (known : List Effect) (a b : Option Ending) : Prop where
  running_iff : sh.state = .running ↔ sh.reason = none
  closed_iff : sh.state = .closed ↔ hasLeft a = true ∧ hasLeft b = true
  live : sh.liveLoops = (if hasLeft a then 0 else 1) + (if hasLeft b then 0 else 1)
  called : hasCalled a = true ∨ hasCalled b = true → sh.reason.isSome = true
  carries : ∀ reason, carried? a = some reason → sh.reason = some reason ∧ b = some .ended
  carries' : ∀ reason, carried? b = some reason → sh.reason = some reason ∧ a = some .ended
  known : known = (rites sh.reason).take (min (rank a) (rank b))
  published : sh.published = if min (rank a) (rank b) = 4 then sh.reason else none

theorem Closure.symm (h : Closure sh known a b) : Closure sh known b a where
  running_iff := h.running_iff
  closed_iff := h.closed_iff.trans And.comm
  live := by rw [h.live, Nat.add_comm]
  called := fun hc => h.called hc.symm
  carries := h.carries'
  carries' := h.carries
  known := by rw [h.known, Nat.min_comm]
  published := by rw [h.published, Nat.min_comm]

theorem closure_start : Closure (.start 2) [] none none := by
  constructor <;> simp [Shutdown.start, hasLeft, hasCalled, carried?, rank]

theorem not_hasLeft_of_not_hasCalled {e : Option Ending} (h : hasCalled e = false) :
    hasLeft e = false := by
  cases e with
  | none => rfl
  | some stage => cases stage <;> simp_all [hasCalled, hasLeft]

theorem of_not_hasLeft {e : Option Ending} (h : hasLeft e = false) :
    rank e = 0 ∧ carried? e = none ∧ e ≠ some .ended := by
  cases e with
  | none => simp [rank, carried?]
  | some stage => cases stage <;> simp_all [hasLeft, rank, carried?]

theorem eq_ended {e : Option Ending} (left : hasLeft e = true) (h : carried? e = none) :
    e = some .ended := by
  cases e with
  | none => simp [hasLeft] at left
  | some stage => cases stage <;> simp_all [hasLeft, carried?]

theorem of_carried {e : Option Ending} (h : carried? e = some reason) :
    hasLeft e = true ∧ rank e < 4 := by
  cases e with
  | none => simp [carried?] at h
  | some stage => cases stage <;> simp_all [carried?, hasLeft, rank]

theorem hasLeft_of_rank {e : Option Ending} (h : 0 < rank e) : hasLeft e = true := by
  cases e with
  | none => simp [rank] at h
  | some stage => cases stage <;> simp_all [rank, hasLeft]

theorem Closure.begin (h : Closure sh known a b) (running : sh.state = .running)
    (reason : CloseReason) : Closure (begun sh reason) known a b := by
  have hr : sh.reason = none := h.running_iff.1 running
  have hcalled : hasCalled a = false ∧ hasCalled b = false := by simpa [hr] using h.called
  obtain ⟨ra, ca, -⟩ := of_not_hasLeft (not_hasLeft_of_not_hasCalled hcalled.1)
  obtain ⟨-, cb, -⟩ := of_not_hasLeft (not_hasLeft_of_not_hasCalled hcalled.2)
  exact {
    running_iff := by simp [begun]
    closed_iff := by simp [begun, not_hasLeft_of_not_hasCalled hcalled.1]
    live := h.live
    called := by simp [begun]
    carries := by simp [ca]
    carries' := by simp [cb]
    known := by simp [h.known, ra]
    published := by simp [begun, h.published, ra] }

theorem Closure.goOn (h : Closure sh known (some stage) b) (stays : hasLeft (some stage) = false)
    (stays' : hasLeft (some stage') = false) (called : sh.reason.isSome = true) :
    Closure sh known (some stage') b := by
  obtain ⟨rk, ck, ek⟩ := of_not_hasLeft stays
  obtain ⟨rk', ck', -⟩ := of_not_hasLeft stays'
  exact {
    running_iff := h.running_iff
    closed_iff := by rw [stays', ← stays]; exact h.closed_iff
    live := by rw [stays', ← stays]; exact h.live
    called := fun _ => called
    carries := by simp [ck']
    carries' := fun reason hr => absurd (h.carries' reason hr).2 ek
    known := by rw [rk', ← rk]; exact h.known
    published := by rw [rk', ← rk]; exact h.published }

theorem Closure.of_leave (h : Closure sh known (some .leave) b) :
    sh.state ≠ .closed ∧ known = [] ∧ sh.published = none ∧ carried? b = none := by
  refine ⟨by simp [h.closed_iff, hasLeft], by simp [h.known, rank], by simp [h.published, rank], ?_⟩
  cases hb : carried? b with
  | none => rfl
  | some r => simpa using (h.carries' r hb).2

/-- The loop that leaves first is over; the other one carries the reason to the end. -/
theorem Closure.leave {last : Option CloseReason} (h : Closure sh known (some .leave) b)
    (exit : sh.loopExited = (last, sh')) :
    Closure sh' known (some ((last.map Ending.record).getD .ended)) b := by
  obtain ⟨reason, hreason⟩ := Option.isSome_iff_exists.1 (h.called (.inl rfl))
  obtain ⟨hclosed, hknown, hpublished, hcarried⟩ := h.of_leave
  have hleave : hasLeft (some .leave) = false := rfl
  have hlive := h.live
  -- Two loops live: this one is the first to leave. One loop lives: the other has left before.
  cases hb : hasLeft b with
  | false =>
    obtain ⟨hrank, -, -⟩ := of_not_hasLeft hb
    have hl : sh.liveLoops = 2 := by rw [hlive, hleave, hb]; rfl
    simp only [Shutdown.loopExited, hl, Nat.add_one_sub_one, Nat.succ_ne_zero, false_and, if_false,
      Prod.mk.injEq] at exit
    obtain ⟨rfl, rfl⟩ := exit
    exact {
      running_iff := h.running_iff
      closed_iff := by simp [hclosed, hb]
      live := by rw [hb]; rfl
      called := by simp [hreason]
      carries := by simp [carried?]
      carries' := by simp [hcarried]
      known := by simp [hknown, hrank]
      published := by simp [hpublished, hrank] }
  | true =>
    have hl : sh.liveLoops = 1 := by rw [hlive, hleave, hb]; rfl
    simp only [Shutdown.loopExited, hl, Nat.sub_self, hclosed, ne_eq, not_false_eq_true, and_self,
      if_true, hreason, Option.getD_some, Prod.mk.injEq] at exit
    obtain ⟨rfl, rfl⟩ := exit
    obtain rfl := eq_ended hb hcarried
    exact {
      running_iff := by simp
      closed_iff := by simp [hasLeft]
      live := by simp [hasLeft]
      called := by simp
      carries := by simp [carried?]
      carries' := by simp [carried?]
      known := by simp [hknown, rank]
      published := by simp [hpublished, rank] }

theorem Closure.carry (h : Closure sh known (some stage) b)
    (carried : carried? (some stage) = some reason)
    (carried' : carried? (some stage') = some reason)
    (effects_eq : (rite reason).take (rank (some stage)) ++ effects =
      (rite reason).take (rank (some stage'))) :
    Closure sh (known ++ effects) (some stage') b := by
  obtain ⟨hreason, rfl⟩ := h.carries reason carried
  obtain ⟨left, less⟩ := of_carried carried
  obtain ⟨left', less'⟩ := of_carried carried'
  have same : hasLeft (some stage') = hasLeft (some stage) := left'.trans left.symm
  have hr : rank (some .ended) = 4 := rfl
  exact {
    running_iff := h.running_iff
    closed_iff := by rw [same]; exact h.closed_iff
    live := by rw [same]; exact h.live
    called := by simp [hreason]
    carries := fun r hc => ⟨by rw [hreason, ← carried', hc], rfl⟩
    carries' := by simp [carried?]
    known := by
      have hk := h.known
      simp only [hr, Nat.min_eq_left (Nat.le_of_lt less), rites, hreason, Option.map_some,
        Option.getD_some] at hk
      simp only [hr, Nat.min_eq_left (Nat.le_of_lt less'), rites, hreason, Option.map_some,
        Option.getD_some]
      rw [hk, effects_eq]
    published := by
      have hp := h.published
      rw [hr, Nat.min_eq_left (Nat.le_of_lt less), if_neg (Nat.ne_of_lt less)] at hp
      rw [hr, Nat.min_eq_left (Nat.le_of_lt less'), if_neg (Nat.ne_of_lt less'), hp] }

theorem Closure.publish (h : Closure sh known (some (.publish reason)) b) :
    Closure (sh.publish reason) (known ++ [.published reason]) (some .ended) b := by
  obtain ⟨hreason, rfl⟩ := h.carries reason rfl
  exact {
    running_iff := h.running_iff
    closed_iff := h.closed_iff
    live := h.live
    called := by simp [Shutdown.publish, hreason]
    carries := by simp [carried?]
    carries' := by simp [carried?]
    known := by simp [h.known, Shutdown.publish, hreason, rank, rites, rite]
    published := by simp [Shutdown.publish, hreason, rank] }

theorem Closure.endMove (h : Closure sh known (some stage) b)
    (move : EndMove id loop sh l stage sh' l' stage' effects) :
    Closure sh' (known ++ effects.filter Effect.isClosing) (some stage') b := by
  cases move with
  | beginQuiet running quiet =>
    simpa [Effect.isClosing] using (h.begin running _).goOn rfl rfl rfl
  | beginFault running fault =>
    simpa [Effect.isClosing] using (h.begin running _).goOn rfl rfl rfl
  | late closing =>
    have hr : sh.reason.isSome = true := by
      simpa [Option.isSome_iff_ne_none, h.running_iff] using closing
    simpa [Effect.isClosing] using h.goOn rfl rfl hr
  | hangUp => simpa using h.goOn rfl rfl (h.called (.inl rfl))
  | leave other => simpa using h.leave other
  | leaveLast last => simpa using h.leave last
  | @record _ reason => exact h.carry rfl rfl (by rw [ofNotice_notice]; cases reason <;> rfl)
  | release => exact h.carry rfl rfl rfl
  | notify => exact h.carry rfl rfl rfl
  | publish => exact h.publish

theorem Closure.meet (h : Closure sh known none b) (e : TransportError) :
    Closure sh known (some (.classify e)) b where
  running_iff := h.running_iff
  closed_iff := h.closed_iff
  live := h.live
  called := h.called
  carries := by simp [carried?]
  carries' := fun reason hr => absurd (h.carries' reason hr).2 (by simp)
  known := h.known
  published := h.published

theorem SendMove.isClosing {payload : Payload} {channel : Channel} {stage stage' : Stage}
    (move : SendMove payload channel sh l stage l' stage' effects) :
    effects.filter Effect.isClosing = [] := by
  cases move with
  | call => unfold callEffects; split <;> rfl
  | @sent used => cases used <;> rfl
  | _ => rfl

theorem DrainMove.isClosing {l : Link} {d d' : Drain} (move : DrainMove l d d' effects) :
    effects.filter Effect.isClosing = [] := by
  cases move <;> rfl

theorem Closure.move {c c' : Core} {t : Task}
    (h : Closure c.shutdown known c.reader.ending? c.acceptor.ending?)
    (move : Move c t c' effects) :
    Closure c'.shutdown (known ++ effects.filter Effect.isClosing) c'.reader.ending?
      c'.acceptor.ending? := by
  cases move with
  | take reading => simpa [reading, Reader.ending?, Effect.isClosing] using h
  | takeError reading =>
    have hm : Closure c.shutdown known none c.acceptor.ending? := by
      simpa [reading, Reader.ending?] using h
    simpa [Reader.ending?] using hm.meet _
  | readClosed reading =>
    have hm : Closure c.shutdown known none c.acceptor.ending? := by
      simpa [reading, Reader.ending?] using h
    simpa [Reader.ending?] using hm.meet _
  | recordDatagram reader => simpa [reader, Reader.ending?, Effect.isClosing] using h
  | deliverDatagram reader => simpa [reader, Reader.ending?, Effect.isClosing] using h
  | endReader reader move =>
    simp only [reader, Reader.ending?] at h
    exact h.endMove move
  | accept accepting => simpa [accepting, Acceptor.ending?] using h
  | acceptError accepting => simpa [accepting, Acceptor.ending?] using h
  | join joining =>
    have hm : Closure c.shutdown known c.reader.ending? none := by
      simpa [joining, Acceptor.ending?] using h
    simpa [Acceptor.ending?] using (hm.symm.meet _).symm
  | endAcceptor acceptor move =>
    simp only [acceptor, Acceptor.ending?] at h
    exact (h.symm.endMove move).symm
  | drain drain move => simpa [move.isClosing] using h
  | call caller move =>
    cases move with
    | send out move => simpa [move.isClosing] using h
    | stopFirst running => simpa [Effect.isClosing] using h.begin running _
    | _ => simpa using h

end MessageTunnel.Session
