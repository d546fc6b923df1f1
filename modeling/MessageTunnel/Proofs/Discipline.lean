import MessageTunnel.Proofs.Attempts
set_option autoImplicit false

namespace MessageTunnel.Dispatch

inductive Order where
  | send (payload : Payload)
  | sendStream (payload : Payload)

def Order.payload : Order → Payload
  | .send payload | .sendStream payload => payload

def Order.channel (datagrams : Bool) : Order → Channel
  | .send payload => route datagrams payload.length
  | .sendStream _ => .stream

def Order.carryOut (datagrams : Bool) (l : Link) : Order → Stage × Link
  | .send payload => Dispatch.send datagrams l payload
  | .sendStream payload => Dispatch.sendStream l payload

def Order.attempts (datagrams : Bool) (l : Link) (o : Order) : List Attempt :=
  Dispatch.attempts o.payload 4 (.first (o.channel datagrams)) l

inductive Job where
  | order (o : Order)
  | event (e : Link.Event)
  | close (notice : CloseNotice)

def Job.leave (datagrams : Bool) (l : Link) : Job → Link
  | .order o => (o.carryOut datagrams l).2
  | .event e => l.apply e
  | .close notice => l.close notice

def after (datagrams : Bool) (l : Link) (jobs : List Job) : Link :=
  jobs.foldl (Job.leave datagrams) l

def streamCalls (stream : Nat) (payload : Payload) : List Call :=
  [.openStream stream, .write stream payload, .finish stream]

variable {datagrams : Bool} {l first : Link} {o : Order} {payload : Payload} {channel : Channel}
  {made : List Attempt} {stage : Stage} {limit : Nat}

theorem Order.carryOut_eq (datagrams : Bool) (l : Link) (o : Order) :
    o.carryOut datagrams l = goOn o.payload 4 (.first (o.channel datagrams)) l := by
  cases o <;> rfl

theorem Order.way (datagrams : Bool) (l : Link) (o : Order) :
    Way l o.payload (o.channel datagrams) (o.attempts datagrams l) (o.carryOut datagrams l).1 := by
  rw [carryOut_eq]
  exact (way_start l o.payload _).further 3 _

theorem Order.channel_eq_datagram :
    o.channel datagrams = .datagram ↔
      ∃ payload, o = .send payload ∧ datagrams = true ∧ payload.length ≤ 1200 := by
  cases o with
  | send payload =>
    simp only [channel, route, Order.send.injEq, exists_eq_left']
    change (if datagrams = true ∧ payload.length ≤ 1200 then _ else _) = Channel.datagram ↔ _
    simp
  | sendStream payload => simp [channel]

theorem isNumbered_after (datagrams : Bool) (limit : Option Nat) (jobs : List Job) :
    IsNumbered (after datagrams (.new limit) jobs) := by
  -- The induction is on the jobs still to come, from any link that is numbered.
  suffices h : ∀ l, IsNumbered l → IsNumbered (after datagrams l jobs) from
    h _ (by simp [IsNumbered, Link.new])
  induction jobs with
  | nil => exact fun _ numbered => numbered
  | cons job rest ih =>
    intro l numbered
    refine ih _ ?_
    cases job with
    | order o =>
      rw [Job.leave, o.carryOut_eq]
      exact numbered.goOn 4 (by cases o.channel datagrams <;> simp [Stage.first, Stage.stream?])
    | event e => cases e <;> exact numbered
    | close notice => exact numbered.record (Nat.le_refl _) (by simp [Call.stream?])

theorem Way.datagram (h : Way first payload .datagram made stage)
    (limited : first.limit = some limit) (fits : payload.length ≤ limit) :
    ∃ error?, made = [⟨.sendDatagram payload, error?⟩] := by
  cases h with
  | unavailable unlimited => simp [limited] at unlimited
  | tooLarge given long =>
    obtain rfl := Option.some.inj (given.symm.trans limited)
    omega
  | refused | sent => exact ⟨_, rfl⟩

theorem Way.unlimited (h : Way first payload .datagram made stage) (none : first.limit = none) :
    made = [] ∧ stage = .ended (.error .datagramsUnavailable) := by
  cases h with
  | unavailable => exact ⟨rfl, rfl⟩
  | tooLarge limited | refused limited | sent limited => simp [none] at limited

theorem Way.long (h : Way first payload .datagram made stage) (limited : first.limit = some limit)
    (long : limit < payload.length) :
    made = [] ∧ stage = .ended (.error (.datagramTooLarge payload.length limit)) := by
  cases h with
  | unavailable unlimited => simp [limited] at unlimited
  | tooLarge given =>
    obtain rfl := Option.some.inj (given.symm.trans limited)
    exact ⟨rfl, rfl⟩
  | refused given fits | sent given fits =>
    obtain rfl := Option.some.inj (given.symm.trans limited)
    omega

theorem Way.streamed (h : Way first payload .stream made stage)
    (done : stage ≠ .write first.nextStream ∧ stage ≠ .finish first.nextStream) :
    made ≠ [] ∧ made.map Attempt.call <+: streamCalls first.nextStream payload ∧
      ((∀ a ∈ made, a.error? = none) →
        made.map Attempt.call = streamCalls first.nextStream payload) := by
  cases h with
  | opened | written => simp at done
  | _ => simp [streamCalls]

theorem Way.last (h : Way first payload channel made stage) :
    ∀ a ∈ made.dropLast, a.error? = none := by
  cases h <;> simp

theorem Way.failed (h : Way first payload channel made stage) :
    ∀ a ∈ made, ∀ cause, a.error? = some cause →
      stage = .ended (.error (.ofTransport cause)) ∨ stage = .held cause := by
  cases h <;> simp [Stage.failed]

theorem Way.error {e : SessionError} (h : Way first payload channel made (.ended (.error e))) :
    made = [] ∨ ∃ a ∈ made, ∃ cause, a.error? = some cause ∧ e = .ofTransport cause := by
  cases h with
  | unavailable | tooLarge => exact .inl rfl
  | refused | unopened | unwritten | unfinished => simp

theorem Way.sent_iff (h : Way first payload channel made stage) (used : Channel)
    (done : stage ≠ .write first.nextStream ∧ stage ≠ .finish first.nextStream) :
    stage = .ended (.ok used) ↔
      used = channel ∧ made ≠ [] ∧ ∀ a ∈ made, a.error? = none := by
  cases h with
  | opened | written => simp at done
  | sent | finished => simpa using ⟨Eq.symm, Eq.symm⟩
  | _ => simp [Stage.failed]

theorem Way.finished_iff (h : Way first payload channel made stage) :
    stage = .ended (.ok .stream) ↔ ∃ stream, ⟨.finish stream, none⟩ ∈ made := by
  cases h <;> simp [Stage.failed]

theorem Way.within (h : Way first payload channel made stage) :
    ∀ a ∈ made, ∀ payload', a.call = .sendDatagram payload' →
      payload' = payload ∧ channel = .datagram ∧
        ∃ limit, first.limit = some limit ∧ payload.length ≤ limit := by
  cases h with
  | refused limited fits | sent limited fits => simp [limited, fits]
  | _ => simp

/-- How a message is sent that finds this link. -/
structure KeepsDiscipline (datagrams : Bool) (l : Link) (o : Order) : Prop where
  datagram : ∀ payload limit, o = .send payload → datagrams = true → payload.length ≤ 1200 →
    l.limit = some limit → payload.length ≤ limit →
    ∃ error?, o.attempts datagrams l = [⟨.sendDatagram payload, error?⟩]
  unavailable : ∀ payload, o = .send payload → datagrams = true → payload.length ≤ 1200 →
    l.limit = none → o.attempts datagrams l = [] ∧
      (o.carryOut datagrams l).1 = .ended (.error .datagramsUnavailable)
  tooLarge : ∀ payload limit, o = .send payload → datagrams = true → payload.length ≤ 1200 →
    l.limit = some limit → limit < payload.length → o.attempts datagrams l = [] ∧
      (o.carryOut datagrams l).1 = .ended (.error (.datagramTooLarge payload.length limit))
  stream : (∀ payload, o = .send payload → datagrams = true → 1200 < payload.length) →
    o.attempts datagrams l ≠ [] ∧
      (o.attempts datagrams l).map Attempt.call <+: streamCalls l.nextStream o.payload ∧
      ((∀ a ∈ o.attempts datagrams l, a.error? = none) →
        (o.attempts datagrams l).map Attempt.call = streamCalls l.nextStream o.payload)
  fresh : ∀ call ∈ l.calls, call.stream? ≠ some l.nextStream
  last : ∀ a ∈ (o.attempts datagrams l).dropLast, a.error? = none
  failed : ∀ a ∈ o.attempts datagrams l, ∀ cause, a.error? = some cause →
    (o.carryOut datagrams l).1 = .ended (.error (.ofTransport cause)) ∨
      (o.carryOut datagrams l).1 = .held cause
  error : ∀ e, (o.carryOut datagrams l).1 = .ended (.error e) → o.attempts datagrams l = [] ∨
    ∃ a ∈ o.attempts datagrams l, ∃ cause, a.error? = some cause ∧ e = .ofTransport cause
  sent : ∀ used, (o.carryOut datagrams l).1 = .ended (.ok used) ↔
    used = o.channel datagrams ∧ o.attempts datagrams l ≠ [] ∧
      ∀ a ∈ o.attempts datagrams l, a.error? = none
  finished : (o.carryOut datagrams l).1 = .ended (.ok .stream) ↔
    ∃ stream, ⟨.finish stream, none⟩ ∈ o.attempts datagrams l
  /-- Only a held write keeps a message from its end, as long as the connection is open. -/
  returns : (∃ result, (o.carryOut datagrams l).1 = .ended result) ∨
    ∃ e, (o.carryOut datagrams l).1 = .held e ∧ l.heldWrites = some e ∧ l.closed = none
  within : ∀ a ∈ o.attempts datagrams l, ∀ payload, a.call = .sendDatagram payload →
    payload.length ≤ 1200 ∧ ∃ limit, l.limit = some limit ∧ payload.length ≤ limit
  /-- The link bears the marks of these attempts, one after another, and of no others. -/
  link : (o.carryOut datagrams l).2 =
    (o.attempts datagrams l).foldl (fun l a => (l.perform a.call).2) l
  record : (o.carryOut datagrams l).2.calls =
    l.calls ++ (o.attempts datagrams l).filterMap Attempt.carriedOut?

/-- Whatever was sent before, and whatever has happened to the link, each message is sent by its
calls in their order, without a second try and without another way out. -/
theorem keeps_discipline (datagrams : Bool) (limit : Option Nat) (jobs : List Job) (o : Order) :
    KeepsDiscipline datagrams (after datagrams (.new limit) jobs) o := by
  have numbered := isNumbered_after datagrams limit jobs
  generalize after datagrams (.new limit) jobs = l at *
  have way := o.way datagrams l
  have returns : (∃ result, (o.carryOut datagrams l).1 = .ended result) ∨
      ∃ e, (o.carryOut datagrams l).1 = .held e ∧ l.heldWrites = some e ∧ l.closed = none := by
    rw [o.carryOut_eq]
    exact goOn_returns (by cases o.channel datagrams <;> simp [Stage.first, Stage.left])
      (by cases o.channel datagrams <;> simp [Stage.first])
  have done : (o.carryOut datagrams l).1 ≠ .write l.nextStream ∧
      (o.carryOut datagrams l).1 ≠ .finish l.nextStream := by
    obtain ⟨result, ended⟩ | ⟨e, held, -⟩ := returns
    · simp [ended]
    · simp [held]
  have short {payload : Payload} (ho : o = .send payload) (enabled : datagrams = true)
      (short : payload.length ≤ 1200) :
      Way l payload .datagram (o.attempts datagrams l) (o.carryOut datagrams l).1 := by
    have routed := Order.channel_eq_datagram.2 ⟨payload, ho, enabled, short⟩
    rw [routed] at way
    subst ho
    exact way
  exact {
    datagram := fun payload limit ho enabled hs limited fits =>
      (short ho enabled hs).datagram limited fits
    unavailable := fun payload ho enabled hs none => (short ho enabled hs).unlimited none
    tooLarge := fun payload limit ho enabled hs limited long =>
      (short ho enabled hs).long limited long
    stream := by
      intro long
      have routed : o.channel datagrams = .stream := by
        cases hc : o.channel datagrams with
        | stream => rfl
        | datagram =>
          obtain ⟨payload, ho, enabled, hs⟩ := Order.channel_eq_datagram.1 hc
          exact absurd (long payload ho enabled) (Nat.not_lt.2 hs)
      rw [routed] at way
      exact way.streamed done
    fresh := fun call mem about => Nat.lt_irrefl _ (numbered call mem _ about)
    last := way.last
    failed := way.failed
    error := by
      intro e he
      rw [he] at way
      exact way.error
    sent := fun used => way.sent_iff used done
    finished := way.finished_iff
    returns := returns
    within := by
      intro a mem payload hands
      obtain ⟨rfl, routed, limit, limited, fits⟩ := way.within a mem payload hands
      obtain ⟨payload, rfl, -, hs⟩ := Order.channel_eq_datagram.1 routed
      exact ⟨hs, limit, limited, fits⟩
    link := by
      rw [o.carryOut_eq]
      exact goOn_link ..
    record := by
      rw [o.carryOut_eq]
      exact calls_goOn .. }

end MessageTunnel.Dispatch
