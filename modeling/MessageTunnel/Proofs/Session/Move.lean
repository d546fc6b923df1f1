import MessageTunnel.Proofs.Session.Core
/-!
What a step of a session can be, case by case: who moves, what it needs of the core, what becomes of
the core, and what it makes visible. `exists_move` reads a step off as one of these moves; nothing
else has to open the functions that take steps.
-/
set_option autoImplicit false

namespace MessageTunnel.Session

def lateEntry (id : ConnectionId) (loop : Log.InboundLoop) (e : TransportError) : Log.Entry :=
  match e.disposition with
  | .cooperative => .loopExited id loop
  | .fault => .loopFailedWhileClosing id loop e

def begun (sh : Shutdown) (reason : CloseReason) : Shutdown :=
  { sh with state := .closing, reason := some reason }

/-- The end of a loop, between its last error and the end of the session. -/
inductive EndMove (id : ConnectionId) (loop : Log.InboundLoop) :
    Shutdown → Link → Ending → Shutdown → Link → Ending → List Effect → Prop where
  | beginQuiet {sh : Shutdown} {l : Link} {e : TransportError} (running : sh.state = .running)
      (quiet : e.disposition = .cooperative) :
      EndMove id loop sh l (.classify e) (begun sh (.ofTransport e)) l .leave
        [.logged (.cooperativeClose id loop), .logged (.loopExited id loop)]
  | beginFault {sh : Shutdown} {l : Link} {e : TransportError} (running : sh.state = .running)
      (fault : e.disposition = .fault) :
      EndMove id loop sh l (.classify e) (begun sh (.ofTransport e)) l .hangUp
        [.logged (.transportFault id loop e)]
  | late {sh : Shutdown} {l : Link} {e : TransportError} (closing : sh.state ≠ .running) :
      EndMove id loop sh l (.classify e) sh l .leave [.logged (lateEntry id loop e)]
  | hangUp {sh : Shutdown} {l : Link} : EndMove id loop sh l .hangUp sh (l.close .fault) .leave []
  | leave {sh sh' : Shutdown} {l : Link} (other : sh.loopExited = (none, sh')) :
      EndMove id loop sh l .leave sh' l .ended []
  | leaveLast {sh sh' : Shutdown} {l : Link} {reason : CloseReason}
      (last : sh.loopExited = (some reason, sh')) :
      EndMove id loop sh l .leave sh' l (.record reason) []
  | record {sh : Shutdown} {l : Link} {reason : CloseReason} :
      EndMove id loop sh l (.record reason) sh l (.release reason)
        [.traced (.ofNotice reason.notice)]
  | release {sh : Shutdown} {l : Link} {reason : CloseReason} :
      EndMove id loop sh l (.release reason) sh l (.notify reason) [.released]
  | notify {sh : Shutdown} {l : Link} {reason : CloseReason} :
      EndMove id loop sh l (.notify reason) sh l (.publish reason)
        [.sessionClosed reason, .logged (.sessionClosed id reason)]
  | publish {sh : Shutdown} {l : Link} {reason : CloseReason} :
      EndMove id loop sh l (.publish reason) (sh.publish reason) l .ended [.published reason]

def partsLeft (part : Payload) (rest : List (Except TransportError Payload)) :
    List (Except TransportError Payload) :=
  if (part.drop Link.readSize).isEmpty then rest else .ok (part.drop Link.readSize) :: rest

/-- The drain of one stream; it needs the link only to see whether a stalled stream is cut off. -/
inductive DrainMove (l : Link) : Drain → Drain → List Effect → Prop where
  | piece {stream : InboundStream} {part message : Payload}
      {rest : List (Except TransportError Payload)} (parts : stream.parts = .ok part :: rest) :
      DrainMove l (.reading stream message)
        (.reading ⟨partsLeft part rest, stream.stalls⟩ (message ++ part.take Link.readSize)) []
  | complete {stream : InboundStream} {message : Payload} (parts : stream.parts = [])
      (ends : stream.stalls = false) :
      DrainMove l (.reading stream message) (.record (.delivered message))
        [.logged (.streamReceived message.length)]
  | broken {stream : InboundStream} {message : Payload} {e : TransportError}
      {rest : List (Except TransportError Payload)} (parts : stream.parts = .error e :: rest) :
      DrainMove l (.reading stream message) (.record (.discarded message.length e))
        [.logged (.streamDiscarded message.length e)]
  | cut {stream : InboundStream} {message : Payload} {e : TransportError}
      (parts : stream.parts = []) (stalls : stream.stalls = true) (closed : l.closed = some e) :
      DrainMove l (.reading stream message) (.record (.discarded message.length e))
        [.logged (.streamDiscarded message.length e)]
  | recordDelivered {message : Payload} :
      DrainMove l (.record (.delivered message)) (.deliver message)
        [.traced (.streamReceived message.length)]
  | recordDiscarded {length : Nat} {e : TransportError} :
      DrainMove l (.record (.discarded length e)) (.ended (.discarded length e))
        [.traced (.streamDiscarded length e.message)]
  | deliver {message : Payload} :
      DrainMove l (.deliver message) (.ended (.delivered message)) [.message message]

def Request.outgoing? (o : Options) : Request → Option (Payload × Channel)
  | .send payload => some (payload, Dispatch.route o.datagrams payload.length)
  | .sendStream payload => some (payload, .stream)
  | .stop | .awaitClosed => none

def callEffects (payload : Payload) : Dispatch.Stage → List Effect
  | .ended (.ok channel) => [.logged (sentEntry channel payload.length)]
  | _ => []

inductive SendMove (payload : Payload) (channel : Channel) (sh : Shutdown) :
    Link → Stage → Link → Stage → List Effect → Prop where
  | refused {l : Link} (closing : sh.state ≠ .running) :
      SendMove payload channel sh l .asked l (.replied (.failed .closed)) []
  | admitted {l : Link} (running : sh.state = .running) :
      SendMove payload channel sh l .asked l (.sending (.first channel)) []
  | call {l l' : Link} {stage next : Dispatch.Stage}
      (goesOn : ∀ result, stage ≠ .ended result)
      (moves : ∀ e, stage = .held e → ∀ e', next ≠ .held e')
      (step : Dispatch.step payload stage l = (next, l')) :
      SendMove payload channel sh l (.sending stage) l' (.sending next) (callEffects payload next)
  | sent {l : Link} {used : Channel} :
      SendMove payload channel sh l (.sending (.ended (.ok used))) l (.replied (.sent used))
        [.traced (sentEvent used payload.length)]
  | failed {l : Link} {e : SessionError} :
      SendMove payload channel sh l (.sending (.ended (.error e))) l
        (.replied (.failed (if sh.state = .running then e else .closed))) []

inductive CallerMove (id : ConnectionId) (o : Options) :
    Shutdown → Link → Caller → Shutdown → Link → Stage → List Effect → Prop where
  | send {sh : Shutdown} {l l' : Link} {c : Caller} {payload : Payload} {channel : Channel}
      {stage : Stage} {effects : List Effect}
      (out : c.request.outgoing? o = some (payload, channel))
      (move : SendMove payload channel sh l c.stage l' stage effects) :
      CallerMove id o sh l c sh l' stage effects
  | stopFirst {sh : Shutdown} {l : Link} (running : sh.state = .running) :
      CallerMove id o sh l ⟨.stop, .asked⟩ (begun sh (.cooperative .here)) l .hangUp
        [.logged (.sessionStopping id)]
  | stopLate {sh : Shutdown} {l : Link} (closing : sh.state ≠ .running) :
      CallerMove id o sh l ⟨.stop, .asked⟩ sh l (.replied (.failed .closed)) []
  | stopHangUp {sh : Shutdown} {l : Link} :
      CallerMove id o sh l ⟨.stop, .hangUp⟩ sh (l.close .cooperative) (.replied .stopped) []
  | told {sh : Shutdown} {l : Link} {reason : CloseReason}
      (published : sh.published = some reason) :
      CallerMove id o sh l ⟨.awaitClosed, .asked⟩ sh l (.replied (.closed reason)) []

/-- One step of one task, with what becomes of the core and what is made visible. -/
inductive Move (c : Core) : Task → Core → List Effect → Prop where
  | take {payload : Payload} {rest : List (Except TransportError Payload)}
      (reading : c.reader = .reading) (opened : c.link.closed = none)
      (queue : c.link.datagrams = .ok payload :: rest) :
      Move c .reader
        { c with link := { c.link with datagrams := rest }, reader := .record payload }
        [.logged (.datagramReceived payload.length)]
  | takeError {e : TransportError} {rest : List (Except TransportError Payload)}
      (reading : c.reader = .reading) (opened : c.link.closed = none)
      (queue : c.link.datagrams = .error e :: rest) :
      Move c .reader
        { c with link := { c.link with datagrams := rest }, reader := .ending (.classify e) } []
  | readClosed {e : TransportError} (reading : c.reader = .reading)
      (closed : c.link.closed = some e) :
      Move c .reader { c with reader := .ending (.classify e) } []
  | recordDatagram {payload : Payload} (reader : c.reader = .record payload) :
      Move c .reader { c with reader := .deliver payload }
        [.traced (.datagramReceived payload.length)]
  | deliverDatagram {payload : Payload} (reader : c.reader = .deliver payload) :
      Move c .reader { c with reader := .reading } [.message payload]
  | endReader {sh : Shutdown} {l : Link} {stage stage' : Ending} {effects : List Effect}
      (reader : c.reader = .ending stage)
      (move : EndMove c.id .datagrams c.shutdown c.link stage sh l stage' effects) :
      Move c .reader { c with shutdown := sh, link := l, reader := .ending stage' } effects
  | accept {stream : InboundStream} {rest : List InboundStream}
      (accepting : c.acceptor = .accepting) (works : c.link.acceptFailure = none)
      (opened : c.link.closed = none) (queue : c.link.streams = stream :: rest) :
      Move c .acceptor
        { c with
          link := { c.link with streams := rest }, drains := c.drains ++ [.reading stream []] }
        []
  | acceptError {e : TransportError} (accepting : c.acceptor = .accepting)
      (fails : c.link.acceptFailure = some e ∨ c.link.closed = some e) :
      Move c .acceptor { c with acceptor := .joining e } []
  | join {e : TransportError} (joining : c.acceptor = .joining e)
      (drained : c.drains.all Drain.isEnded = true) :
      Move c .acceptor { c with acceptor := .ending (.classify e) } []
  | endAcceptor {sh : Shutdown} {l : Link} {stage stage' : Ending} {effects : List Effect}
      (acceptor : c.acceptor = .ending stage)
      (move : EndMove c.id .streams c.shutdown c.link stage sh l stage' effects) :
      Move c .acceptor { c with shutdown := sh, link := l, acceptor := .ending stage' } effects
  | drain {number : Nat} {d d' : Drain} {effects : List Effect} (drain : c.drains[number]? = some d)
      (move : DrainMove c.link d d' effects) :
      Move c (.drain number) { c with drains := c.drains.set number d' } effects
  | call {number : Nat} {k : Caller} {sh : Shutdown} {l : Link} {stage : Stage}
      {effects : List Effect} (caller : c.callers[number]? = some k)
      (move : CallerMove c.id c.options c.shutdown c.link k sh l stage effects) :
      Move c (.caller number)
        { c with
          shutdown := sh, link := l, callers := c.callers.set number { k with stage := stage } }
        effects

theorem exists_endMove {s s' : Session} {loop : Log.InboundLoop} {stage stage' : Ending}
    (h : s.endStep? loop stage = some (s', stage')) :
    ∃ sh l effects, EndMove s.id loop s.shutdown s.link stage sh l stage' effects ∧
      s'.core = { s.core with shutdown := sh, link := l } ∧ Adds s s' effects := by
  cases stage with
  | classify e =>
    by_cases running : s.shutdown.state = .running
    · cases he : e.disposition with
      | cooperative =>
        simp only [endStep?, Shutdown.beginClosing, running, he, if_true, Option.some.injEq,
          Prod.mk.injEq] at h
        obtain ⟨rfl, rfl⟩ := h
        exact ⟨_, _, _, .beginQuiet running he, rfl,
          [.logged (.cooperativeClose s.id loop), .logged (.loopExited s.id loop)],
          by simp [log, emit], rfl⟩
      | fault =>
        simp only [endStep?, Shutdown.beginClosing, running, he, if_true, Option.some.injEq,
          Prod.mk.injEq] at h
        obtain ⟨rfl, rfl⟩ := h
        exact ⟨_, _, _, .beginFault running he, rfl, _, rfl, rfl⟩
    · have hl : s' = s.log (lateEntry s.id loop e) ∧ stage' = .leave := by
        cases he : e.disposition <;>
          simp_all [endStep?, Shutdown.beginClosing, lateEntry]
      obtain ⟨rfl, rfl⟩ := hl
      refine ⟨_, _, _, .late running, rfl, _, rfl, ?_⟩
      cases he : e.disposition <;> simp [lateEntry, he, Effect.isDiagnostic]
  | hangUp =>
    simp only [endStep?, Option.some.injEq, Prod.mk.injEq] at h
    obtain ⟨rfl, rfl⟩ := h
    exact ⟨_, _, _, .hangUp, rfl, .of_history_eq rfl⟩
  | leave =>
    cases hx : s.shutdown.loopExited with
    | mk reason sh =>
      simp only [endStep?, hx, Option.some.injEq, Prod.mk.injEq] at h
      obtain ⟨rfl, rfl⟩ := h
      cases reason with
      | none => exact ⟨_, _, _, .leave hx, rfl, .of_history_eq rfl⟩
      | some reason => exact ⟨_, _, _, .leaveLast hx, rfl, .of_history_eq rfl⟩
  | record reason =>
    simp only [endStep?, Option.some.injEq, Prod.mk.injEq] at h
    obtain ⟨rfl, rfl⟩ := h
    exact ⟨_, _, _, .record, core_trace s _, adds_trace s _⟩
  | release reason =>
    simp only [endStep?, Option.some.injEq, Prod.mk.injEq] at h
    obtain ⟨rfl, rfl⟩ := h
    have hv := visible_release s.registry s.id
    exact ⟨_, _, _, .release, rfl, _, rfl, by simp [hv, Effect.isDiagnostic]⟩
  | notify reason =>
    simp only [endStep?, Option.some.injEq, Prod.mk.injEq] at h
    obtain ⟨rfl, rfl⟩ := h
    exact ⟨_, _, _, .notify, rfl, _, rfl, rfl⟩
  | publish reason =>
    simp only [endStep?, Option.some.injEq, Prod.mk.injEq] at h
    obtain ⟨rfl, rfl⟩ := h
    exact ⟨_, _, _, .publish, rfl, _, rfl, rfl⟩
  | ended => simp [endStep?] at h

theorem exists_drainMove {s s' : Session} {d d' : Drain} (h : s.drainStep? d = some (s', d')) :
    ∃ effects, DrainMove s.link d d' effects ∧ s'.core = s.core ∧ Adds s s' effects := by
  cases d with
  | reading stream message =>
    unfold drainStep? Link.read at h
    cases parts : stream.parts with
    | nil =>
      cases stalls : stream.stalls with
      | false =>
        simp only [parts, stalls, Bool.false_eq_true, if_false, Option.some.injEq,
          Prod.mk.injEq] at h
        obtain ⟨rfl, rfl⟩ := h
        exact ⟨_, .complete parts stalls, rfl, _, rfl, rfl⟩
      | true =>
        cases closed : s.link.closed with
        | none => simp [parts, stalls, closed] at h
        | some e =>
          simp only [parts, stalls, closed, if_true, Option.map_some, Option.some.injEq,
            Prod.mk.injEq] at h
          obtain ⟨rfl, rfl⟩ := h
          exact ⟨_, .cut parts stalls closed, rfl, _, rfl, rfl⟩
    | cons part rest =>
      cases part with
      | ok part =>
        simp only [parts, Option.some.injEq, Prod.mk.injEq] at h
        obtain ⟨rfl, rfl⟩ := h
        exact ⟨_, .piece parts, rfl, .of_history_eq rfl⟩
      | error e =>
        simp only [parts, Option.some.injEq, Prod.mk.injEq] at h
        obtain ⟨rfl, rfl⟩ := h
        exact ⟨_, .broken parts, rfl, _, rfl, rfl⟩
  | record outcome =>
    cases outcome <;>
    · simp only [drainStep?, Option.some.injEq, Prod.mk.injEq] at h
      obtain ⟨rfl, rfl⟩ := h
      exact ⟨_, by constructor, by simp, adds_trace s _⟩
  | deliver message =>
    simp only [drainStep?, Option.some.injEq, Prod.mk.injEq] at h
    obtain ⟨rfl, rfl⟩ := h
    exact ⟨_, .deliver, rfl, _, rfl, rfl⟩
  | ended outcome => simp [drainStep?] at h

theorem callEffects_eq_nil {payload : Payload} {next : Dispatch.Stage}
    (h : ∀ used, next = .ended (.ok used) → False) : callEffects payload next = [] := by
  unfold callEffects
  split
  · exact absurd rfl (h _)
  · rfl

theorem visible_callEffects (payload : Payload) (next : Dispatch.Stage) :
    visible (callEffects payload next) = callEffects payload next := by
  unfold callEffects sentEntry
  split
  · split <;> rfl
  · rfl

theorem sendStep?_sending {s : Session} {payload : Payload} {channel : Channel}
    {stage next : Dispatch.Stage} {l : Link} (goesOn : ∀ result, stage ≠ .ended result)
    (moves : ∀ e, stage = .held e → ∀ e', next ≠ .held e')
    (step : Dispatch.step payload stage s.link = (next, l)) :
    s.sendStep? payload channel (.sending stage) =
      some ({ s with link := l }.emit (callEffects payload next), .sending next) := by
  cases stage with
  | ended result => exact absurd rfl (goesOn result)
  | _ =>
    unfold sendStep?
    simp only [step]
    split
    · simp_all
    · rfl
    · rename_i hok _
      simp [callEffects_eq_nil hok, emit]

theorem exists_sendMove {s s' : Session} {payload : Payload} {channel : Channel}
    {stage stage' : Stage} (h : s.sendStep? payload channel stage = some (s', stage')) :
    ∃ l effects, SendMove payload channel s.shutdown s.link stage l stage' effects ∧
      s'.core = { s.core with link := l } ∧ Adds s s' effects := by
  cases stage with
  | asked =>
    by_cases running : s.shutdown.state = .running
    · simp only [sendStep?, Shutdown.ensureRunning, running, if_true, Option.some.injEq,
        Prod.mk.injEq] at h
      obtain ⟨rfl, rfl⟩ := h
      exact ⟨_, _, .admitted running, rfl, .of_history_eq rfl⟩
    · simp only [sendStep?, Shutdown.ensureRunning, running, if_false, Option.some.injEq,
        Prod.mk.injEq] at h
      obtain ⟨rfl, rfl⟩ := h
      exact ⟨_, _, .refused running, rfl, .of_history_eq rfl⟩
  | sending stage =>
    cases step : Dispatch.step payload stage s.link with
    | mk next l =>
      -- A write that stays held is no step, and one that has ended calls for nothing more.
      have call (goesOn : ∀ result, stage ≠ .ended result)
          (moves : ∀ e, stage = .held e → ∀ e', next ≠ .held e') :
          ∃ l effects,
            SendMove payload channel s.shutdown s.link (.sending stage) l stage' effects ∧
            s'.core = { s.core with link := l } ∧ Adds s s' effects := by
        rw [sendStep?_sending goesOn moves step, Option.some.injEq, Prod.mk.injEq] at h
        obtain ⟨rfl, rfl⟩ := h
        exact ⟨_, _, .call goesOn moves step, rfl, _, rfl, visible_callEffects payload next⟩
      cases stage with
      | ended result =>
        cases result with
        | ok used =>
          simp only [sendStep?, Option.some.injEq, Prod.mk.injEq] at h
          obtain ⟨rfl, rfl⟩ := h
          exact ⟨_, _, .sent, core_trace s _, adds_trace s _⟩
        | error e =>
          simp only [sendStep?, Option.some.injEq, Prod.mk.injEq] at h
          obtain ⟨rfl, rfl⟩ := h
          exact ⟨_, _, .failed, rfl, .of_history_eq rfl⟩
      | held e =>
        refine call (by simp) fun e' _ e'' hn => ?_
        simp [sendStep?, step, hn] at h
      | _ => exact call (by simp) (by simp)
  | hangUp => simp [sendStep?] at h
  | replied reply => simp [sendStep?] at h

theorem exists_callerMove {s s' : Session} {c : Caller} {stage : Stage}
    (h : s.callerStep? c = some (s', stage)) :
    ∃ sh l effects, CallerMove s.id s.options s.shutdown s.link c sh l stage effects ∧
      s'.core = { s.core with shutdown := sh, link := l } ∧ Adds s s' effects := by
  have send {payload : Payload} {channel : Channel}
      (out : c.request.outgoing? s.options = some (payload, channel))
      (h : s.sendStep? payload channel c.stage = some (s', stage)) :
      ∃ sh l effects, CallerMove s.id s.options s.shutdown s.link c sh l stage effects ∧
        s'.core = { s.core with shutdown := sh, link := l } ∧ Adds s s' effects := by
    obtain ⟨l, effects, move, hc, hv⟩ := exists_sendMove h
    exact ⟨_, l, effects, .send out move, hc, hv⟩
  obtain ⟨request, at_⟩ := c
  cases request with
  | send payload => exact send rfl h
  | sendStream payload => exact send rfl h
  | stop =>
    cases at_ with
    | asked =>
      by_cases running : s.shutdown.state = .running
      · simp only [callerStep?, stopStep?, Shutdown.beginClosing, running, if_true,
          Option.some.injEq, Prod.mk.injEq] at h
        obtain ⟨rfl, rfl⟩ := h
        exact ⟨_, _, _, .stopFirst running, rfl, _, rfl, rfl⟩
      · simp only [callerStep?, stopStep?, Shutdown.beginClosing, running, if_false,
          Bool.false_eq_true, Option.some.injEq, Prod.mk.injEq] at h
        obtain ⟨rfl, rfl⟩ := h
        exact ⟨_, _, _, .stopLate running, rfl, .of_history_eq rfl⟩
    | hangUp =>
      simp only [callerStep?, stopStep?, Option.some.injEq, Prod.mk.injEq] at h
      obtain ⟨rfl, rfl⟩ := h
      exact ⟨_, _, _, .stopHangUp, rfl, .of_history_eq rfl⟩
    | _ => simp [callerStep?, stopStep?] at h
  | awaitClosed =>
    cases at_ with
    | asked =>
      simp only [callerStep?, awaitStep?, Option.map_eq_some_iff, Prod.mk.injEq] at h
      obtain ⟨reason, published, rfl, rfl⟩ := h
      exact ⟨_, _, _, .told published, rfl, .of_history_eq rfl⟩
    | _ => simp [callerStep?, awaitStep?] at h

theorem Move.of_eq {c c₁ c₂ : Core} {t : Task} {effects : List Effect}
    (move : Move c t c₁ effects) (h : c₂ = c₁) : Move c t c₂ effects := h ▸ move

theorem exists_readerMove {s s' : Session} (h : s.readerStep? = some s') :
    ∃ effects, Move s.core .reader s'.core effects ∧ Adds s s' effects := by
  unfold readerStep? at h
  cases reader : s.reader with
  | reading =>
    cases closed : s.link.closed with
    | some e =>
      simp only [reader, Link.readDatagram, closed, Option.some.injEq] at h
      obtain rfl := h
      exact ⟨_, .readClosed reader closed, .of_history_eq rfl⟩
    | none =>
      cases queue : s.link.datagrams with
      | nil => simp [reader, Link.readDatagram, closed, queue] at h
      | cons d rest =>
        have hr : s.link.readDatagram = some (d, { s.link with datagrams := rest }) := by
          simp [Link.readDatagram, closed, queue]
        cases d with
        | ok payload =>
          simp only [reader, hr, Option.some.injEq] at h
          obtain rfl := h
          exact ⟨_, .take reader closed queue, _, rfl, rfl⟩
        | error e =>
          simp only [reader, hr, Option.some.injEq] at h
          obtain rfl := h
          exact ⟨_, .takeError reader closed queue, .of_history_eq rfl⟩
  | record payload =>
    simp only [reader, Option.some.injEq] at h
    obtain rfl := h
    have hs := congrArg (fun c : Core => { c with reader := .deliver payload })
      (core_trace s (.datagramReceived payload.length))
    exact ⟨_, (Move.recordDatagram reader).of_eq hs, adds_trace s _⟩
  | deliver payload =>
    simp only [reader, Option.some.injEq] at h
    obtain rfl := h
    exact ⟨_, .deliverDatagram reader, _, rfl, rfl⟩
  | ending stage =>
    simp only [reader, Option.map_eq_some_iff] at h
    obtain ⟨⟨s₁, stage'⟩, he, rfl⟩ := h
    obtain ⟨sh, l, effects, move, hc, hv⟩ := exists_endMove he
    have hs := congrArg (fun c : Core => { c with reader := .ending stage' }) hc
    exact ⟨effects, (Move.endReader reader move).of_eq hs, hv⟩

theorem exists_acceptorMove {s s' : Session} (h : s.acceptorStep? = some s') :
    ∃ effects, Move s.core .acceptor s'.core effects ∧ Adds s s' effects := by
  unfold acceptorStep? at h
  cases acceptor : s.acceptor with
  | accepting =>
    -- The two ways to fail, of the acceptor alone and of the whole connection, end alike.
    have failed {e : TransportError}
        (fails : s.link.acceptFailure = some e ∨ s.link.closed = some e)
        (hs : s' = { s with acceptor := .joining e }) :
        ∃ effects, Move s.core .acceptor s'.core effects ∧ Adds s s' effects := by
      subst hs
      exact ⟨_, .acceptError acceptor fails, .of_history_eq rfl⟩
    cases works : s.link.acceptFailure with
    | some e =>
      simp only [acceptor, Link.acceptStream, works, Option.some.injEq] at h
      exact failed (.inl works) h.symm
    | none =>
      cases closed : s.link.closed with
      | some e =>
        simp only [acceptor, Link.acceptStream, works, closed, Option.some.injEq] at h
        exact failed (.inr closed) h.symm
      | none =>
        cases queue : s.link.streams with
        | nil => simp [acceptor, Link.acceptStream, works, closed, queue] at h
        | cons stream rest =>
          have ha : s.link.acceptStream = some (.ok stream, { s.link with streams := rest }) := by
            simp [Link.acceptStream, works, closed, queue]
          simp only [acceptor, ha, Option.some.injEq] at h
          obtain rfl := h
          refine ⟨_, (Move.accept acceptor works closed queue).of_eq ?_, .of_history_eq rfl⟩
          simp [core, acceptor]
  | joining e =>
    by_cases drained : s.drains.all Drain.isEnded = true
    · simp only [acceptor, drained, if_true, Option.some.injEq] at h
      obtain rfl := h
      exact ⟨_, .join acceptor drained, .of_history_eq rfl⟩
    · simp [acceptor, drained] at h
  | ending stage =>
    simp only [acceptor, Option.map_eq_some_iff] at h
    obtain ⟨⟨s₁, stage'⟩, he, rfl⟩ := h
    obtain ⟨sh, l, effects, move, hc, hv⟩ := exists_endMove he
    have hs := congrArg (fun c : Core => { c with acceptor := .ending stage' }) hc
    exact ⟨effects, (Move.endAcceptor acceptor move).of_eq hs, hv⟩

/-- Every step of a session is a move of its core, and makes visible what that move does. -/
theorem exists_move {s s' : Session} {t : Task} (h : s.step? t = some s') :
    ∃ effects, Move s.core t s'.core effects ∧ Adds s s' effects := by
  cases t with
  | reader => exact exists_readerMove h
  | acceptor => exact exists_acceptorMove h
  | drain number =>
    simp only [step?, bind, Option.bind_eq_some_iff, pure, Option.some.injEq] at h
    obtain ⟨d, drain, ⟨s₁, d'⟩, hd, rfl⟩ := h
    obtain ⟨effects, move, hc, hv⟩ := exists_drainMove hd
    have hs := congrArg (fun c : Core => { c with drains := c.drains.set number d' }) hc
    exact ⟨effects, (Move.drain drain move).of_eq hs, hv⟩
  | caller number =>
    simp only [step?, bind, Option.bind_eq_some_iff, pure, Option.some.injEq] at h
    obtain ⟨k, caller, ⟨s₁, stage⟩, hk, rfl⟩ := h
    obtain ⟨sh, l, effects, move, hc, hv⟩ := exists_callerMove hk
    have hs := congrArg
      (fun c : Core => { c with callers := c.callers.set number { k with stage := stage } }) hc
    exact ⟨effects, (Move.call caller move).of_eq hs, hv⟩
end MessageTunnel.Session
