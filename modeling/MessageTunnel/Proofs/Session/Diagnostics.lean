import MessageTunnel.Proofs.Session.Move
import MessageTunnel.Session.Script
/-!
Diagnostics never influence a session. `silence` takes everything away from a session that has to do
with its trace; what is left is a session of its own, one that runs without a trace. Silencing
commutes with all that a session can do, step by step, and so with runs, schedules and scripts.
-/
set_option autoImplicit false

namespace MessageTunnel.Session

/-- The session without its trace and without what only the trace made known. -/
def silence (s : Session) : Session :=
  { s with registry := untraced, writer := none, history := visible s.history }

theorem silence_emit (s : Session) (effects : List Effect) :
    (s.emit effects).silence = s.silence.emit (visible effects) := by
  simp [silence, emit]

theorem silence_log (s : Session) {entry : Log.Entry}
    (plain : (Effect.logged entry).isDiagnostic = false) :
    (s.log entry).silence = s.silence.log entry := by
  simp [log, silence_emit, plain]

theorem silence_trace (s : Session) (event : TraceEvent) :
    (s.trace event).silence = s.silence.trace event := by
  obtain ⟨registry, fresh, h, hv⟩ := trace_eq s event
  have hs : s.silence.trace event = s.silence.emit [.traced event] := by
    simp [trace, silence, emit]
  rw [h, hs, ← hv]
  simp [silence, emit]

theorem silence_endStep? (s : Session) (loop : Log.InboundLoop) (stage : Ending) :
    (s.endStep? loop stage).map (fun next => (next.1.silence, next.2)) =
      s.silence.endStep? loop stage := by
  cases stage with
  | classify e =>
    have hs : s.silence.shutdown = s.shutdown := rfl
    simp only [endStep?, hs]
    cases e.disposition <;> cases (s.shutdown.beginClosing (.ofTransport e)).1 <;>
      simp [log, silence_emit, Effect.isDiagnostic] <;> rfl
  | record reason => simp [endStep?, silence_trace]
  | release reason =>
    have hv := visible_release s.registry s.id
    have hr : s.silence.registry.release s.silence.id = ([], untraced) := rfl
    simp [endStep?, silence_emit, hv, hr, Effect.isDiagnostic]
    rfl
  | notify reason => simp [endStep?, silence_emit, Effect.isDiagnostic]; rfl
  | publish reason => simp [endStep?, silence_emit, Effect.isDiagnostic]; rfl
  | _ => rfl

theorem silence_readerStep? (s : Session) :
    s.readerStep?.map silence = s.silence.readerStep? := by
  have hr : s.silence.reader = s.reader := rfl
  have hl : s.silence.link = s.link := rfl
  unfold readerStep?
  rw [hr, hl]
  cases s.reader with
  | reading =>
    cases s.link.readDatagram with
    | none => rfl
    | some read =>
      obtain ⟨d, link⟩ := read
      cases d with
      | ok payload => simp [log, silence_emit, Effect.isDiagnostic]; rfl
      | error e => rfl
  | record payload =>
    have ht := silence_trace s (.datagramReceived payload.length)
    exact congrArg (fun s : Session => some { s with reader := Reader.deliver payload }) ht
  | deliver payload => simp [silence, emit, Effect.isDiagnostic]
  | ending stage =>
    have he := silence_endStep? s .datagrams stage
    simp only [← he, Option.map_map]
    rfl

theorem silence_acceptorStep? (s : Session) :
    s.acceptorStep?.map silence = s.silence.acceptorStep? := by
  have ha : s.silence.acceptor = s.acceptor := rfl
  have hl : s.silence.link = s.link := rfl
  have hd : s.silence.drains = s.drains := rfl
  unfold acceptorStep?
  rw [ha, hl, hd]
  cases s.acceptor with
  | accepting =>
    cases s.link.acceptStream with
    | none => rfl
    | some accepted =>
      obtain ⟨stream, link⟩ := accepted
      cases stream <;> rfl
  | joining e =>
    dsimp only
    split <;> rfl
  | ending stage =>
    have he := silence_endStep? s .streams stage
    simp only [← he, Option.map_map]
    rfl

theorem silence_drainStep? (s : Session) (d : Drain) :
    (s.drainStep? d).map (fun next => (next.1.silence, next.2)) = s.silence.drainStep? d := by
  have hl : s.silence.link = s.link := rfl
  cases d with
  | reading stream message =>
    simp only [drainStep?, hl]
    cases s.link.read stream with
    | none => rfl
    | some read => cases read <;> simp [log, silence_emit, Effect.isDiagnostic]
  | record outcome => cases outcome <;> simp [drainStep?, silence_trace]
  | deliver message => simp [drainStep?, silence_emit, Effect.isDiagnostic]
  | ended outcome => rfl

theorem silence_sendStep? (s : Session) (payload : Payload) (channel : Channel) (stage : Stage) :
    (s.sendStep? payload channel stage).map (fun next => (next.1.silence, next.2)) =
      s.silence.sendStep? payload channel stage := by
  have hs : s.silence.shutdown = s.shutdown := rfl
  cases stage with
  | asked =>
    simp only [sendStep?, hs]
    cases s.shutdown.ensureRunning <;> rfl
  | sending stage =>
    cases step : Dispatch.step payload stage s.link with
    | mk next l =>
      have step' : Dispatch.step payload stage s.silence.link = (next, l) := step
      -- Away from the two ends of a send the trace has no part in its steps.
      have goingOn (goesOn : ∀ result, stage ≠ .ended result)
          (moves : ∀ e, stage = .held e → ∀ e', next ≠ .held e') :
          (s.sendStep? payload channel (.sending stage)).map
              (fun next => (next.1.silence, next.2)) =
            s.silence.sendStep? payload channel (.sending stage) := by
        rw [sendStep?_sending goesOn moves step, sendStep?_sending goesOn moves step']
        simp [silence_emit, visible_callEffects]
        rfl
      cases stage with
      | ended result =>
        cases result with
        | ok used => simp [sendStep?, silence_trace]
        | error e => rfl
      | held e =>
        cases next with
        | held e' => simp [sendStep?, step, step']
        | _ => exact goingOn (by simp) (by simp)
      | _ => exact goingOn (by simp) (by simp)
  | _ => rfl

theorem silence_callerStep? (s : Session) (k : Caller) :
    (s.callerStep? k).map (fun next => (next.1.silence, next.2)) = s.silence.callerStep? k := by
  have hs : s.silence.shutdown = s.shutdown := rfl
  obtain ⟨request, stage⟩ := k
  cases request with
  | send payload => exact silence_sendStep? s payload _ stage
  | sendStream payload => exact silence_sendStep? s payload _ stage
  | stop =>
    cases stage with
    | asked =>
      simp only [callerStep?, stopStep?, hs]
      split
      · simp [log, silence_emit, Effect.isDiagnostic]
        rfl
      · rfl
    | _ => rfl
  | awaitClosed =>
    cases stage with
    | asked =>
      simp only [callerStep?, awaitStep?, hs]
      cases s.shutdown.published <;> rfl
    | _ => rfl

theorem silence_step? (s : Session) (t : Task) : (s.step? t).map silence = s.silence.step? t := by
  cases t with
  | reader => exact silence_readerStep? s
  | acceptor => exact silence_acceptorStep? s
  | drain number =>
    have hd : s.silence.drains = s.drains := rfl
    simp only [step?, hd]
    cases s.drains[number]? with
    | none => rfl
    | some d =>
      have h := silence_drainStep? s d
      cases next : s.drainStep? d with
      | none => simp [← h, next]
      | some next' =>
        simp [← h, next]
        rfl
  | caller number =>
    have hk : s.silence.callers = s.callers := rfl
    simp only [step?, hk]
    cases s.callers[number]? with
    | none => rfl
    | some k =>
      have h := silence_callerStep? s k
      cases next : s.callerStep? k with
      | none => simp [← h, next]
      | some next' =>
        simp [← h, next]
        rfl

theorem silence_act (s : Session) (a : Action) : (s.act a).silence = s.silence.act a := by
  cases a with
  | step t =>
    have h := silence_step? s t
    cases next : s.step? t with
    | none => simp [act, ← h, next]
    | some s' => simp [act, ← h, next]
  | _ => rfl

theorem silence_run (s : Session) (actions : List Action) :
    (s.run actions).silence = s.silence.run actions := by
  induction actions generalizing s with
  | nil => rfl
  | cons a rest ih =>
    have h := ih (s.act a)
    rwa [silence_act] at h

theorem silence_spawn (id : ConnectionId) (options : Options) (link : Link)
    (registry : Trace.Registry) (clock : Nat) :
    (spawn id options link registry clock).silence = spawn id options link untraced clock := by
  have hw := visible_writerFor registry id clock
  have hu : untraced.writerFor id clock = (.ok none, [], untraced) := rfl
  -- With or without a writer, the start goes on from sessions that are equal once silent.
  have started (s base : Session) (hs : s.silence = base) :
      ((s.trace (.connectionStarted options.vantage)).log
        (.sessionStarted id options.datagrams)).silence =
        (base.trace (.connectionStarted options.vantage)).log
          (.sessionStarted id options.datagrams) := by
    rw [silence_log _ rfl, silence_trace, hs]
  unfold spawn
  rw [hu]
  split
  rename_i writer notices registry' h
  rw [h] at hw
  cases writer with
  | error e => exact started _ _ (by simp [log, emit, silence, hw, Effect.isDiagnostic])
  | ok writer => exact started _ _ (by simp [silence, hw])

theorem canStep_silence (s : Session) (t : Task) : s.silence.canStep t = s.canStep t := by
  simp [canStep, ← silence_step?]

namespace Schedule

def silence (s : Schedule) : Schedule := { s with session := s.session.silence }

theorem silence_lineUp (s : Schedule) : s.lineUp.silence = s.silence.lineUp := by
  have ht : s.silence.session.tasks = s.session.tasks := rfl
  have hc (t : Task) : s.silence.session.canStep t = s.session.canStep t :=
    canStep_silence s.session t
  simp only [lineUp, ht, hc]
  rfl

theorem silence_act (s : Schedule) (a : Action) : (s.act a).silence = s.silence.act a := by
  have ha := Session.silence_act s.session a
  simp only [act, silence_lineUp]
  simp only [silence, ha]

theorem silence_turn? (s : Schedule) : s.turn?.map silence = s.silence.turn? := by
  have hq : s.silence.queue = s.queue := rfl
  unfold turn?
  rw [hq]
  cases s.queue with
  | nil => rfl
  | cons t rest =>
    have hs := silence_step? s.session t
    have hs' : s.silence.session.step? t = (s.session.step? t).map Session.silence := hs.symm
    dsimp only
    rw [hs']
    cases s.session.step? t with
    | none => exact congrArg some (silence_lineUp { s with queue := rest })
    | some next => rfl

theorem silence_turns (n : Nat) (s : Schedule) : (turns n s).silence = turns n s.silence := by
  induction n generalizing s with
  | zero => rfl
  | succ n ih =>
    have ht := silence_turn? s
    cases next : s.turn? with
    | none => simp [turns, ← ht, next]
    | some s' => simp [turns, ← ht, next, ih]

theorem silence_settle (s : Schedule) : s.settle.silence = s.silence.settle := silence_turns _ s

theorem silence_alone (s : Session) (t : Task) :
    (alone s t).silence = alone s.silence t := by
  -- The induction is on the turns, from whatever session they start.
  have steps (turns : List Nat) (s : Session) :
      (turns.foldl (fun s _ => s.act (.step t)) s).silence =
        turns.foldl (fun s _ => s.act (.step t)) s.silence := by
    induction turns generalizing s with
    | nil => rfl
    | cons n rest ih => simp only [List.foldl_cons, ih, Session.silence_act]
  exact steps _ s

theorem silence_ask (s : Schedule) (r : Request) : (s.ask r).silence = s.silence.ask r := by
  have ha := silence_alone (s.session.ask r) (.caller s.session.callers.length)
  simp only [ask, silence_lineUp]
  simp only [silence, ha]
  rfl

end Schedule

namespace Script.Play

def silence (p : Play) : Play := { p with schedule := p.schedule.silence }

theorem silence_settleIf (settle : Bool) (p : Play) :
    (settleIf settle p).silence = settleIf settle p.silence := by
  cases settle with
  | false => rfl
  | true => simp only [settleIf, if_true, silence, Schedule.silence_settle]

def answered (number : Nat) (p : Play) : Answer × Play :=
  match p.session.callers[number]?.bind Caller.reply? with
  | some reply => (.reply reply, p)
  | none => (.waiting, p)

theorem silence_answered (number : Nat) (p : Play) :
    ((answered number p).1, (answered number p).2.silence) = answered number p.silence := by
  have hc : p.silence.session.callers = p.session.callers := rfl
  simp only [answered, hc]
  cases p.session.callers[number]?.bind Caller.reply? <;> rfl

/-- A step of a script has the same answer, and leaves what it leaves without a trace. -/
theorem silence_step (p : Play) (step : Step) (settle : Bool) :
    ((p.step step settle).1, (p.step step settle).2.silence) = p.silence.step step settle := by
  obtain ⟨schedule, hasHandle, later⟩ := p
  have plain (answer : Answer) (p p' : Play) (same : p.silence = p') :
      (answer, (settleIf settle p).silence) = (answer, settleIf settle p') := by
    rw [silence_settleIf, same]
  have event (e : Link.Event) :
      (Play.mk (schedule.act (.event e)) hasHandle later).silence =
        ⟨schedule.silence.act (.event e), hasHandle, later⟩ := by
    simp only [silence, Schedule.silence_act]
  cases hasHandle with
  | false =>
    cases step with
    | idle => exact plain .done _ _ rfl
    | event e => exact plain .done _ _ (event e)
    | _ => exact plain .noSession _ _ rfl
  | true =>
    cases step with
    | request r =>
      have asked : (settleIf settle ⟨schedule.ask r, true, later⟩).silence =
          settleIf settle ⟨schedule.silence.ask r, true, later⟩ := by
        rw [silence_settleIf]
        simp only [silence, Schedule.silence_ask]
      have ha := silence_answered schedule.session.callers.length
        (settleIf settle ⟨schedule.ask r, true, later⟩)
      rw [asked] at ha
      exact ha
    | later r =>
      refine plain .started _ _ ?_
      simp only [silence, Schedule.askLater, Schedule.silence_act]
      rfl
    | describe => exact plain (.description ..) _ _ rfl
    | dropHandle => exact plain .done _ _ rfl
    | idle => exact plain .done _ _ rfl
    | event e => exact plain .done _ _ (event e)

def perform (p : Play) : List (Step × Bool) → List Answer × Play
  | [] => ([], p)
  | (step, settle) :: rest =>
    let (answer, p) := p.step step settle
    let (answers, p) := p.perform rest
    (answer :: answers, p)

theorem silence_perform (p : Play) (script : List (Step × Bool)) :
    ((p.perform script).1, (p.perform script).2.silence) = p.silence.perform script := by
  induction script generalizing p with
  | nil => rfl
  | cons entry rest ih =>
    obtain ⟨step, settle⟩ := entry
    have hs := silence_step p step settle
    have hr := ih (p.step step settle).2
    simp only [perform, ← hs, ← hr]

end Script.Play

def Effect.isHostCall : Effect → Bool
  | .message _ | .sessionClosed _ => true
  | _ => false

structure Alike (s s' : Session) : Prop where
  hostCalls : s.history.filter Effect.isHostCall = s'.history.filter Effect.isHostCall
  callers : s.callers = s'.callers
  link : s.link = s'.link
  shutdown : s.shutdown = s'.shutdown
  loops : s.reader = s'.reader ∧ s.acceptor = s'.acceptor ∧ s.drains = s'.drains
  /-- Only names of trace files and what the log says of them may differ. -/
  visible : visible s.history = visible s'.history

theorem filter_isHostCall_visible (history : List Effect) :
    (visible history).filter Effect.isHostCall = history.filter Effect.isHostCall := by
  rw [Session.visible, List.filter_filter]
  congr 1
  funext e
  cases e with
  | logged entry => cases entry <;> rfl
  | _ => rfl

theorem alike_of_silence {s s' : Session} (h : s.silence = s'.silence) : Alike s s' := by
  have hv : Session.visible s.history = Session.visible s'.history := congrArg Session.history h
  have hc : s.silence.core = s'.silence.core := congrArg Session.core h
  simp only [core, silence, Core.mk.injEq] at hc
  obtain ⟨-, -, shutdown, link, reader, acceptor, drains, callers⟩ := hc
  exact {
    hostCalls := by rw [← filter_isHostCall_visible, hv, filter_isHostCall_visible]
    callers := callers
    link := link
    shutdown := shutdown
    loops := ⟨reader, acceptor, drains⟩
    visible := hv }

/-- A run while something else changes trace files and writers before each action. -/
def runAmid (s : Session) (actions : List (Action × (Trace.Registry → Trace.Registry))) : Session :=
  actions.foldl (fun s a => { s with registry := a.2 s.registry }.act a.1) s

theorem silence_runAmid (s : Session)
    (actions : List (Action × (Trace.Registry → Trace.Registry))) :
    (s.runAmid actions).silence = s.silence.run (actions.map Prod.fst) := by
  induction actions generalizing s with
  | nil => rfl
  | cons a rest ih =>
    have h := ih ({ s with registry := a.2 s.registry }.act a.1)
    rw [silence_act] at h
    exact h

/-- Whatever becomes of the traces of two sessions, in every run and for every script they do and
answer the same. -/
theorem diagnostics_without_influence (id : ConnectionId) (options : Options) (link : Link)
    (registry registry' : Trace.Registry) (clock : Nat) :
    let s := spawn id options link registry clock
    let s' := spawn id options link registry' clock
    (∀ actions, Alike (s.run actions) (s'.run actions)) ∧
      (∀ actions, Alike (s.runAmid actions) (s'.run (actions.map Prod.fst))) ∧
      ∀ script,
        ((Script.Play.start s).perform script).1 = ((Script.Play.start s').perform script).1 ∧
        Alike ((Script.Play.start s).perform script).2.session
          ((Script.Play.start s').perform script).2.session := by
  intro s s'
  have start : s.silence = s'.silence := by rw [silence_spawn, silence_spawn]
  refine ⟨fun actions => ?_, fun actions => ?_, fun script => ?_⟩
  · exact alike_of_silence (by rw [silence_run, silence_run, start])
  · exact alike_of_silence (by rw [silence_runAmid, silence_run, start])
  · have plays : (Script.Play.start s).silence = (Script.Play.start s').silence :=
      congrArg Script.Play.start start
    have h := Script.Play.silence_perform (Script.Play.start s) script
    have h' := Script.Play.silence_perform (Script.Play.start s') script
    rw [plays, ← h', Prod.mk.injEq] at h
    exact ⟨h.1, alike_of_silence (congrArg Script.Play.session h.2)⟩

end MessageTunnel.Session
