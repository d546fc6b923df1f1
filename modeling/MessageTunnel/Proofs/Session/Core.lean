import MessageTunnel.Session.Step
/-!
A session without its diagnostics. The core holds all that decides what a session does next; the
trace, its writer and the clock are not in it. A step of a session depends on the core alone, and so
does all that it makes known, apart from the names of trace files and the log of the diagnostics.
-/
set_option autoImplicit false

namespace MessageTunnel.Session

structure Core where
  id : ConnectionId
  options : Options
  shutdown : Shutdown
  link : Link
  reader : Reader
  acceptor : Acceptor
  drains : List Drain
  callers : List Caller

def core (s : Session) : Core :=
  ⟨s.id, s.options, s.shutdown, s.link, s.reader, s.acceptor, s.drains, s.callers⟩

def Reader.ending? : Reader → Option Ending
  | .ending stage => some stage
  | _ => none

def Acceptor.ending? : Acceptor → Option Ending
  | .ending stage => some stage
  | _ => none

def Effect.isDiagnostic : Effect → Bool
  | .announced _ => true
  | .logged (.traceCreated _) | .logged (.traceUnavailable ..) | .logged (.traceWriteFailed ..)
  | .logged (.traceFlushFailed ..) => true
  | _ => false

def visible (history : List Effect) : List Effect := history.filter fun e => !e.isDiagnostic

@[simp] theorem visible_nil : visible [] = [] := rfl

@[simp] theorem visible_append (h k : List Effect) : visible (h ++ k) = visible h ++ visible k :=
  List.filter_append ..

@[simp] theorem visible_cons (e : Effect) (h : List Effect) :
    visible (e :: h) = if e.isDiagnostic then visible h else e :: visible h := by
  cases hd : e.isDiagnostic <;> simp [visible, hd]

theorem visible_append_writer (w : Trace.Writer) (fs : FileSystem) (entry : Json) :
    visible (((w.append fs entry).1.map Trace.Notice.logged).map .ofNotice) = [] := by
  unfold Trace.Writer.append
  cases w.output with
  | none => rfl
  | some o =>
    dsimp only
    split <;> simp [Effect.ofNotice, Effect.isDiagnostic]

theorem visible_close_writer (w : Trace.Writer) (fs : FileSystem) :
    visible (((w.close fs).1.map Trace.Notice.logged).map .ofNotice) = [] := by
  unfold Trace.Writer.close
  cases w.output with
  | none => rfl
  | some o =>
    dsimp only
    split <;> simp [Effect.ofNotice, Effect.isDiagnostic]

theorem visible_record (r : Trace.Registry) (number now : Nat) (event : TraceEvent) :
    visible ((r.record number now event).1.map .ofNotice) = [] := by
  unfold Trace.Registry.record
  cases r.writer? number with
  | none => rfl
  | some w => exact visible_append_writer w r.files _

theorem visible_release (r : Trace.Registry) (id : ConnectionId) :
    visible ((r.release id).1.map .ofNotice) = [] := by
  unfold Trace.Registry.release
  cases r.live.lookup id with
  | none => rfl
  | some number =>
    simp only [Trace.Registry.close]
    split
    · rfl
    · exact visible_close_writer _ _

theorem visible_create {fs fs' : FileSystem} {dir : String} {vantage : Vantage}
    {id : ConnectionId} {now : Nat} {entries : List Log.Entry} {w : Trace.Writer}
    (h : Trace.Writer.create fs dir vantage id now = .ok (entries, w, fs')) :
    visible ((entries.map Trace.Notice.logged).map .ofNotice) = [] := by
  unfold Trace.Writer.create at h
  cases hc : fs.create (Path.join dir (id.hex ++ ".qlog")) with
  | error e => simp [hc] at h
  | ok opened =>
    simp only [hc, Except.ok.injEq] at h
    have hw := visible_append_writer
      ⟨Path.join dir (id.hex ++ ".qlog"), id.hex ++ ".qlog", now, some ⟨opened.1, []⟩⟩ opened.2
      (Trace.header vantage id)
    rwa [h] at hw

theorem visible_writerFor (r : Trace.Registry) (id : ConnectionId) (now : Nat) :
    visible ((r.writerFor id now).2.1.map .ofNotice) = [] := by
  unfold Trace.Registry.writerFor
  split
  · rfl
  · rfl
  · split
    · rfl
    · split
      · rfl
      · rename_i entries w fs hc
        have hw := visible_create hc
        simpa [Effect.ofNotice, Effect.isDiagnostic] using hw

/-- Between two moments a session has made these effects visible, and took nothing back. -/
def Adds (s s' : Session) (effects : List Effect) : Prop :=
  ∃ fresh, s'.history = s.history ++ fresh ∧ visible fresh = effects

theorem Adds.of_history_eq {s s' : Session} (h : s'.history = s.history) : Adds s s' [] :=
  ⟨[], by simp [h], rfl⟩

@[simp] theorem core_log (s : Session) (entry : Log.Entry) : (s.log entry).core = s.core := rfl

theorem trace_eq (s : Session) (event : TraceEvent) :
    ∃ registry fresh,
      s.trace event = { s with registry := registry, history := s.history ++ fresh } ∧
        visible fresh = [.traced event] := by
  cases hw : s.writer with
  | none => exact ⟨s.registry, [.traced event], by simp [trace, emit, hw], rfl⟩
  | some number =>
    have hr := visible_record s.registry number s.clock event
    refine ⟨(s.registry.record number s.clock event).2,
      .traced event :: (s.registry.record number s.clock event).1.map .ofNotice,
      by simp [trace, emit, hw], ?_⟩
    simp [Effect.isDiagnostic, hr]

@[simp] theorem core_trace (s : Session) (event : TraceEvent) : (s.trace event).core = s.core := by
  obtain ⟨registry, fresh, h, -⟩ := trace_eq s event
  rw [h]
  rfl

theorem adds_trace (s : Session) (event : TraceEvent) : Adds s (s.trace event) [.traced event] := by
  obtain ⟨registry, fresh, h, hv⟩ := trace_eq s event
  rw [h]
  exact ⟨fresh, rfl, hv⟩

def untraced : Trace.Registry := .new none .client (.scratch [])

/-- A session starts with nothing but its link, whether it gets a trace or not. -/
theorem core_spawn (id : ConnectionId) (options : Options) (link : Link)
    (registry : Trace.Registry) (clock : Nat) :
    (spawn id options link registry clock).core =
      ⟨id, options, .start 2, link, .reading, .accepting, [], []⟩ := by
  unfold spawn
  split
  rename_i writer notices registry _
  cases writer <;> simp only [core_log, core_trace] <;> rfl

theorem callers_spawn (id : ConnectionId) (options : Options) (link : Link)
    (registry : Trace.Registry) (clock : Nat) :
    (spawn id options link registry clock).callers = [] :=
  congrArg Core.callers (core_spawn id options link registry clock)

theorem visible_spawn (id : ConnectionId) (options : Options) (link : Link)
    (registry : Trace.Registry) (clock : Nat) :
    visible (spawn id options link registry clock).history =
      [.traced (.connectionStarted options.vantage),
        .logged (.sessionStarted id options.datagrams)] := by
  have hw := visible_writerFor registry id clock
  unfold spawn
  split
  rename_i writer notices registry' h
  rw [h] at hw
  have started (s : Session) (hs : visible s.history = []) :
      visible ((s.trace (.connectionStarted options.vantage)).log
        (.sessionStarted id options.datagrams)).history =
        [.traced (.connectionStarted options.vantage),
          .logged (.sessionStarted id options.datagrams)] := by
    obtain ⟨fresh, hf, hv⟩ := adds_trace s (.connectionStarted options.vantage)
    simp [log, emit, hf, hs, hv, Effect.isDiagnostic]
  cases writer with
  | error e => exact started _ (by simp [log, emit, hw, Effect.isDiagnostic])
  | ok writer => exact started _ hw

end MessageTunnel.Session
