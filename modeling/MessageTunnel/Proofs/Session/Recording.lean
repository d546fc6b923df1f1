import MessageTunnel.Proofs.Session.Traffic
import MessageTunnel.Proofs.Trace.Registry
set_option autoImplicit false

namespace MessageTunnel

namespace Session

variable {s s' : Session} {location : Location} {text : Bytes}

/-- Where a session stands with its file: it keeps the trace, or the trace is complete. -/
inductive Filed (s : Session) (location : Location) (text : Bytes) : Prop where
  | kept {number : Nat} {w : Trace.Writer} {o : Trace.Output} (writer : s.writer = some number)
      (live : s.registry.live.lookup s.id = some number)
      (stored : s.registry.writers[number]? = some w) (output : w.output = some o)
      (place : o.handle.location = location) (holds : o.Holds s.registry.files text)
      (unreleased : .released ∉ s.history)
  | complete {number : Nat} {w : Trace.Writer} (writer : s.writer = some number)
      (dead : s.registry.live.lookup s.id = none)
      (stored : s.registry.writers[number]? = some w) (output : w.output = none)
      (content : s.registry.files.contentAt location = text) (released : .released ∈ s.history)

theorem Filed.of_sheet_eq (h : Filed s location text) (same : s'.sheet = s.sheet) :
    Filed s' location text := by
  simp only [sheet, Sheet.mk.injEq] at same
  obtain ⟨id, writer, registry, history⟩ := same
  cases h with
  | kept w live stored output place holds unreleased =>
    exact .kept (writer.trans w) (by rw [registry, id, live]) (by rw [registry, stored]) output place
      (by rw [registry]; exact holds) (by rw [history]; exact unreleased)
  | complete w dead stored output content released =>
    exact .complete (writer.trans w) (by rw [registry, id, dead]) (by rw [registry, stored]) output
      (by rw [registry]; exact content) (by rw [history]; exact released)

theorem Filed.emit (h : Filed s location text) {fresh : List Effect} (kept : .released ∉ fresh) :
    Filed (s.emit fresh) location text := by
  cases h with
  | kept writer live stored output place holds unreleased =>
    exact .kept writer live stored output place holds (by simp [Session.emit, unreleased, kept])
  | complete writer dead stored output content released =>
    exact .complete writer dead stored output content (List.mem_append_left _ released)

/-- What is known of a file after an action: it holds this text, or there was no space for it. -/
def Brings (s s' : Session) (location : Location) (text : Bytes) : Prop :=
  (Filed s' location text ∧
    (s.registry.files.HasSpace location → s'.registry.files.HasSpace location) ∧
    ∀ e ∈ s'.history, e.isTraceFailure = true → e ∈ s.history) ∨
  (¬ s.registry.files.HasSpace location ∧ ∃ e ∈ s'.history, e.isTraceFailure = true)

theorem Brings.of_sheet_eq {s₁ : Session} (h : Brings s s₁ location text)
    (same : s'.sheet = s₁.sheet) : Brings s s' location text := by
  have registry : s'.registry = s₁.registry := congrArg Sheet.registry same
  have history : s'.history = s₁.history := congrArg Sheet.history same
  unfold Brings at h ⊢
  rw [registry, history]
  exact h.imp (fun ⟨filed, rest⟩ => ⟨filed.of_sheet_eq same, rest⟩) fun failed => failed

theorem old_failure {history fresh : List Effect}
    (fine : ∀ e ∈ fresh, e.isTraceFailure = false) (e : Effect) (mem : e ∈ history ++ fresh)
    (failure : e.isTraceFailure = true) : e ∈ history := by
  obtain mem | mem := List.mem_append.1 mem
  · exact mem
  · simp [fine e mem] at failure

theorem not_failure_of_isPlain {e : Effect} (h : e.isPlain = true) : e.isTraceFailure = false := by
  cases e with
  | logged entry => simpa [Effect.isPlain] using h
  | _ => rfl

theorem Filed.plain (h : Filed s location text) {fresh : List Effect}
    (plain : fresh.all Effect.isPlain = true) : Brings s (s.emit fresh) location text := by
  have each (e : Effect) (mem : e ∈ fresh) : e.isPlain = true := List.all_eq_true.1 plain e mem
  refine .inl ⟨h.emit fun mem => ?_, fun space => space, old_failure fun e mem => ?_⟩
  · simpa [Effect.isPlain] using each _ mem
  · exact not_failure_of_isPlain (each e mem)

theorem trace_of_append {event : TraceEvent} {number : Nat} {w w' : Trace.Writer}
    {entries : List Log.Entry} {fs : FileSystem} (writer : s.writer = some number)
    (stored : s.registry.writers[number]? = some w)
    (appended : w.append s.registry.files (Trace.record (s.clock - w.created) event) =
      (entries, w', fs)) :
    s.trace event = { s with
      registry :=
        { s.registry with writers := s.registry.writers.set number w', files := fs },
      history := s.history ++ .traced event :: entries.map .logged } := by
  have recorded : s.registry.record number s.clock event = (entries.map .logged,
      { s.registry with writers := s.registry.writers.set number w', files := fs }) := by
    simp [Trace.Registry.record, Trace.Registry.writer?, stored, Trace.Writer.record, appended,
      Trace.Registry.store]
  simp [trace, Session.emit, writer, recorded, Effect.ofNotice, Function.comp_def]

theorem Filed.trace (h : Filed s location text) (event : TraceEvent) :
    ∃ time, Brings s (s.trace event) location
      (text ++ if .released ∈ s.history then [] else Trace.entryBytes (Trace.record time event)) := by
  cases h with
  | @kept number w o writer live stored output place holds unreleased =>
    have less := (List.getElem?_eq_some_iff.1 stored).1
    refine ⟨s.clock - w.created, ?_⟩
    rw [if_neg unreleased]
    obtain ⟨o', fs', appended, takes⟩ | ⟨full, e, fs', appended, -⟩ :=
      Trace.Writer.append_holds output holds (Trace.record (s.clock - w.created) event)
    · rw [trace_of_append writer stored appended]
      refine .inl ⟨.kept writer live (w := { w with output := some o' }) ?_ rfl ?_ ?_ ?_, ?_, ?_⟩
      · simp [less]
      · rw [takes.place, place]
      · exact .of_takes_ok takes
      · simpa using unreleased
      · rw [← place]
        exact fun space => (takes.space space).2
      · exact old_failure (by simp [Effect.isTraceFailure])
    · rw [trace_of_append writer stored appended]
      rw [place] at full
      exact .inr ⟨full, .logged (.traceWriteFailed w.path e), by simp, rfl⟩
  | @complete number w writer dead stored output content released =>
    have silent : w.append s.registry.files (Trace.record (s.clock - w.created) event) =
        ([], w, s.registry.files) := by simp [Trace.Writer.append, output]
    obtain ⟨less, same⟩ := List.getElem?_eq_some_iff.1 stored
    refine ⟨0, ?_⟩
    rw [if_pos released, List.append_nil, trace_of_append writer stored silent]
    refine .inl ⟨.complete writer dead (w := w) ?_ output content ?_, fun space => space, ?_⟩
    · simp [less]
    · exact List.mem_append_left _ released
    · exact old_failure (by simp [Effect.isTraceFailure])

theorem giveUp_of_close {number : Nat} {w w' : Trace.Writer} {entries : List Log.Entry}
    {fs : FileSystem} (live : s.registry.live.lookup s.id = some number)
    (stored : s.registry.writers[number]? = some w)
    (closed : w.close s.registry.files = (entries, w', fs)) :
    s.giveUp = { s with
      registry := { s.registry with
        live := s.registry.live.filter fun e => e.1 ≠ s.id,
        writers := s.registry.writers.set number w', files := fs },
      history := s.history ++ entries.map .logged ++ [.released] } := by
  simp [giveUp, Trace.Registry.release, live, Trace.Registry.close, Trace.Registry.writer?, stored,
    closed, Trace.Registry.store, Session.emit, Effect.ofNotice, Function.comp_def]

theorem Filed.giveUp (h : Filed s location text) : Brings s s.giveUp location text := by
  cases h with
  | @kept number w o writer live stored output place holds unreleased =>
    have less := (List.getElem?_eq_some_iff.1 stored).1
    obtain ⟨fs', closed, content, -, space⟩ | ⟨full, e, fs', closed, -⟩ :=
      Trace.Writer.close_holds output holds
    · rw [giveUp_of_close live stored closed]
      rw [place] at content space
      have dead := Trace.Registry.lookup_filter s.registry.live s.id s.id
      rw [if_pos rfl] at dead
      refine .inl ⟨.complete writer dead (w := { w with output := none }) ?_ rfl
        content ?_, space, ?_⟩
      · simp [less]
      · simp
      · rw [List.map_nil, List.append_nil]
        exact old_failure (by simp [Effect.isTraceFailure])
    · rw [giveUp_of_close live stored closed]
      rw [place] at full
      exact .inr ⟨full, .logged (.traceFlushFailed w.path e), by simp, rfl⟩
  | complete writer dead stored output content released =>
    have nothing : s.giveUp = s.emit [.released] := by
      simp [Session.giveUp, Trace.Registry.release, dead, Session.emit]
    rw [nothing]
    refine .inl ⟨.complete writer dead stored output content ?_, fun space => space, ?_⟩
    · exact List.mem_append_left _ released
    · exact old_failure (by simp [Effect.isTraceFailure])

variable {id : ConnectionId} {vantage : Vantage} {records : List (Nat × TraceEvent)}
  {registry : Trace.Registry} {files : FileSystem}

/-- An action adds to the file a record for what it tells the trace. -/
theorem Filed.act (h : Filed s location (Trace.text vantage id records)) (a : Action) :
    ∃ more : List (Nat × TraceEvent), more.map Prod.snd =
        (if .released ∈ s.history then [] else (s.news a).filterMap Effect.traced?) ∧
      Brings s (s.act a) location (Trace.text vantage id (records ++ more)) := by
  have news {fresh : List Effect} (same : (s.act a).history = s.history ++ fresh) :
      s.news a = fresh := by simp [Session.news, same]
  cases enters s a with
  | plain fresh same plain =>
    refine ⟨[], ?_, by rw [List.append_nil]; exact (h.plain plain).of_sheet_eq same⟩
    rw [news (congrArg Sheet.history same)]
    have silent : fresh.filterMap Effect.traced? = [] := by
      rw [List.filterMap_eq_nil_iff]
      intro e mem
      have he := List.all_eq_true.1 plain e mem
      cases e with
      | traced event => simp [Effect.isPlain] at he
      | _ => rfl
    simp [silent]
  | traced event same =>
    obtain ⟨time, brings⟩ := h.trace event
    obtain ⟨entries, he⟩ := trace_history s event
    rw [news ((congrArg Sheet.history same).trans he)]
    by_cases released : .released ∈ s.history
    · rw [if_pos released, List.append_nil] at brings
      exact ⟨[], by simp [released], by rw [List.append_nil]; exact brings.of_sheet_eq same⟩
    · rw [if_neg released, ← Trace.text_concat] at brings
      have silent : (entries.map Effect.logged).filterMap Effect.traced? = [] := by
        simp [List.filterMap_map, Effect.traced?, Function.comp_def]
      exact ⟨[(time, event)], by simp [released, Effect.traced?, silent], brings.of_sheet_eq same⟩
  | released same =>
    obtain ⟨entries, he⟩ := giveUp_history s
    refine ⟨[], ?_, by rw [List.append_nil]; exact h.giveUp.of_sheet_eq same⟩
    rw [news ((congrArg Sheet.history same).trans (he.trans (List.append_assoc ..)))]
    simp [List.filterMap_map, Effect.traced?, Function.comp_def]

def Keeps (s : Session) (files : FileSystem) (location : Location) (text : Bytes) : Prop :=
  (Filed s location text ∧
    (files.HasSpace location → s.registry.files.HasSpace location) ∧
    ∀ e ∈ s.history, e.isTraceFailure = false) ∨
  (¬ files.HasSpace location ∧ ∃ e ∈ s.history, e.isTraceFailure = true)

theorem Brings.keeps (h : Brings s s' location text)
    (space : files.HasSpace location → s.registry.files.HasSpace location)
    (fine : ∀ e ∈ s.history, e.isTraceFailure = false) : Keeps s' files location text := by
  obtain ⟨filed, more, old⟩ | ⟨full, failure⟩ := h
  · refine .inl ⟨filed, fun here => more (space here), fun e mem => ?_⟩
    apply Bool.eq_false_iff.2
    intro failure
    simp [fine e (old e mem failure)] at failure
  · exact .inr ⟨fun here => full (space here), failure⟩

theorem Keeps.of_failure (full : ¬ files.HasSpace location)
    (failure : ∃ e ∈ s.history, e.isTraceFailure = true) (grown : s.history ⊆ s'.history) :
    Keeps s' files location text := by
  obtain ⟨e, mem, he⟩ := failure
  exact .inr ⟨full, e, grown mem, he⟩

theorem Keeps.act (h : Keeps s files location (Trace.text vantage id records)) (a : Action) :
    ∃ more : List (Nat × TraceEvent), more.map Prod.snd =
        (if .released ∈ s.history then [] else (s.news a).filterMap Effect.traced?) ∧
      Keeps (s.act a) files location (Trace.text vantage id (records ++ more)) := by
  obtain ⟨filed, space, fine⟩ | ⟨full, failure⟩ := h
  · obtain ⟨more, told, brings⟩ := filed.act a
    exact ⟨more, told, brings.keeps space fine⟩
  · refine ⟨(if .released ∈ s.history then [] else (s.news a).filterMap Effect.traced?).map (0, ·),
      by simp [Function.comp_def], .of_failure full failure ?_⟩
    rw [history_act]
    exact List.subset_append_left ..

theorem create_keeps {ready : FileSystem} {dir : String} (vantage : Vantage) (now : Nat)
    (created : ready.create (Path.join dir (id.hex ++ ".qlog")) = .ok (⟨location, 0⟩, files)) :
    ∃ entries w files', Trace.Writer.create ready dir vantage id now = .ok (entries, w, files') ∧
      ((∃ o, entries = [] ∧ w.output = some o ∧ Trace.Output.Takes ⟨⟨location, 0⟩, []⟩ files []
          (Trace.entryBytes (Trace.header vantage id)) (.ok ()) o files') ∨
        (¬ files.HasSpace location ∧ ∃ path e, entries = [.traceWriteFailed path e])) := by
  obtain ⟨made, holds⟩ := Trace.Writer.create_eq created vantage now
  obtain ⟨o, files', appended, takes⟩ | ⟨full, e, files', appended, -⟩ :=
    Trace.Writer.append_holds (w := .fresh dir id now ⟨location, 0⟩) rfl holds
      (Trace.header vantage id)
  · exact ⟨_, _, _, made.trans (congrArg Except.ok appended), .inl ⟨o, rfl, rfl, takes⟩⟩
  · exact ⟨_, _, _, made.trans (congrArg Except.ok appended), .inr ⟨full, _, e, rfl⟩⟩

theorem keeps_spawn (opens : registry.Opens id location files) (options : Options) (link : Link)
    (clock : Nat) : ∃ time, Keeps (spawn id options link registry clock) files location
      (Trace.text registry.vantage id [(time, .connectionStarted options.vantage)]) := by
  obtain ⟨dir, ready, hdir, ensured, created⟩ := opens.opened
  obtain ⟨entries, w, files', made, outcome⟩ := create_keeps registry.vantage clock created
  -- The session before its first record, with the file that was made for it.
  obtain ⟨base, started, hid, hwriter, hregistry, hhistory⟩ : ∃ base : Session,
      spawn id options link registry clock = (base.trace (.connectionStarted options.vantage)).emit
        [.logged (.sessionStarted id options.datagrams)] ∧
      base.id = id ∧ base.writer = some registry.writers.length ∧
      base.registry = { registry with
        files := files', writers := registry.writers ++ [w],
        live := (id, registry.writers.length) :: registry.live } ∧
      base.history = entries.map .logged ++
        [.logged (.traceCreated w.path), .announced w.fileName] := by
    refine ⟨{
      id, options, link, clock, shutdown := .start 2, writer := some registry.writers.length,
      reader := .reading, acceptor := .accepting, drains := [], callers := [],
      registry := { registry with
        files := files', writers := registry.writers ++ [w],
        live := (id, registry.writers.length) :: registry.live },
      history := entries.map .logged ++ [.logged (.traceCreated w.path), .announced w.fileName] },
      ?_, rfl, rfl, rfl, rfl⟩
    simp [spawn, Trace.Registry.writerFor, hdir, opens.fresh, ensured, made, log,
      Effect.ofNotice, Function.comp_def]
  obtain ⟨o, rfl, output, takes⟩ | ⟨full, path, e, rfl⟩ := outcome
  · have filed : Filed base location (Trace.text registry.vantage id []) := by
      refine .kept hwriter ?_ ?_ output takes.place ?_ (by simp [hhistory])
      · simp [hregistry, hid]
      · simp [hregistry]
      · simpa [hregistry, Trace.text] using Trace.Output.Holds.of_takes_ok takes
    have space : files.HasSpace location → base.registry.files.HasSpace location := by
      rw [hregistry]
      exact fun here => (takes.space here).2
    obtain ⟨time, recorded⟩ := filed.trace (.connectionStarted options.vantage)
    rw [if_neg (by simp [hhistory]), ← Trace.text_concat] at recorded
    refine ⟨time, ?_⟩
    rw [started]
    obtain ⟨filed, space, fine⟩ | ⟨full, failure⟩ :=
      recorded.keeps space (by simp [hhistory, Effect.isTraceFailure])
    · exact (filed.plain rfl).keeps space fine
    · exact .of_failure full failure (List.subset_append_left ..)
  · refine ⟨0, .inr ⟨full, .logged (.traceWriteFailed path e), ?_, rfl⟩⟩
    obtain ⟨entries, told⟩ := trace_history base (.connectionStarted options.vantage)
    simp [started, Session.emit, told, hhistory]

theorem keeps_run (opens : registry.Opens id location files) (options : Options) (link : Link)
    (clock : Nat) (actions : List Action) :
    let first := spawn id options link registry clock
    ∃ records : List (Nat × TraceEvent),
      records.map Prod.snd = .connectionStarted options.vantage :: recordsOf first actions ∧
        Keeps (first.run actions) files location (Trace.text registry.vantage id records) := by
  intro first
  refine run_induction (P := fun actions s => ∃ records : List (Nat × TraceEvent),
    records.map Prod.snd = .connectionStarted options.vantage :: recordsOf first actions ∧
      Keeps s files location (Trace.text registry.vantage id records)) ?_ ?_ actions
  · obtain ⟨time, keeps⟩ := keeps_spawn opens options link clock
    exact ⟨_, rfl, keeps⟩
  · rintro actions a ⟨records, same, keeps⟩
    obtain ⟨more, told, keeps'⟩ := keeps.act a
    refine ⟨records ++ more, ?_, keeps'⟩
    rw [List.map_append, same, told, recordsOf_concat,
      filterMap_visible fun _ => traced?_of_isDiagnostic]
    rfl

theorem no_failure_of_hasSpace (opens : registry.Opens id location files)
    (space : files.HasSpace location) (options : Options) (link : Link) (clock : Nat)
    (actions : List Action) :
    ∀ e ∈ ((spawn id options link registry clock).run actions).history,
      e.isTraceFailure = false := by
  obtain ⟨records, -, ⟨-, -, fine⟩ | ⟨full, -⟩⟩ := keeps_run opens options link clock actions
  · exact fine
  · exact absurd space full

theorem filed_of_no_failure (opens : registry.Opens id location files) (options : Options)
    (link : Link) (clock : Nat) (actions : List Action)
    (fine : ∀ e ∈ ((spawn id options link registry clock).run actions).history,
      e.isTraceFailure = false) :
    let first := spawn id options link registry clock
    ∃ records : List (Nat × TraceEvent),
      records.map Prod.snd = .connectionStarted options.vantage :: recordsOf first actions ∧
        Filed (first.run actions) location (Trace.text registry.vantage id records) := by
  intro first
  obtain ⟨records, same, ⟨filed, -, -⟩ | ⟨-, e, mem, failure⟩⟩ :=
    keeps_run opens options link clock actions
  · exact ⟨records, same, filed⟩
  · simp [fine e mem] at failure

theorem Filed.content (h : Filed s location text) :
    s.registry.files.contentAt location <+: text ∧
      (.released ∈ s.history → s.registry.files.contentAt location = text) := by
  cases h with
  | kept writer live stored output place holds unreleased =>
    rw [← place]
    exact ⟨⟨_, holds.text_eq⟩, fun released => absurd released unreleased⟩
  | complete writer dead stored output content released =>
    rw [content]
    exact ⟨List.prefix_rfl, fun _ => rfl⟩

end Session

end MessageTunnel
