import MessageTunnel.Proofs.Session.Diagnostics
import MessageTunnel.Proofs.Session.Recording
import MessageTunnel.Proofs.Session.Refusal
/-!
What can be read in the trace file of a session: everything that the session has sent, received and
given up, each once, and how it ended. A send alone can be late: then its record stands behind that of
the end, or the trace is given up before it and the record is missing.
-/
set_option autoImplicit false

namespace MessageTunnel.Session

variable {s : Session} {id : ConnectionId} {location : Location} {registry : Trace.Registry}
  {files : FileSystem}

/-- A caller has not been let in: it waits for its turn, or was told something else than that its
message is out. -/
def Caller.IsOutside (k : Caller) : Prop :=
  k.stage = .asked ∨ ∃ reply, k.stage = .replied reply ∧ ∀ channel, reply ≠ .sent channel

theorem Caller.IsOutside.sentEvent? {k : Caller} (h : k.IsOutside) : k.sentEvent? = none := by
  obtain ⟨request, stage⟩ := k
  obtain ⟨rfl⟩ | ⟨reply, ⟨rfl⟩, other⟩ := h
  · rfl
  · cases reply with
    | sent channel => exact absurd rfl (other channel)
    | _ => rfl

theorem CallerMove.stays_outside {o : Options} {sh sh' : Shutdown} {l l' : Link} {k : Caller}
    {stage : Stage} {effects : List Effect} (move : CallerMove id o sh l k sh' l' stage effects)
    (closing : sh.state ≠ .running) (h : k.IsOutside) :
    Caller.IsOutside { k with stage := stage } := by
  obtain ⟨request, before⟩ := k
  cases move with
  | send out move =>
    cases move with
    | refused => exact .inr ⟨_, rfl, by simp⟩
    | admitted running => exact absurd running closing
    | _ => simp [Caller.IsOutside] at h
  | stopFirst running => exact absurd running closing
  | stopHangUp => simp [Caller.IsOutside] at h
  | stopLate | told => exact .inr ⟨_, rfl, by simp⟩

theorem outside_of_closing {number : Nat} (closing : s.state ≠ .running)
    (outside : ∀ k, s.callers[number]? = some k → k.IsOutside) (more : List Action) :
    ∀ k, (s.run more).callers[number]? = some k → k.IsOutside := by
  refine run_induction (P := fun _ s' => ∀ k, s'.core.callers[number]? = some k → k.IsOutside)
    outside ?_ more
  intro more a h k' hk'
  have acts := acts (s.run more) a
  cases hk : (s.run more).core.callers[number]? with
  | none =>
    obtain ⟨r, -, rfl⟩ := acts.newcomer hk hk'
    exact .inl rfl
  | some k =>
    obtain ⟨-, same⟩ | ⟨-, sh, l, stage, after, move⟩ | ⟨-, same, -, -⟩ := acts.caller hk
    · obtain rfl := Option.some.inj (same.symm.trans hk')
      exact h k hk
    · have less := (List.getElem?_eq_some_iff.1 hk).1
      obtain rfl : { k with stage := stage } = k' := by simpa [after, less] using hk'
      exact move.stays_outside (closing_stays closing more) (h k hk)
    · rw [same] at hk'
      exact h k' hk'

/-- How a session that started as `first` keeps its trace in a file, seen after some actions. -/
structure TracesFaithfully (vantage : Vantage) (location : Location) (first : Session)
    (actions : List Action) : Prop where
  file : ∃ records : List (Nat × TraceEvent),
    records.map Prod.snd = .connectionStarted first.options.vantage :: recordsOf first actions ∧
      (first.run actions).registry.files.contentAt location <+:
        Trace.text vantage first.id records ∧
      (.released ∈ (first.run actions).history →
        (first.run actions).registry.files.contentAt location = Trace.text vantage first.id records)
  order : (∀ e ∈ recordsOf first actions, e.isTraffic = true) ∨
    (first.run actions).state = .closed ∧ ∃ reason before late,
      (first.run actions).shutdown.reason = some reason ∧
        recordsOf first actions = before ++ lastRecord reason :: late ∧
        (∀ e ∈ before, e.isTraffic = true) ∧ ∀ e ∈ late, e.isSent = true
  closes : (first.run actions).state = .closed →
    (∀ reason, (first.run actions).reader ≠ .ending (.record reason)) →
    (∀ reason, (first.run actions).acceptor ≠ .ending (.record reason)) →
      ∃ reason, (first.run actions).shutdown.reason = some reason ∧
        lastRecord reason ∈ recordsOf first actions
  traffic : ((recordsOf first actions).filter TraceEvent.isTraffic).Perm
    ((first.run actions).tasks.flatMap fun t => trafficOf t first actions)
  stays : ∀ t more, trafficOf t first actions <+: trafficOf t first (actions ++ more)
  /-- A send is missing only if it comes to its record when the trace is given up already. -/
  sends : ∀ number k, (first.run actions).callers[number]? = some k →
    trafficOf (.caller number) first actions <+: k.sentEvent?.toList ∧
      (.released ∉ (first.run actions).history →
        trafficOf (.caller number) first actions = k.sentEvent?.toList)
  inFlight : (first.run actions).state ≠ .running → ∀ number,
    (∀ k, (first.run actions).callers[number]? = some k → k.stage = .asked) →
      ∀ more, trafficOf (.caller number) first (actions ++ more) = []
  datagrams : trafficOf .reader first actions =
    (messagesOf .reader first actions ++ (first.run actions).reader.atHand).map receivedEvent
  acceptor : trafficOf .acceptor first actions = []
  complete : ∀ (number : Nat) (stream : InboundStream),
    (acceptedIn first actions)[number]? = some stream → stream.IsComplete →
      trafficOf (.drain number) first actions <+: [.streamReceived stream.content.length] ∧
        (messagesOf (.drain number) first actions = [stream.content] →
          trafficOf (.drain number) first actions = [.streamReceived stream.content.length])
  broken : ∀ (number : Nat) (stream : InboundStream),
    (acceptedIn first actions)[number]? = some stream → ¬ stream.IsComplete →
      ∃ e, stream.FailsWith e ∧
        discardsOf (.drain number) first actions <+: [(stream.content.length, e)] ∧
        trafficOf (.drain number) first actions <+:
          [.streamDiscarded stream.content.length e.message] ∧
        ((first.run actions).HasDrained number →
          trafficOf (.drain number) first actions =
            [.streamDiscarded stream.content.length e.message])
  /-- When the trace is given up, only sends may still have something to tell. -/
  settled : .released ∈ (first.run actions).history →
    (first.run actions).reader.atHand = [] ∧
      ∀ number, number < (first.run actions).drains.length → (first.run actions).HasDrained number

theorem Holds.traffic_complete {stream : InboundStream} {d : Drain} {messages : List Payload}
    {discards : List (Nat × TransportError)} (h : Holds stream d messages discards)
    (complete : stream.IsComplete) : d.traffic <+: [.streamReceived stream.content.length] ∧
      (messages = [stream.content] → d.traffic = [.streamReceived stream.content.length]) := by
  have unfailing (e : TransportError) : ¬ stream.FailsWith e := by
    simp [InboundStream.FailsWith, complete.1, complete.2]
  cases h with
  | reading | recordDelivered => exact ⟨List.nil_prefix, by simp⟩
  | deliver | delivered => exact ⟨List.prefix_rfl, fun _ => rfl⟩
  | recordDiscarded fails | discarded fails => exact absurd fails (unfailing _)

theorem Holds.traffic_broken {stream : InboundStream} {d : Drain} {messages : List Payload}
    {discards : List (Nat × TransportError)} (h : Holds stream d messages discards)
    (incomplete : ¬ stream.IsComplete) : ∃ e, stream.FailsWith e ∧
      discards <+: [(stream.content.length, e)] ∧
      d.traffic <+: [.streamDiscarded stream.content.length e.message] ∧
      (d.isEnded = true → d.traffic = [.streamDiscarded stream.content.length e.message]) := by
  obtain ⟨e, he⟩ := exists_failsWith incomplete
  cases h with
  | reading => exact ⟨e, he, List.nil_prefix, List.nil_prefix, by simp [Drain.isEnded]⟩
  | recordDiscarded fails =>
    exact ⟨_, fails, List.prefix_rfl, List.nil_prefix, by simp [Drain.isEnded]⟩
  | discarded fails => exact ⟨_, fails, List.prefix_rfl, List.prefix_rfl, fun _ => rfl⟩
  | recordDelivered complete | deliver complete | delivered complete =>
    exact absurd complete incomplete

/-- Where the file of a session takes all that is written to it, it tells what the session did: every
record once and in order, up to sends that come to their records when the session has closed. -/
theorem traces_faithfully (opens : registry.Opens id location files) (options : Options)
    (link : Link) (clock : Nat) (actions : List Action)
    (fine : ∀ e ∈ ((spawn id options link registry clock).run actions).history,
      e.isTraceFailure = false) :
    TracesFaithfully registry.vantage location (spawn id options link registry clock) actions := by
  have written := filed_of_no_failure opens options link clock actions fine
  have inOrder := inOrder_run id options link registry clock actions
  have closure := (closing_run id options link registry clock actions).closure
  have joined := (ordered_run id options link registry clock actions).2
  have delivered := delivered_run id options link registry clock actions
  have perm := traffic_perm id options link registry clock actions
  have ofReader := trafficOf_reader id options link registry clock actions
  have ofAcceptor := trafficOf_acceptor id options link registry clock actions
  have ofCaller := trafficOf_caller id options link registry clock
  have ofDrain {number : Nat} {d : Drain} :=
    @trafficOf_drain id options link registry clock actions number d
  have core := core_spawn id options link registry clock
  generalize spawn id options link registry clock = first at *
  have hid : first.id = id := congrArg Core.id core
  have hoptions : first.options = options := congrArg Core.options core
  exact {
    file := by
      obtain ⟨records, same, filed⟩ := written
      rw [hid, hoptions]
      exact ⟨records, same, filed.content⟩
    order := inOrder.splits closure
    closes := by
      intro closed reader acceptor
      refine inOrder.tells_end closure (known_of_closed closure closed ?_ ?_)
      · exact fun reason he => reader reason (reader_eq he)
      · exact fun reason he => acceptor reason (acceptor_eq he)
    traffic := perm
    stays := by
      intro t more
      rw [trafficOf_append]
      exact List.prefix_append ..
    sends := by
      intro number k hk
      have sent := ofCaller actions number
      simp only [hk, Option.bind_some] at sent
      exact sent
    inFlight := by
      intro closing number unbegun more
      have outside := outside_of_closing closing (fun k hk => .inl (unbegun k hk)) more
      have unsent : (first.run (actions ++ more)).callers[number]?.bind Caller.sentEvent? = none := by
        rw [run_append, Option.bind_eq_none_iff]
        exact fun k hk => (outside k hk).sentEvent?
      have cut := (ofCaller (actions ++ more) number).1
      simpa [unsent] using cut
    datagrams := ofReader
    acceptor := ofAcceptor
    complete := by
      intro number stream hs complete
      obtain ⟨d, hd, holds⟩ := delivered.exists_drain hs
      rw [ofDrain hd]
      exact holds.traffic_complete complete
    broken := by
      intro number stream hs incomplete
      obtain ⟨d, hd, holds⟩ := delivered.exists_drain hs
      obtain ⟨e, fails, discarded, recorded, ended⟩ := holds.traffic_broken incomplete
      rw [ofDrain hd]
      exact ⟨e, fails, discarded, recorded, fun drained => ended (drained.isEnded hd)⟩
    settled := by
      intro released
      have settled := isSettled_of_known closure joined
        (List.ne_nil_of_mem ((released_mem_filter _).2 released))
      refine ⟨?_, fun number less => ?_⟩
      · obtain ⟨stage, hs⟩ := Option.isSome_iff_exists.1 settled.reader
        rw [show (first.run actions).reader = .ending stage from reader_eq hs]
        rfl
      · have hd := List.getElem?_eq_getElem less
        exact .of_isEnded hd (List.all_eq_true.1 settled.drains _ (List.mem_of_getElem? hd)) }

theorem released_mem_visible (history : List Effect) :
    .released ∈ visible history ↔ .released ∈ history := by
  simp [visible, Effect.isDiagnostic]

theorem visible_news_silence (s : Session) (a : Action) :
    visible (s.silence.news a) = visible (s.news a) := by
  have twice (history : List Effect) : visible (visible history) = visible history := by
    simp [visible]
  have same : visible (s.act a).silence.history = visible (s.silence.act a).history := by
    rw [silence_act]
  have silent : (s.act a).silence.history = visible (s.act a).history := rfl
  rw [history_act s.silence, silent, history_act, visible_append, visible_append] at same
  simpa [silence, twice] using same.symm

/-- What a session tells its trace does not depend on what the trace does with it. -/
theorem recordsOf_silence (first : Session) (actions : List Action) :
    recordsOf first.silence actions = recordsOf first actions := by
  refine @run_induction (fun actions _ => recordsOf first.silence actions = recordsOf first actions)
    first rfl ?_ actions
  intro actions a h
  rw [recordsOf_concat, recordsOf_concat, h, ← silence_run, visible_news_silence]
  simp only [silence, released_mem_visible]

def oneByte : ConnectionId := ⟨[1]⟩

def traced : Trace.Registry := .new (some "q") .client (.scratch ["tmp"])

def traceFile : Location := ["tmp", "q", "01.qlog"]

def readyFiles : FileSystem := (FileSystem.scratch ["tmp"]).put ["tmp", "q"] .directory

def tracedFiles : FileSystem := readyFiles.put traceFile (.file [] none)

theorem ensureDirectory_q : traced.files.ensureDirectory "q" = (readyFiles, .ok ()) := by
  have named : "q".isEmpty = false := by decide +kernel
  have isPath : FileSystem.checkPath "q" = .ok () :=
    FileSystem.checkPath_eq (by decide +kernel) named (by decide +kernel)
  have names : Path.pieces "q" = ["q"] := by decide +kernel
  have start : traced.files.start "q" = ["tmp"] := by decide +kernel
  have above : traced.files.node? ["tmp"] = some .directory := by decide +kernel
  have new : traced.files.node? ["tmp", "q"] = none := by decide +kernel
  have size : "q".utf8ByteSize = 1 := by decide +kernel
  have free : traced.files.walk FileSystem.maxLinks ["tmp"] ["q"] = .ok (.free ["tmp", "q"]) := by
    simp [FileSystem.walk, above, new, size, FileSystem.maxName]
  have here : traced.files.walk FileSystem.maxLinks ["tmp"] [] = .ok (.node ["tmp"]) := by
    rw [FileSystem.walk]
  have resolved : traced.files.resolve "q" = .ok (.free ["tmp", "q"]) := by
    rw [FileSystem.resolve, isPath, names, start, ← free]
    rfl
  have missing : traced.files.isDirectory "q" = false := by rw [FileSystem.isDirectory, resolved]
  have made : traced.files.makeDirectory "q" = .ok readyFiles := by
    have last : ["q"].reverse.dropWhile (·.isEmpty) = ["q"] := by decide +kernel
    rw [FileSystem.makeDirectory, isPath, names, start]
    simp only [last, List.drop_succ_cons, List.drop_zero, List.reverse_nil, here, List.head?_cons]
    rfl
  rw [FileSystem.ensureDirectory, missing, FileSystem.makeDirectories.eq_def, made, named]
  rfl

theorem resolve_traceFile : readyFiles.resolve "q/01.qlog" = .ok (.free traceFile) := by
  have isPath : FileSystem.checkPath "q/01.qlog" = .ok () :=
    FileSystem.checkPath_eq (by decide +kernel) (by decide +kernel) (by decide +kernel)
  have names : Path.pieces "q/01.qlog" = ["q", "01.qlog"] := by decide +kernel
  have start : readyFiles.start "q/01.qlog" = ["tmp"] := by decide +kernel
  have above : readyFiles.node? ["tmp"] = some .directory := by decide +kernel
  have here : readyFiles.node? ["tmp", "q"] = some .directory := by decide +kernel
  have new : readyFiles.node? ["tmp", "q", "01.qlog"] = none := by decide +kernel
  have size : "q".utf8ByteSize = 1 ∧ "01.qlog".utf8ByteSize = 7 := by decide +kernel
  have free : readyFiles.walk FileSystem.maxLinks ["tmp"] ["q", "01.qlog"] =
      .ok (.free traceFile) := by
    simp [FileSystem.walk, above, here, new, size, FileSystem.maxName, traceFile]
  rw [FileSystem.resolve, isPath, names, start, ← free]
  rfl

theorem create_traceFile : readyFiles.create "q/01.qlog" = .ok (⟨traceFile, 0⟩, tracedFiles) := by
  rw [FileSystem.create, resolve_traceFile]
  rfl

theorem traced_opens : traced.Opens oneByte traceFile tracedFiles where
  fresh := rfl
  opened := by
    have path : Path.join "q" (oneByte.hex ++ ".qlog") = "q/01.qlog" := by decide +kernel
    exact ⟨"q", readyFiles, rfl, ensureDirectory_q, by rw [path]; exact create_traceFile⟩

def lateSender : Session := spawn oneByte .client (.new (some 100)) traced 0

theorem lateSender_fine (actions : List Action) :
    ∀ e ∈ (lateSender.run actions).history, e.isTraceFailure = false :=
  no_failure_of_hasSpace traced_opens ⟨[], by decide +kernel⟩ _ _ _ _

def untilClosed : List Action :=
  .request (.send [1]) :: List.replicate 2 (.step (.caller 0)) ++
    .event (.peerClosed .cooperative) :: List.replicate 3 (.step .reader) ++
      List.replicate 5 (.step .acceptor)

structure LateSenderLeaves (actions : List Action) (events : List TraceEvent) : Prop where
  fine : ∀ e ∈ (lateSender.run actions).history, e.isTraceFailure = false
  closed : (lateSender.run actions).state = .closed
  sent : (lateSender.run actions).callers[0]?.bind Caller.reply? = some (.sent .datagram)
  file : ∃ records : List (Nat × TraceEvent), records.map Prod.snd = events ∧
    (lateSender.run actions).registry.files.contentAt traceFile =
      Trace.text .client oneByte records

theorem lateSenderLeaves {actions : List Action} {events : List TraceEvent} {silent : Session}
    (start : silent = spawn oneByte .client (.new (some 100)) untraced 0)
    (closed : (silent.run actions).state = .closed)
    (sent : (silent.run actions).callers[0]?.bind Caller.reply? = some (.sent .datagram))
    (released : .released ∈ (silent.run actions).history)
    (told : recordsOf silent actions = events) :
    LateSenderLeaves actions (.connectionStarted .client :: events) := by
  have silenced : silent = lateSender.silence := by rw [start, lateSender, silence_spawn]
  rw [silenced, ← silence_run] at closed sent released
  rw [silenced, recordsOf_silence] at told
  have fine := lateSender_fine actions
  obtain ⟨records, same, filed⟩ :=
    filed_of_no_failure traced_opens .client (.new (some 100)) 0 actions fine
  have events_eq : records.map Prod.snd = .connectionStarted .client :: events := by
    rw [same, ← told]
    rfl
  exact ⟨fine, closed, sent, records, events_eq,
    filed.content.2 ((released_mem_visible _).1 released)⟩

/-- The record of a send can stand behind the last record, and it can be missing. -/
theorem late_send :
    traced.Opens oneByte traceFile tracedFiles ∧
      LateSenderLeaves (untilClosed ++ [.step (.caller 0), .step .acceptor])
        [.connectionStarted .client, .connectionClosed 0 "normal shutdown", .datagramSent 1] ∧
      LateSenderLeaves (untilClosed ++ [.step .acceptor, .step (.caller 0)])
        [.connectionStarted .client, .connectionClosed 0 "normal shutdown"] := by
  refine ⟨traced_opens, lateSenderLeaves rfl ?_ ?_ ?_ ?_, lateSenderLeaves rfl ?_ ?_ ?_ ?_⟩
  all_goals decide +kernel

theorem traces_faithfully_lateSender :
    let actions := untilClosed ++ [.step (.caller 0), .step .acceptor]
    traced.Opens oneByte traceFile tracedFiles ∧
      (∀ e ∈ (lateSender.run actions).history, e.isTraceFailure = false) ∧
      TracesFaithfully .client traceFile lateSender actions := by
  intro actions
  exact ⟨traced_opens, lateSender_fine actions, traces_faithfully traced_opens .client
    (.new (some 100)) 0 actions (lateSender_fine actions)⟩

end MessageTunnel.Session
