import MessageTunnel.Proofs.Trace.Writer
/-!
The life of a writer from the opening of its file on, under whatever calls. The file may have a
limit: a file that fails from some byte on is one that is full there. At every moment it holds a
beginning of the header and the records that came before the first close. The writer ends with the
first write that fails or with the first close; after that it says nothing and changes nothing.
-/
set_option autoImplicit false

namespace MessageTunnel

namespace FileSystem

variable {fs fs' before : FileSystem} {l : Location} {text : Bytes}

def kept (fs : FileSystem) (l : Location) (text : Bytes) : Bytes :=
  match fs.capacityAt l with
  | none => text
  | some n => text.take n

def HasRoomFor (fs : FileSystem) (l : Location) (text : Bytes) : Prop :=
  ∀ n ∈ fs.capacityAt l, text.length ≤ n

theorem HasRoomFor.kept_eq (room : fs.HasRoomFor l text) : fs.kept l text = text := by
  unfold kept
  split
  · rfl
  · rename_i n limit
    exact List.take_of_length_le (room n limit)

theorem HasRoomFor.of_content (content : fs'.contentAt l = text)
    (same : fs'.capacityAt l = fs.capacityAt l) : fs.HasRoomFor l text :=
  fun _ limit => content ▸ length_le_capacity (same.trans limit)

theorem CutOff.content_eq (h : fs.CutOff l text fs') : fs'.contentAt l = fs.kept l text := by
  unfold kept
  rw [← h.capacity, h.full.1]
  exact List.prefix_iff_eq_take.1 h.within

theorem CutOff.not_hasRoomFor (h : fs.CutOff l text fs') : ¬ fs.HasRoomFor l text :=
  fun room => Nat.not_lt.2 (room _ (h.capacity.symm.trans h.full.1)) h.full.2

theorem CutOff.longer (h : fs.CutOff l text fs') (more : Bytes) :
    fs.CutOff l (text ++ more) fs' where
  within := h.within.trans (List.prefix_append ..)
  capacity := h.capacity
  full := h.full.mono (by simp)

theorem CutOff.since (h : fs.CutOff l text fs') (same : fs.capacityAt l = before.capacityAt l) :
    before.CutOff l text fs' :=
  ⟨h.within, h.capacity.trans same, h.full⟩

end FileSystem

namespace Trace

/-- What can be asked of a writer. To release its connection is to close it. -/
inductive Use where
  | record (now : Nat) (event : TraceEvent)
  | close

def recorded (created : Nat) : List Use → List (Nat × TraceEvent)
  | [] | .close :: _ => []
  | .record now event :: rest => (now - created, event) :: recorded created rest

structure Life where
  logged : List Log.Entry
  writer : Writer
  files : FileSystem

namespace Life

def next (s : Life) : List Log.Entry × Writer × FileSystem → Life
  | (entries, w, fs) => ⟨s.logged ++ entries, w, fs⟩

def use (s : Life) : Use → Life
  | .record now event => s.next (s.writer.record s.files now event)
  | .close => s.next (s.writer.close s.files)

def uses (s : Life) (calls : List Use) : Life := calls.foldl use s

def dropped (s : Life) : FileSystem := (s.writer.abandon s.files).2

def HasWarned (s : Life) (path : String) : Prop :=
  ∃ e, s.logged = [.traceWriteFailed path e] ∨ s.logged = [.traceFlushFailed path e]

variable {start s : Life} {l : Location} {text : Bytes} {closed : Prop}

theorem use_of_ended (ended : s.writer.output = none) (call : Use) : s.use call = s := by
  cases call <;> simp [use, next, Writer.record, Writer.append, Writer.close, ended]

theorem uses_of_ended (ended : s.writer.output = none) (calls : List Use) : s.uses calls = s := by
  induction calls with
  | nil => rfl
  | cons call rest ih =>
    show (s.use call).uses rest = s
    rw [use_of_ended ended, ih]

theorem dropped_of_ended (ended : s.writer.output = none) : s.dropped = s.files := by
  simp [dropped, Writer.abandon, ended]

/-- The writer still goes on: the file and the buffer hold what it was given, and nothing failed. -/
structure Going (start : Life) (l : Location) (text : Bytes) (s : Life) : Prop where
  output : ∃ o, s.writer = { start.writer with output := some o } ∧ o.handle.location = l ∧
    o.Holds s.files text
  capacity : s.files.capacityAt l = start.files.capacityAt l
  quiet : s.logged = []

/-- Where a writer stands that was given a text, and whether it was closed. -/
inductive Stage (start : Life) (l : Location) (text : Bytes) (closed : Prop) (s : Life) : Prop where
  | going (unclosed : ¬ closed) (h : Going start l text s)
  | done (isClosed : closed) (ended : s.writer.output = none) (quiet : s.logged = [])
      (content : s.files.contentAt l = text)
      (capacity : s.files.capacityAt l = start.files.capacityAt l)
  | failed (ended : s.writer.output = none) (warned : s.HasWarned start.writer.path)
      (cutOff : start.files.CutOff l text s.files)

theorem Going.append (h : Going start l text s) (entry : Json) :
    Stage start l (text ++ entryBytes entry) False
      (s.next (s.writer.append s.files entry)) := by
  obtain ⟨o, writer, place, holds⟩ := h.output
  subst place
  have output : s.writer.output = some o := by rw [writer]
  obtain ⟨o', fs', appended, takes⟩ | ⟨-, e, fs', appended, cutOff⟩ :=
    Writer.append_holds output holds entry
  · rw [appended]
    refine .going not_false ⟨⟨o', ?_, takes.place, .of_takes_ok takes⟩, ?_, ?_⟩
    · simp [next, writer]
    · exact takes.capacity.trans h.capacity
    · simp [next, h.quiet]
  · rw [appended]
    refine .failed rfl ⟨e, .inl ?_⟩ (cutOff.since h.capacity)
    simp [next, h.quiet, writer]

theorem Going.close (h : Going start l text s) : Stage start l text True (s.use .close) := by
  obtain ⟨o, writer, place, holds⟩ := h.output
  subst place
  have output : s.writer.output = some o := by rw [writer]
  obtain ⟨fs', closed, content, capacity, -⟩ | ⟨-, e, fs', closed, cutOff⟩ :=
    Writer.close_holds output holds
  · rw [use, closed]
    exact .done trivial rfl (by simp [next, h.quiet]) content (capacity.trans h.capacity)
  · rw [use, closed]
    refine .failed rfl ⟨e, .inr ?_⟩ (cutOff.since h.capacity)
    simp [next, h.quiet, writer]

theorem Stage.output_eq_none (h : Stage start l text closed s) (past : closed ∨ s.logged ≠ []) :
    s.writer.output = none := by
  cases h with
  | going unclosed h => exact (past.elim unclosed fun loud => loud h.quiet).elim
  | done _ ended | failed ended => exact ended

theorem Stage.uses {vantage : Vantage} {id : ConnectionId} {before : List (Nat × TraceEvent)}
    (h : Stage start l (Trace.text vantage id before) False s) (calls : List Use) :
    Stage start l (Trace.text vantage id (before ++ recorded start.writer.created calls))
      (.close ∈ calls) (s.uses calls) := by
  induction calls generalizing s before with
  | nil => simpa [recorded, Life.uses] using h
  | cons call rest ih =>
    cases h with
    | done impossible => exact impossible.elim
    | failed ended warned cutOff =>
      -- The calls come too late; they only make the text longer that is cut off.
      rw [uses_of_ended ended, text_append]
      exact .failed ended warned (cutOff.longer _)
    | going _ h =>
      show Stage _ _ _ _ ((s.use call).uses rest)
      cases call with
      | record now event =>
        have created : s.writer.created = start.writer.created := by
          obtain ⟨o, writer, -⟩ := h.output
          rw [writer]
        have first := h.append (record (now - s.writer.created) event)
        rw [← text_concat] at first
        have all := ih first
        simp only [created, List.append_assoc, List.singleton_append] at all
        simpa [recorded, use, Writer.record, created] using all
      | close =>
        have last := h.close
        rw [uses_of_ended (last.output_eq_none (.inl trivial))]
        simpa [recorded] using last

/-- How calls on a writer turn out whose file was just opened at a location, if this is the text of
the header and of the records up to the first close. -/
structure KeepsBeginning (created : Life) (path : String) (opened : FileSystem) (l : Location)
    (calls : List Use) (text : Bytes) : Prop where
  within : (created.uses calls).files.contentAt l <+: text
  /-- up to where the file is full -/
  kept : (created.uses calls).dropped.contentAt l = opened.kept l text
  kept_of_close : .close ∈ calls → (created.uses calls).files.contentAt l = opened.kept l text
  whole : opened.HasRoomFor l text → (created.uses calls).logged = [] ∧
    (created.uses calls).dropped.contentAt l = text ∧
    (.close ∈ calls → (created.uses calls).files.contentAt l = text)
  once : (created.uses calls).logged = [] ∨ (created.uses calls).HasWarned path
  told : .close ∈ calls → (created.uses calls).logged = [] → opened.HasRoomFor l text
  /-- Neither what is logged nor a file changes, and there is nothing left to drop. -/
  silent : ∀ earlier later, calls = earlier ++ later →
    .close ∈ earlier ∨ (created.uses earlier).logged ≠ [] →
    created.uses calls = created.uses earlier ∧
      (created.uses calls).dropped = (created.uses earlier).files

theorem Stage.within (h : Stage start l text closed s) : s.files.contentAt l <+: text := by
  cases h with
  | going _ h =>
    obtain ⟨o, -, rfl, holds⟩ := h.output
    exact ⟨o.buffer, holds.text_eq⟩
  | done _ _ _ content => exact content ▸ List.prefix_rfl
  | failed _ _ cutOff => exact cutOff.within

theorem Going.dropped (h : Going start l text s) :
    s.dropped.contentAt l = start.files.kept l text := by
  obtain ⟨o, writer, rfl, holds⟩ := h.output
  have given : s.dropped = o.drop s.files := by simp [Life.dropped, Writer.abandon, writer]
  rw [given]
  cases flushed : o.flush s.files with
  | mk result after =>
    obtain ⟨takes, -⟩ := holds.flush flushed
    have last : o.drop s.files = after.2 := by rw [Output.drop, flushed]
    rw [last]
    cases result with
    | ok =>
      have content := holds.flush_content flushed
      have room := FileSystem.HasRoomFor.of_content content (takes.capacity.trans h.capacity)
      rw [content, room.kept_eq]
    | error e => simpa using ((takes.cutOff (by simp)).since h.capacity).content_eq

theorem Stage.kept (h : Stage start l text closed s) (ended : s.writer.output = none) :
    s.files.contentAt l = start.files.kept l text := by
  cases h with
  | going _ h =>
    obtain ⟨o, writer, -⟩ := h.output
    simp [writer] at ended
  | done _ _ _ content capacity =>
    rw [content, (FileSystem.HasRoomFor.of_content content capacity).kept_eq]
  | failed _ _ cutOff => exact cutOff.content_eq

theorem Stage.dropped (h : Stage start l text closed s) :
    s.dropped.contentAt l = start.files.kept l text := by
  cases ended : s.writer.output with
  | none =>
    rw [dropped_of_ended ended]
    exact h.kept ended
  | some o =>
    cases h with
    | going _ h => exact h.dropped
    | done _ none_ | failed none_ => simp [none_] at ended

theorem Stage.once (h : Stage start l text closed s) :
    s.logged = [] ∨ s.HasWarned start.writer.path := by
  cases h with
  | going _ h => exact .inl h.quiet
  | done _ _ quiet => exact .inl quiet
  | failed _ warned => exact .inr warned

theorem Stage.quiet (h : Stage start l text closed s) (room : start.files.HasRoomFor l text) :
    s.logged = [] := by
  cases h with
  | going _ h => exact h.quiet
  | done _ _ quiet => exact quiet
  | failed _ _ cutOff => exact (cutOff.not_hasRoomFor room).elim

theorem Stage.told (h : Stage start l text closed s) (isClosed : closed) (quiet : s.logged = []) :
    start.files.HasRoomFor l text := by
  cases h with
  | going unclosed => exact (unclosed isClosed).elim
  | done _ _ _ content capacity => exact .of_content content capacity
  | failed _ warned =>
    obtain ⟨e, warned | warned⟩ := warned <;> simp [quiet] at warned

theorem uses_append (s : Life) (earlier later : List Use) :
    s.uses (earlier ++ later) = (s.uses earlier).uses later :=
  List.foldl_append

theorem keepsBeginning_of_stage {created : Life} {given : List Use → Bytes}
    (stage : ∀ calls, Stage start l (given calls) (.close ∈ calls) (created.uses calls))
    (calls : List Use) :
    KeepsBeginning created start.writer.path start.files l calls (given calls) where
  within := (stage calls).within
  kept := (stage calls).dropped
  kept_of_close := fun isClosed => (stage calls).kept ((stage calls).output_eq_none (.inl isClosed))
  whole := by
    intro room
    refine ⟨(stage calls).quiet room, (stage calls).dropped.trans room.kept_eq, fun isClosed => ?_⟩
    have ended := (stage calls).output_eq_none (.inl isClosed)
    exact ((stage calls).kept ended).trans room.kept_eq
  once := (stage calls).once
  told := (stage calls).told
  silent := by
    rintro earlier later rfl past
    have ended := (stage earlier).output_eq_none past
    have same : created.uses (earlier ++ later) = created.uses earlier := by
      rw [uses_append, uses_of_ended ended]
    exact ⟨same, by rw [same, dropped_of_ended ended]⟩

/-- A writer whose file could be opened, whatever is asked of it and wherever its file is full. -/
theorem keeps_beginning {dir : String} {id : ConnectionId} {ready opened : FileSystem}
    {handle : Handle}
    (made : ready.create (Path.join dir (id.hex ++ ".qlog")) = .ok (handle, opened))
    (vantage : Vantage) (now : Nat) :
    ∃ entries w fs, Writer.create ready dir vantage id now = .ok (entries, w, fs) ∧
      ∀ calls, KeepsBeginning ⟨entries, w, fs⟩ (Path.join dir (id.hex ++ ".qlog")) opened
        handle.location calls (Trace.text vantage id (recorded now calls)) := by
  obtain ⟨created, holds⟩ := Writer.create_eq made vantage now
  let start : Life := ⟨[], .fresh dir id now handle, opened⟩
  have fresh : Going start handle.location [] start := ⟨⟨_, rfl, rfl, holds⟩, rfl, rfl⟩
  have header : Stage start handle.location (Trace.text vantage id []) False
      (start.next ((Writer.fresh dir id now handle).append opened (Trace.header vantage id))) := by
    simpa [Trace.text] using fresh.append (Trace.header vantage id)
  generalize (Writer.fresh dir id now handle).append opened (Trace.header vantage id) = first
    at created header
  obtain ⟨entries, w, fs⟩ := first
  exact ⟨entries, w, fs, created, keepsBeginning_of_stage header.uses⟩

def smallFile : Location := ["tmp", "ab.qlog"]

def smallDisk : FileSystem :=
  (FileSystem.scratch ["tmp"]).put smallFile (.file [1, 2, 3] (some 200))

theorem create_smallFile : smallDisk.create (Path.join "." "ab.qlog") =
    .ok (⟨smallFile, 0⟩, smallDisk.put smallFile (.file [] (some 203))) := by
  have path : Path.join "." "ab.qlog" = "./ab.qlog" := by decide +kernel
  have names : Path.pieces "./ab.qlog" = [".", "ab.qlog"] := by decide +kernel
  have start : smallDisk.start "./ab.qlog" = ["tmp"] := by decide +kernel
  have above : smallDisk.node? ["tmp"] = some .directory := by decide +kernel
  have there : smallDisk.node? ["tmp", "ab.qlog"] = some (.file [1, 2, 3] (some 200)) := by
    decide +kernel
  have size : "ab.qlog".utf8ByteSize = 7 := by decide +kernel
  have isPath : FileSystem.checkPath "./ab.qlog" = .ok () :=
    FileSystem.checkPath_eq (by decide +kernel) (by decide +kernel) (by decide +kernel)
  have found : smallDisk.walk FileSystem.maxLinks ["tmp"] [".", "ab.qlog"] =
      .ok (.node smallFile) := by
    simp [FileSystem.walk, above, there, size, FileSystem.maxName, smallFile]
  have resolved : smallDisk.resolve "./ab.qlog" = .ok (.node smallFile) := by
    rw [FileSystem.resolve, isPath, names, start, ← found]
    rfl
  rw [path, FileSystem.create, resolved]
  simp only [bind, Except.bind, pure, Except.pure, smallFile, there]
  rfl

def lateRecord : List Use := [.record 8 (.datagramSent 5), .close, .record 9 (.datagramSent 6)]

/-- The record before the close is cut off in the middle, and the writer says so once. -/
theorem keeps_beginning_smallFile : ∃ entries w fs,
    Writer.create smallDisk "." .client ⟨[0xAB]⟩ 7 = .ok (entries, w, fs) ∧
      (Life.uses ⟨entries, w, fs⟩ lateRecord).HasWarned "./ab.qlog" ∧
      (Life.uses ⟨entries, w, fs⟩ lateRecord).files.contentAt smallFile =
        (Trace.text .client ⟨[0xAB]⟩ [(1, .datagramSent 5)]).take 203 := by
  have made : smallDisk.create (Path.join "." (ConnectionId.hex ⟨[0xAB]⟩ ++ ".qlog")) =
      .ok (⟨smallFile, 0⟩, smallDisk.put smallFile (.file [] (some 203))) := by
    have name : ConnectionId.hex ⟨[0xAB]⟩ ++ ".qlog" = "ab.qlog" := by decide +kernel
    rw [name]
    exact create_smallFile
  have path : Path.join "." (ConnectionId.hex ⟨[0xAB]⟩ ++ ".qlog") = "./ab.qlog" := by
    decide +kernel
  have limit : (smallDisk.put smallFile (.file [] (some 203))).capacityAt smallFile = some 203 := by
    decide +kernel
  have long : 203 < (Trace.text .client ⟨[0xAB]⟩ [(1, .datagramSent 5)]).length := by
    decide +kernel
  have isClosed : .close ∈ lateRecord := by simp [lateRecord]
  obtain ⟨entries, w, fs, created, passes⟩ := keeps_beginning made .client 7
  have turned := passes lateRecord
  rw [path] at turned
  refine ⟨entries, w, fs, created, ?_, ?_⟩
  · refine turned.once.resolve_left fun quiet => ?_
    exact Nat.not_le.2 long (turned.told isClosed quiet 203 limit)
  · rw [turned.kept_of_close isClosed, FileSystem.kept, limit]
    rfl

end Life

end Trace

end MessageTunnel
