import MessageTunnel.Proofs.Json.Fractions
import MessageTunnel.Proofs.Json.RoundTrip
import MessageTunnel.Proofs.Text.Utf8
import MessageTunnel.Proofs.Trace.Writer
/-!
What a trace file tells can be read off it again. Separators and line feeds stand around the
entries and never inside, since JSON text has no control characters; the JSON text of an entry gives
the entry back; and an event is known by its name and data.
-/
set_option autoImplicit false

namespace MessageTunnel

theorem mapM_map_some {α β γ : Type} {f : β → Option γ} {g : α → β} {k : α → γ} (l : List α)
    (each : ∀ a ∈ l, f (g a) = some (k a)) : (l.map g).mapM f = some (l.map k) := by
  induction l with
  | nil => rfl
  | cons a l ih =>
    rw [List.map_cons, List.mapM_cons, each a List.mem_cons_self,
      ih fun b here => each b (List.mem_cons_of_mem a here)]
    rfl

theorem mapM_map_self {α β : Type} {f : β → Option α} {g : α → β} (l : List α)
    (each : ∀ a ∈ l, f (g a) = some a) : (l.map g).mapM f = some l := by
  simpa using mapM_map_some (k := fun a => a) l each

namespace Json

def text? : Json → Option String
  | .string s => some s
  | _ => none

def natural? : Json → Option Nat
  | .number (.natural n) => some n
  | _ => none

def textAt? (v : Json) (key : String) : Option String := (v.get? key).bind text?

def naturalAt? (v : Json) (key : String) : Option Nat := (v.get? key).bind natural?

end Json

section Cutting

variable {α : Type}

theorem intercalate_cons (x : α) (part : List α) (parts : List (List α)) :
    [x].intercalate (part :: parts) = part ++ parts.flatMap (x :: ·) := by
  induction parts generalizing part with
  | nil => simp
  | cons next rest ih => rw [List.intercalate_cons_cons, ih next]; simp

theorem intercalate_concat_nil (x : α) (parts : List (List α)) :
    [x].intercalate (parts ++ [[]]) = parts.flatMap (· ++ [x]) := by
  induction parts with
  | nil => rfl
  | cons part rest ih =>
    rw [List.cons_append, List.intercalate_cons_of_ne_nil (by simp), ih, List.flatMap_cons]

variable [BEq α] [LawfulBEq α] {x : α} {parts : List (List α)}

theorem splitOn_introduced (outside : ∀ part ∈ parts, x ∉ part) :
    (parts.flatMap (x :: ·)).splitOn x = [] :: parts := by
  rw [← List.nil_append (parts.flatMap _), ← intercalate_cons]
  exact List.splitOn_intercalate x (by simpa using outside) (by simp)

theorem splitOn_terminated (outside : ∀ part ∈ parts, x ∉ part) :
    (parts.flatMap (· ++ [x])).splitOn x = parts ++ [[]] := by
  rw [← intercalate_concat_nil]
  refine List.splitOn_intercalate x ?_ (by simp)
  intro part here
  obtain here | here := List.mem_append.1 here
  · exact outside part here
  · simp [List.mem_singleton.1 here]

end Cutting

def Vantage.ofName? (name : String) : Option Vantage :=
  [client, server].find? fun v => v.name == name

namespace Trace

def lineFeed : UInt8 := 10

/-- The lines of a file: what stands after each separator, up to the line feed at its end. -/
def lines? (content : Bytes) : Option (List Bytes) :=
  match content.splitOn separator with
  | [] :: parts =>
    parts.mapM fun part => if part.getLast? = some lineFeed then some part.dropLast else none
  | _ => none

def value? (line : Bytes) : Option Json := (Utf8.decode line).bind Json.parse

def entries? (content : Bytes) : Option (List Json) := (lines? content).bind (·.mapM value?)

def header? (entry : Json) : Option (Vantage × ConnectionId) := do
  let trace ← entry.get? "trace"
  let vantage ← Vantage.ofName? (← (← trace.get? "vantage_point").textAt? "type")
  let id ← ConnectionId.ofHex? (← (← trace.get? "common_fields").textAt? "group_id")
  return (vantage, id)

def code? (n : Nat) : Option UInt64 := if n < UInt64.size then some (.ofNat n) else none

def namedEvent? (name : String) (data : Json) : Option TraceEvent :=
  match name with
  | "connectivity:connection_started" => do
    return .connectionStarted (← Vantage.ofName? (← data.textAt? "vantage"))
  | "transport:datagram_sent" => (data.naturalAt? "length").map .datagramSent
  | "transport:datagram_received" => (data.naturalAt? "length").map .datagramReceived
  | "transport:stream_sent" => (data.naturalAt? "length").map .streamSent
  | "transport:stream_received" => (data.naturalAt? "length").map .streamReceived
  | "transport:stream_discarded" => do
    return .streamDiscarded (← data.naturalAt? "length") (← data.textAt? "error")
  | "connectivity:connection_closed" => do
    return .connectionClosed (← code? (← data.naturalAt? "code")) (← data.textAt? "reason")
  | _ => none

def event? (entry : Json) : Option TraceEvent := do
  namedEvent? (← entry.textAt? "name") (← entry.get? "data")

def decode (content : Bytes) : Option (Vantage × ConnectionId × List TraceEvent) := do
  match ← entries? content with
  | [] => none
  | header :: records => do
    let (vantage, id) ← header? header
    return (vantage, id, ← records.mapM event?)

theorem ofName?_name (vantage : Vantage) : Vantage.ofName? vantage.name = some vantage := by
  cases vantage <;> decide

theorem header?_header (vantage : Vantage) (id : ConnectionId) :
    header? (header vantage id) = some (vantage, id) := by
  simp [header?, header, Json.textAt?, Json.get?, Json.text?, List.lookup_cons, ofName?_name,
    ConnectionId.ofHex?_hex]

theorem code?_toNat (code : UInt64) : code? code.toNat = some code := by
  rw [code?, if_pos code.toNat_lt, UInt64.ofNat_toNat]

theorem namedEvent?_data (event : TraceEvent) :
    namedEvent? event.name event.data = some event := by
  cases event with
  | connectionStarted vantage =>
    simp only [namedEvent?, TraceEvent.name, TraceEvent.data]
    simp [Json.textAt?, Json.get?, Json.text?, ofName?_name]
  | datagramSent length | datagramReceived length | streamSent length | streamReceived length =>
    simp only [namedEvent?, TraceEvent.name, TraceEvent.data]
    simp [Json.naturalAt?, Json.get?, Json.natural, Json.natural?]
  | streamDiscarded length error =>
    simp only [namedEvent?, TraceEvent.name, TraceEvent.data]
    simp [Json.naturalAt?, Json.textAt?, Json.get?, Json.natural, Json.natural?, Json.text?,
      List.lookup_cons]
  | connectionClosed code reason =>
    simp only [namedEvent?, TraceEvent.name, TraceEvent.data]
    simp [Json.naturalAt?, Json.textAt?, Json.get?, Json.natural, Json.natural?, Json.text?,
      List.lookup_cons, code?_toNat]

theorem event?_record (time : Nat) (event : TraceEvent) :
    event? (record time event) = some event := by
  have name : (record time event).textAt? "name" = some event.name := by
    simp [record, Json.textAt?, Json.get?, Json.text?, List.lookup_cons]
  have data : (record time event).get? "data" = some event.data := by
    simp [record, Json.get?]
  rw [event?, name, data]
  exact namedEvent?_data event

theorem isReadable_header (vantage : Vantage) (id : ConnectionId) :
    (header vantage id).IsReadable := rfl

theorem isReadable_milliseconds (time : Nat) : (milliseconds time).IsReadable := by
  unfold milliseconds
  dsimp only
  split
  next m e _ =>
    rw [Json.IsReadable, Json.tokens, List.all_cons, (Binary64.isFraction_compact m e).isReadable]
    rfl
  next => rfl

theorem isReadable_record (time : Nat) (event : TraceEvent) :
    (record time event).IsReadable := by
  have time_ := isReadable_milliseconds time
  unfold Json.IsReadable at time_ ⊢
  cases event <;>
    simp [record, TraceEvent.data, Json.tokens, Json.memberTokens, Json.natural, time_,
      Json.Token.isReadable]

def line (entry : Json) : Bytes := Utf8.encode entry.render

theorem entryBytes_eq (entry : Json) :
    entryBytes entry = separator :: line entry ++ [lineFeed] := by
  have inside : (entry.pieces.map Utf8.encode).flatten = line entry := by
    rw [line, ← Json.flatten_pieces]
    exact Json.flatten_map_flatMap Utf8.encodeChar entry.pieces
  simp [entryBytes, pieces, inside, lineFeed]

theorem notMem_line {entry : Json} (readable : entry.IsReadable) {b : UInt8}
    (control : b.toNat < 32) : b ∉ line entry := by
  intro mem
  obtain high | ⟨c, here, same⟩ := Utf8.mem_encode mem
  · omega
  · have printable := List.all_eq_true.1 (Json.printable_render readable) c here
    simp only [Json.isPrintable, decide_eq_true_eq] at printable
    omega

theorem value?_line {entry : Json} (readable : entry.IsReadable) :
    value? (line entry) = some entry := by
  rw [value?, line, Utf8.decode_encode]
  exact Json.parse_render readable

structure Frames (content : Bytes) (lines : List Bytes) : Prop where
  clean : ∀ line ∈ lines, separator ∉ line ∧ lineFeed ∉ line
  atSeparators : content.splitOn separator = [] :: lines.map (· ++ [lineFeed])
  atLineFeeds : content.splitOn lineFeed = lines.map (separator :: ·) ++ [[]]

variable {entries : List Json}

theorem frames_flatMap (readable : ∀ entry ∈ entries, entry.IsReadable) :
    Frames (entries.flatMap entryBytes) (entries.map line) where
  clean := by
    intro text mem
    obtain ⟨entry, here, rfl⟩ := List.mem_map.1 mem
    exact ⟨notMem_line (readable entry here) (by decide),
      notMem_line (readable entry here) (by decide)⟩
  atSeparators := by
    have outside : ∀ part ∈ entries.map (fun entry => line entry ++ [lineFeed]),
        separator ∉ part := by
      intro part mem
      obtain ⟨entry, here, rfl⟩ := List.mem_map.1 mem
      simpa using ⟨notMem_line (readable entry here) (by decide), by decide⟩
    rw [funext entryBytes_eq]
    simpa [List.flatMap_map, Function.comp_def] using splitOn_introduced outside
  atLineFeeds := by
    have outside : ∀ part ∈ entries.map (fun entry => separator :: line entry),
        lineFeed ∉ part := by
      intro part mem
      obtain ⟨entry, here, rfl⟩ := List.mem_map.1 mem
      simpa using ⟨by decide, notMem_line (readable entry here) (by decide)⟩
    rw [funext entryBytes_eq]
    simpa [List.flatMap_map, Function.comp_def] using splitOn_terminated outside

theorem Frames.lines?_eq {content : Bytes} {lines : List Bytes} (h : Frames content lines) :
    lines? content = some lines := by
  rw [lines?, h.atSeparators]
  exact mapM_map_self lines (by simp)

theorem entries?_flatMap (readable : ∀ entry ∈ entries, entry.IsReadable) :
    entries? (entries.flatMap entryBytes) = some entries := by
  rw [entries?, (frames_flatMap readable).lines?_eq, Option.bind_some]
  exact mapM_map_self entries fun entry here => value?_line (readable entry here)

def entriesOf (vantage : Vantage) (id : ConnectionId) (records : List (Nat × TraceEvent)) :
    List Json :=
  header vantage id :: records.map fun r => record r.1 r.2

variable {vantage : Vantage} {id : ConnectionId} {records : List (Nat × TraceEvent)}

theorem text_eq (vantage : Vantage) (id : ConnectionId) (records : List (Nat × TraceEvent)) :
    text vantage id records = (entriesOf vantage id records).flatMap entryBytes := by
  simp [text, entriesOf, List.flatMap_map]

theorem isReadable_entriesOf : ∀ entry ∈ entriesOf vantage id records, entry.IsReadable := by
  intro entry mem
  obtain rfl | mem := List.mem_cons.1 mem
  · exact isReadable_header vantage id
  · obtain ⟨r, -, rfl⟩ := List.mem_map.1 mem
    exact isReadable_record r.1 r.2

theorem entries?_text :
    entries? (text vantage id records) = some (entriesOf vantage id records) := by
  rw [text_eq, entries?_flatMap isReadable_entriesOf]

theorem decode_text :
    decode (text vantage id records) = some (vantage, id, records.map Prod.snd) := by
  have events := mapM_map_some records fun r _ => event?_record r.1 r.2
  simp only [decode, entries?_text, entriesOf, Option.bind_eq_bind, Option.bind_some,
    header?_header, events]
  rfl

example : decode (text .client ⟨[1]⟩ [(1500000, .connectionClosed 7 "\x1e\n\"\\é")]) =
    some (.client, ⟨[1]⟩, [.connectionClosed 7 "\x1e\n\"\\é"]) := by
  decide +kernel

/-- A file tells this of a connection and nothing else. Of the records only the times are free. -/
structure Tells (content : Bytes) (vantage : Vantage) (id : ConnectionId)
    (events : List TraceEvent) : Prop where
  lines : ∃ (lines : List Bytes) (records : List (Nat × TraceEvent)),
    records.map Prod.snd = events ∧ lines.length = 1 + events.length ∧ Frames content lines ∧
      lines.mapM value? = some (entriesOf vantage id records)
  decoded : decode content = some (vantage, id, events)
  unique : ∀ vantage' id' records, content = text vantage' id' records →
    vantage' = vantage ∧ id' = id ∧ records.map Prod.snd = events

theorem tells_text (vantage : Vantage) (id : ConnectionId) (records : List (Nat × TraceEvent)) :
    Tells (text vantage id records) vantage id (records.map Prod.snd) where
  lines := by
    refine ⟨(entriesOf vantage id records).map line, records, rfl, ?_, ?_, ?_⟩
    · simp [entriesOf, Nat.add_comm]
    · rw [text_eq]
      exact frames_flatMap isReadable_entriesOf
    · exact mapM_map_self _ fun entry here => value?_line (isReadable_entriesOf entry here)
  decoded := decode_text
  unique := by
    intro vantage' id' records' same
    have both := congrArg decode same
    rw [decode_text, decode_text] at both
    simpa [eq_comm] using both

/-- A writer that has written the events of a connection, while nothing failed. In between anything
may become of other files. -/
inductive Written (dir : String) (vantage : Vantage) (id : ConnectionId) :
    List TraceEvent → Writer → FileSystem → Prop where
  | created {fs fs' : FileSystem} {now : Nat} {w : Writer}
    (fine : Writer.create fs dir vantage id now = .ok ([], w, fs')) :
    Written dir vantage id [] w fs'
  | recorded {events : List TraceEvent} {w w' : Writer} {fs fs' : FileSystem} {now : Nat}
    {event : TraceEvent} (before : Written dir vantage id events w fs)
    (fine : w.record fs now event = ([], w', fs')) :
    Written dir vantage id (events ++ [event]) w' fs'
  | elsewhere {events : List TraceEvent} {w : Writer} {fs fs' : FileSystem}
    (before : Written dir vantage id events w fs)
    (same : ∀ o, w.output = some o →
      fs'.contentAt o.handle.location = fs.contentAt o.handle.location) :
    Written dir vantage id events w fs'

variable {dir : String} {events : List TraceEvent} {w w' : Writer} {fs fs' : FileSystem}

theorem Writer.append_fine {o : Output} {before : Bytes} {entry : Json} (output : w.output = some o)
    (holds : o.Holds fs before) (fine : w.append fs entry = ([], w', fs')) :
    ∃ o', w'.output = some o' ∧ o'.Holds fs' (before ++ entryBytes entry) := by
  obtain ⟨o', fs₁, appended, takes⟩ | ⟨-, e, fs₁, appended, -⟩ :=
    Writer.append_holds output holds entry
  · obtain ⟨rfl, rfl⟩ := by simpa using fine.symm.trans appended
    exact ⟨o', rfl, .of_takes_ok takes⟩
  · simpa using fine.symm.trans appended

theorem Writer.create_fine {now : Nat} (fine : Writer.create fs dir vantage id now = .ok ([], w, fs')) :
    ∃ o, w.output = some o ∧ o.Holds fs' (text vantage id []) := by
  cases made : fs.create (Path.join dir (id.hex ++ ".qlog")) with
  | error e =>
    dsimp only [Writer.create] at fine
    rw [made] at fine
    cases fine
  | ok file =>
    obtain ⟨created, holds⟩ := Writer.create_eq made vantage now
    have appended := Except.ok.inj (created.symm.trans fine)
    obtain ⟨o, output, holds⟩ := Writer.append_fine rfl holds appended
    rw [List.nil_append, ← List.append_nil (entryBytes _)] at holds
    exact ⟨o, output, holds⟩

theorem Written.holds (h : Written dir vantage id events w fs) :
    ∃ records o, records.map Prod.snd = events ∧ w.output = some o ∧
      o.Holds fs (text vantage id records) := by
  induction h with
  | created fine =>
    obtain ⟨o, output, holds⟩ := Writer.create_fine fine
    exact ⟨[], o, rfl, output, holds⟩
  | @recorded events w w' fs fs' now event before fine ih =>
    obtain ⟨records, o, rfl, output, holds⟩ := ih
    obtain ⟨o', output', holds'⟩ := Writer.append_fine output holds fine
    refine ⟨records ++ [(now - w.created, event)], o', by simp, output', ?_⟩
    rwa [text_concat]
  | elsewhere before same ih =>
    obtain ⟨records, o, told, output, holds⟩ := ih
    have content := same o output
    exact ⟨records, o, told, output, ⟨by rw [content]; exact holds.atEnd,
      by rw [content]; exact holds.text_eq⟩⟩

theorem Written.holds_of_output {o : Output} (h : Written dir vantage id events w fs)
    (output : w.output = some o) :
    ∃ records, records.map Prod.snd = events ∧ o.Holds fs (text vantage id records) := by
  obtain ⟨records, o', told, same, holds⟩ := h.holds
  obtain rfl := Option.some.inj (output.symm.trans same)
  exact ⟨records, told, holds⟩

theorem Writer.append_of_hasSpace {o : Output} {before : Bytes} (output : w.output = some o)
    (holds : o.Holds fs before) (space : fs.HasSpace o.handle.location) (entry : Json) :
    ∃ o' fs', w.append fs entry = ([], { w with output := some o' }, fs') ∧
      fs'.HasSpace o'.handle.location := by
  obtain ⟨o', fs', appended, takes⟩ | ⟨full, -⟩ := Writer.append_holds output holds entry
  · refine ⟨o', fs', appended, ?_⟩
    rw [takes.place]
    exact (takes.space space).2
  · exact absurd space full

/-- So every sequence of events is written by some writer. -/
theorem exists_written {ready opened : FileSystem} {handle : Handle}
    (made : ready.create (Path.join dir (id.hex ++ ".qlog")) = .ok (handle, opened))
    (space : opened.HasSpace handle.location) (vantage : Vantage) (events : List TraceEvent) :
    ∃ w fs w' fs', Written dir vantage id events w fs ∧ w.close fs = ([], w', fs') := by
  have written : ∃ w o fs, Written dir vantage id events w fs ∧ w.output = some o ∧
      fs.HasSpace o.handle.location := by
    induction events using List.reverseRecOn with
    | nil =>
      obtain ⟨created, empty⟩ := Writer.create_eq made vantage 0
      obtain ⟨o, fs, appended, space⟩ :=
        Writer.append_of_hasSpace (w := .fresh dir id 0 handle) rfl empty space (header vantage id)
      rw [appended] at created
      exact ⟨_, o, fs, .created created, rfl, space⟩
    | append_singleton events event ih =>
      obtain ⟨w, o, fs, written, output, space⟩ := ih
      obtain ⟨records, -, holds⟩ := written.holds_of_output output
      obtain ⟨o', fs', appended, space⟩ :=
        Writer.append_of_hasSpace output holds space (record (0 - w.created) event)
      have fine : w.record fs 0 event = ([], { w with output := some o' }, fs') := appended
      exact ⟨_, o', fs', written.recorded fine, rfl, space⟩
  obtain ⟨w, o, fs, written, output, space⟩ := written
  obtain ⟨records, -, holds⟩ := written.holds_of_output output
  obtain ⟨fs', closed, -⟩ | ⟨full, -⟩ := Writer.close_holds output holds
  · exact ⟨w, fs, _, fs', written, closed⟩
  · exact absurd space full

theorem decodes_uniquely (written : Written dir vantage id events w fs)
    (closed : w.close fs = ([], w', fs')) :
    ∃ o, w.output = some o ∧ Tells (fs'.contentAt o.handle.location) vantage id events := by
  obtain ⟨records, o, rfl, output, holds⟩ := written.holds
  obtain ⟨fs₁, after, content, -⟩ | ⟨-, e, fs₁, after, -⟩ := Writer.close_holds output holds
  · obtain ⟨-, rfl⟩ := by simpa using closed.symm.trans after
    exact ⟨o, output, content ▸ tells_text vantage id records⟩
  · simpa using closed.symm.trans after

def hostileText : String := "say \"no\"\\\n\x1e\x00\x7f é 漢 😀"

def hostileEvents : List TraceEvent :=
  [.connectionStarted .server, .streamDiscarded 18446744073709551615 hostileText, .datagramSent 0,
    .connectionClosed 18446744073709551615 hostileText]

def hostileFile : Location := ["tmp", "ab.qlog"]

theorem create_hostileFile : (FileSystem.scratch ["tmp"]).create (Path.join "." "ab.qlog") =
    .ok (⟨hostileFile, 0⟩, (FileSystem.scratch ["tmp"]).put hostileFile (.file [] none)) := by
  have path : Path.join "." "ab.qlog" = "./ab.qlog" := by decide +kernel
  have names : Path.pieces "./ab.qlog" = [".", "ab.qlog"] := by decide +kernel
  have start : (FileSystem.scratch ["tmp"]).start "./ab.qlog" = ["tmp"] := by decide +kernel
  have above : (FileSystem.scratch ["tmp"]).node? ["tmp"] = some .directory := by decide +kernel
  have new : (FileSystem.scratch ["tmp"]).node? ["tmp", "ab.qlog"] = none := by decide +kernel
  have size : "ab.qlog".utf8ByteSize = 7 := by decide +kernel
  have isPath : FileSystem.checkPath "./ab.qlog" = .ok () :=
    FileSystem.checkPath_eq (by decide +kernel) (by decide +kernel) (by decide +kernel)
  have free : (FileSystem.scratch ["tmp"]).walk FileSystem.maxLinks ["tmp"] [".", "ab.qlog"] =
      .ok (.free hostileFile) := by
    simp [FileSystem.walk, above, new, size, FileSystem.maxName, hostileFile]
  have resolved : (FileSystem.scratch ["tmp"]).resolve "./ab.qlog" = .ok (.free hostileFile) := by
    rw [FileSystem.resolve, isPath, names, start, ← free]
    rfl
  rw [path, FileSystem.create, resolved]
  rfl

theorem decodes_uniquely_hostileText :
    ∃ w fs w' fs', Written "." .server ⟨[0xAB]⟩ hostileEvents w fs ∧ w.close fs = ([], w', fs') ∧
      ∃ o, w.output = some o ∧
        Tells (fs'.contentAt o.handle.location) .server ⟨[0xAB]⟩ hostileEvents := by
  have name : ConnectionId.hex ⟨[0xAB]⟩ ++ ".qlog" = "ab.qlog" := by decide +kernel
  have space : ((FileSystem.scratch ["tmp"]).put hostileFile (.file [] none)).HasSpace
      hostileFile := ⟨[], by decide +kernel⟩
  obtain ⟨w, fs, w', fs', written, closed⟩ :=
    exists_written (by rw [name]; exact create_hostileFile) space .server hostileEvents
  exact ⟨w, fs, w', fs', written, closed, decodes_uniquely written closed⟩

end Trace

end MessageTunnel
