import MessageTunnel.Trace.Writer
/-!
What the writer of a trace makes of its file. The file and the buffer together hold, at every
moment, the text that was given to the writer; each operation adds to this text, and none takes
anything back. If an operation fails, the file is full, and the text is cut off there.
-/
set_option autoImplicit false

namespace MessageTunnel

namespace FileSystem

variable {fs : FileSystem} {h : Handle} {l : Location} {bytes : Bytes}

def contentAt (fs : FileSystem) (l : Location) : Bytes :=
  match fs.node? l with
  | some (.file content _) => content
  | _ => []

theorem lookup_replace {α : Type} (n : α) (nodes : List (Location × α))
    (here : (nodes.lookup l).isSome = true) :
    (nodes.map fun e => if e.1 = l then (l, n) else e).lookup l = some n := by
  induction nodes with
  | nil => simp at here
  | cons e rest ih =>
    obtain ⟨l', n'⟩ := e
    by_cases same : l' = l
    · simp [same]
    · have other : (l == l') = false := by simpa using Ne.symm same
      simp only [List.lookup_cons, other] at here
      simpa [same, List.lookup_cons, other] using ih here

theorem lookup_append_new {α : Type} (n : α) (nodes : List (Location × α))
    (free : (nodes.lookup l).isSome = false) : (nodes ++ [(l, n)]).lookup l = some n := by
  induction nodes with
  | nil => simp
  | cons e rest ih =>
    obtain ⟨l', n'⟩ := e
    by_cases same : l' = l
    · simp [same] at free
    · have other : (l == l') = false := by simpa using Ne.symm same
      simp only [List.lookup_cons, other] at free
      simpa [List.lookup_cons, other] using ih free

theorem node?_put (fs : FileSystem) (l : Location) (n : Node) :
    (fs.put l n).node? l = if l = [] then some .directory else some n := by
  unfold node? put
  split
  · rfl
  · cases here : (fs.nodes.lookup l).isSome with
    | true => simp [lookup_replace n fs.nodes here]
    | false => simp [lookup_append_new n fs.nodes here]

theorem contentAt_put (fs : FileSystem) (l : Location) (content : Bytes) (room : Option Nat)
    (inside : l ≠ []) : (fs.put l (.file content room)).contentAt l = content := by
  simp [contentAt, node?_put, inside]

theorem overlay_end (content bytes : Bytes) :
    overlay content content.length bytes = content ++ bytes := by
  simp [overlay]

/-- The top of the tree is a directory, so a file has a name. -/
theorem inside_of_file {fs : FileSystem} {content : Bytes} {room : Option Nat}
    (node : fs.node? l = some (.file content room)) : l ≠ [] := by
  intro top
  simp [node?, top] at node

def HasSpace (fs : FileSystem) (l : Location) : Prop :=
  ∃ content, fs.node? l = some (.file content none)

theorem write_adds (bytes : Bytes) (atEnd : h.position = (fs.contentAt h.location).length) :
    ∃ taken, taken <+: bytes ∧
      (fs.write h bytes).2.1 = ⟨h.location, h.position + taken.length⟩ ∧
      (fs.write h bytes).2.2.contentAt h.location = fs.contentAt h.location ++ taken ∧
      ((fs.write h bytes).1 = .ok () → taken = bytes) := by
  cases node : fs.node? h.location with
  | none =>
    refine ⟨[], List.nil_prefix, by simp [write, node], by simp [write, node], ?_⟩
    cases bytes <;> simp [write, node]
  | some n =>
    cases n with
    | file content room =>
      have inside := inside_of_file node
      have here : fs.contentAt h.location = content := by simp [contentAt, node]
      rw [here] at atEnd
      have added (fitting : Bytes) (room' : Option Nat) :
          (fs.put h.location (.file (overlay content h.position fitting) room')).contentAt
            h.location = content ++ fitting := by
        rw [contentAt_put _ _ _ _ inside, atEnd, overlay_end]
      rw [here]
      cases room with
      | none => exact ⟨bytes, List.prefix_rfl, by simp [write, node], by simp [write, node, added],
          fun _ => rfl⟩
      | some free =>
        refine ⟨bytes.take free, List.take_prefix .., by simp [write, node],
          by simp [write, node, added], ?_⟩
        intro ok
        have fits : bytes.length ≤ min free bytes.length := by simpa [write, node] using ok
        exact List.take_of_length_le (by omega)
    | directory | link | hardLink | device =>
      refine ⟨[], List.nil_prefix, by simp [write, node], by simp [write, node], ?_⟩
      cases bytes <;> simp [write, node]

theorem write_of_hasSpace (fs : FileSystem) (h : Handle) (bytes : Bytes)
    (space : fs.HasSpace h.location) :
    (fs.write h bytes).1 = .ok () ∧ (fs.write h bytes).2.2.HasSpace h.location := by
  obtain ⟨content, node⟩ := space
  have inside := inside_of_file node
  refine ⟨by simp [write, node], overlay content h.position bytes, ?_⟩
  simp [write, node, node?_put, inside]

/-- How long the file at a location can become, if there is a limit. What is no file takes
nothing. -/
def capacityAt (fs : FileSystem) (l : Location) : Option Nat :=
  match fs.node? l with
  | some (.file content room) => room.map (content.length + ·)
  | _ => some 0

theorem capacityAt_put (fs : FileSystem) (l : Location) (content : Bytes) (room : Option Nat)
    (inside : l ≠ []) :
    (fs.put l (.file content room)).capacityAt l = room.map (content.length + ·) := by
  simp [capacityAt, node?_put, inside]

theorem length_le_capacity {n : Nat} (limit : fs.capacityAt l = some n) :
    (fs.contentAt l).length ≤ n := by
  unfold capacityAt at limit
  unfold contentAt
  split at limit
  · obtain ⟨free, -, rfl⟩ := Option.map_eq_some_iff.1 limit
    simp
  · simp

/-- The file at a location takes no more, and these bytes are more than what is in it. -/
def Exhausted (fs : FileSystem) (l : Location) (bytes : Bytes) : Prop :=
  fs.capacityAt l = some (fs.contentAt l).length ∧ (fs.contentAt l).length < bytes.length

theorem Exhausted.mono {bytes' : Bytes} (h : fs.Exhausted l bytes)
    (longer : bytes.length ≤ bytes'.length) : fs.Exhausted l bytes' :=
  ⟨h.1, Nat.lt_of_lt_of_le h.2 longer⟩

/-- What becomes of a text where writing it fails: the file has as much of it as it can take. -/
structure CutOff (fs : FileSystem) (l : Location) (text : Bytes) (fs' : FileSystem) : Prop where
  within : fs'.contentAt l <+: text
  capacity : fs'.capacityAt l = fs.capacityAt l
  full : fs'.Exhausted l text

theorem write_capacity (bytes : Bytes) (atEnd : h.position = (fs.contentAt h.location).length) :
    (fs.write h bytes).2.2.capacityAt h.location = fs.capacityAt h.location ∧
      ((fs.write h bytes).1 ≠ .ok () →
        (fs.write h bytes).2.2.Exhausted h.location (fs.contentAt h.location ++ bytes)) := by
  have unchanged (noFile : fs.capacityAt h.location = some 0)
      (empty : fs.contentAt h.location = []) (some_ : bytes ≠ []) :
      fs.Exhausted h.location (fs.contentAt h.location ++ bytes) := by
    refine ⟨by rw [noFile, empty]; rfl, ?_⟩
    simpa [empty] using List.length_pos_iff.2 some_
  cases node : fs.node? h.location with
  | none =>
    have same := unchanged (by simp [capacityAt, node]) (by simp [contentAt, node])
    simpa [write, node] using same
  | some n =>
    cases n with
    | file content room =>
      have inside := inside_of_file node
      have here : fs.contentAt h.location = content := by simp [contentAt, node]
      rw [here] at atEnd
      cases room with
      | none => simp [write, node, capacityAt, node?_put, inside]
      | some free =>
        have before : fs.capacityAt h.location = some (content.length + free) := by
          simp [capacityAt, node]
        simp only [write, node, atEnd, overlay_end, Exhausted, here, before,
          capacityAt_put _ _ _ _ inside, contentAt_put _ _ _ _ inside, Option.map_some,
          List.length_append, List.length_take, Option.some.injEq]
        refine ⟨by omega, fun failed => ?_⟩
        have short : min free bytes.length < bytes.length :=
          Nat.lt_of_not_ge fun all => failed (if_neg (Nat.not_lt.2 all))
        omega
    | directory | link | hardLink | device =>
      have same := unchanged (by simp [capacityAt, node]) (by simp [contentAt, node])
      simpa [write, node] using same

theorem checkPath_eq {path : String} (plain : path.toList.contains (Char.ofNat 0) = false)
    (named : path.isEmpty = false) (short : path.utf8ByteSize ≤ maxPath) :
    checkPath path = .ok () := by
  simp only [checkPath, plain, named, Nat.not_lt.2 short]
  rfl

theorem create_empty {path : String} {fs' : FileSystem} (opened : fs.create path = .ok (h, fs')) :
    h.position = 0 ∧ fs'.contentAt h.location = [] := by
  unfold create at opened
  cases target : fs.resolve path with
  | error e => simp [target, bind, Except.bind] at opened
  | ok t =>
    cases t with
    | free l =>
      simp only [target, bind, Except.bind, pure, Except.pure, Except.ok.injEq,
        Prod.mk.injEq] at opened
      obtain ⟨rfl, rfl⟩ := opened
      refine ⟨rfl, ?_⟩
      by_cases top : l = [] <;> simp [contentAt, node?_put, top]
    | node l =>
      simp only [target, bind, Except.bind, pure, Except.pure] at opened
      cases node : fs.node? l with
      | none =>
        simp only [node, Except.ok.injEq, Prod.mk.injEq] at opened
        obtain ⟨rfl, rfl⟩ := opened
        exact ⟨rfl, by simp [contentAt, node]⟩
      | some n =>
        cases n with
        | directory => simp [node] at opened
        | file content room =>
          simp only [node, Except.ok.injEq, Prod.mk.injEq] at opened
          obtain ⟨rfl, rfl⟩ := opened
          refine ⟨rfl, ?_⟩
          by_cases top : l = [] <;> simp [contentAt, node?_put, top]
        | link | hardLink | device =>
          simp only [node, Except.ok.injEq, Prod.mk.injEq] at opened
          obtain ⟨rfl, rfl⟩ := opened
          exact ⟨rfl, by simp [contentAt, node]⟩

end FileSystem

namespace Trace

def entryBytes (entry : Json) : Bytes := (pieces entry).flatten

/-- A trace as it stands in its file: the header, then the records, each with its time. -/
def text (vantage : Vantage) (id : ConnectionId) (records : List (Nat × TraceEvent)) : Bytes :=
  entryBytes (header vantage id) ++ records.flatMap fun r => entryBytes (record r.1 r.2)

theorem text_append (vantage : Vantage) (id : ConnectionId)
    (records more : List (Nat × TraceEvent)) :
    text vantage id (records ++ more) =
      text vantage id records ++ more.flatMap fun r => entryBytes (record r.1 r.2) := by
  simp [text]

theorem text_concat (vantage : Vantage) (id : ConnectionId) (records : List (Nat × TraceEvent))
    (time : Nat) (event : TraceEvent) :
    text vantage id (records ++ [(time, event)]) =
      text vantage id records ++ entryBytes (record time event) := by
  simp [text]

variable {o o' : Output} {fs fs' : FileSystem} {text piece : Bytes} {result : Except IoError Unit}

/-- The file and the buffer together hold this text, and the next write goes to the file's end. -/
structure Output.Holds (o : Output) (fs : FileSystem) (text : Bytes) : Prop where
  atEnd : o.handle.position = (fs.contentAt o.handle.location).length
  text_eq : fs.contentAt o.handle.location ++ o.buffer = text

/-- What becomes of a file and a buffer that held a text and are given some bytes: they take the
bytes up to some point, and all of them where nothing fails. -/
structure Output.Takes (o : Output) (fs : FileSystem) (text bytes : Bytes)
    (result : Except IoError Unit) (o' : Output) (fs' : FileSystem) : Prop where
  place : o'.handle.location = o.handle.location
  holds : ∃ taken, taken <+: bytes ∧ o'.Holds fs' (text ++ taken) ∧
    (result = .ok () → taken = bytes)
  space : fs.HasSpace o.handle.location → result = .ok () ∧ fs'.HasSpace o.handle.location
  capacity : fs'.capacityAt o.handle.location = fs.capacityAt o.handle.location
  full : result ≠ .ok () → fs'.Exhausted o.handle.location (text ++ bytes)

theorem Output.Holds.takes_nothing (h : o.Holds fs text) : o.Takes fs text [] (.ok ()) o fs where
  place := rfl
  holds := ⟨[], List.nil_prefix, by simpa using h, fun _ => rfl⟩
  space := fun here => ⟨rfl, here⟩
  capacity := rfl
  full := fun failed => (failed rfl).elim

theorem Output.Takes.trans {o₁ : Output} {fs₁ : FileSystem} {bytes more : Bytes}
    (first : o.Takes fs text bytes (.ok ()) o₁ fs₁)
    (then_ : o₁.Takes fs₁ (text ++ bytes) more result o' fs') :
    o.Takes fs text (bytes ++ more) result o' fs' where
  place := then_.place.trans first.place
  holds := by
    obtain ⟨taken, cut, holds, all⟩ := then_.holds
    refine ⟨bytes ++ taken, (List.prefix_append_right_inj _).2 cut, ?_, fun ok => by rw [all ok]⟩
    rwa [← List.append_assoc]
  space := fun here => by
    have there := (first.space here).2
    rw [← first.place] at there ⊢
    exact then_.space there
  capacity := by
    have last := then_.capacity
    rw [first.place] at last
    exact last.trans first.capacity
  full := fun failed => by
    rw [← first.place, ← List.append_assoc]
    exact then_.full failed

theorem Output.Takes.fail {bytes : Bytes} {e : IoError}
    (first : o.Takes fs text bytes (.error e) o' fs') (more : Bytes) :
    o.Takes fs text (bytes ++ more) (.error e) o' fs' where
  place := first.place
  holds := by
    obtain ⟨taken, cut, holds, -⟩ := first.holds
    exact ⟨taken, cut.trans (List.prefix_append ..), holds, by simp⟩
  space := fun here => by simpa using (first.space here).1
  capacity := first.capacity
  full := fun failed => (first.full failed).mono (by simp)

theorem Output.Holds.of_takes_ok {bytes : Bytes} (h : o.Takes fs text bytes (.ok ()) o' fs') :
    o'.Holds fs' (text ++ bytes) := by
  obtain ⟨taken, -, holds, all⟩ := h.holds
  rwa [← all rfl]

theorem Output.Holds.flush (h : o.Holds fs text) (flushed : o.flush fs = (result, o', fs')) :
    o.Takes fs text [] result o' fs' ∧ (result = .ok () → o'.buffer = []) := by
  obtain ⟨taken, ⟨left, rest⟩, handle, content, all⟩ := FileSystem.write_adds o.buffer h.atEnd
  have space := FileSystem.write_of_hasSpace fs o.handle o.buffer
  obtain ⟨capacity, full⟩ := FileSystem.write_capacity o.buffer h.atEnd
  rw [h.text_eq] at full
  unfold Output.flush at flushed
  simp only [handle, Prod.mk.injEq] at flushed
  obtain ⟨rfl, rfl, rfl⟩ := flushed
  refine ⟨⟨rfl, ⟨[], List.nil_prefix, ⟨?_, ?_⟩, fun _ => rfl⟩, space, capacity,
    by simpa using full⟩, fun ok => ?_⟩
  · simp [content, h.atEnd]
  · rw [content, ← h.text_eq, ← rest]
    simp
  · simp [all ok]

theorem Output.Holds.flush_content (h : o.Holds fs text)
    (flushed : o.flush fs = (.ok (), o', fs')) : fs'.contentAt o.handle.location = text := by
  obtain ⟨takes, empty⟩ := h.flush flushed
  have text_eq := (Output.Holds.of_takes_ok takes).text_eq
  simpa [empty rfl, takes.place] using text_eq

/-- Before a piece that would not fit the buffer is written out; then a piece as long as a buffer
finds it empty. -/
theorem Output.Holds.makeRoom (h : o.Holds fs text) (piece : Bytes) :
    ∃ flushed o₁ fs₁, (if bufferSize < o.buffer.length + piece.length then o.flush fs
        else (.ok (), o, fs)) = (flushed, o₁, fs₁) ∧ o.Takes fs text [] flushed o₁ fs₁ ∧
      (flushed = .ok () → bufferSize ≤ piece.length → o₁.buffer = []) := by
  split
  · cases flushed : o.flush fs with
    | mk first after =>
      obtain ⟨takes, empty⟩ := h.flush flushed
      exact ⟨first, after.1, after.2, rfl, takes, fun ok _ => empty ok⟩
  · rename_i fits
    refine ⟨.ok (), o, fs, rfl, h.takes_nothing, fun _ long => ?_⟩
    exact List.eq_nil_of_length_eq_zero (by omega)

theorem Output.Holds.push (h : o.Holds fs text) (pushed : o.push fs piece = (result, o', fs')) :
    o.Takes fs text piece result o' fs' := by
  obtain ⟨flushed, o₁, fs₁, hf, takes, empty⟩ := h.makeRoom piece
  unfold Output.push at pushed
  rw [hf] at pushed
  cases flushed with
  | error e =>
    obtain ⟨rfl, rfl, rfl⟩ := by simpa using pushed
    simpa using takes.fail piece
  | ok =>
    have h₁ : o₁.Holds fs₁ text := by simpa using Output.Holds.of_takes_ok takes
    have rest (then_ : o₁.Takes fs₁ text piece result o' fs') :
        o.Takes fs text piece result o' fs' := by
      simpa using takes.trans (by simpa using then_)
    refine rest ?_
    by_cases short : piece.length < bufferSize
    · simp only [short, if_true] at pushed
      obtain ⟨rfl, rfl, rfl⟩ := by simpa using pushed
      exact ⟨rfl, ⟨piece, List.prefix_rfl, ⟨h₁.atEnd, by simp [← h₁.text_eq]⟩, fun _ => rfl⟩,
        fun here => ⟨rfl, here⟩, rfl, fun failed => (failed rfl).elim⟩
    · simp only [short, if_false] at pushed
      obtain ⟨taken, cut, handle, content, all⟩ := FileSystem.write_adds piece h₁.atEnd
      have space := FileSystem.write_of_hasSpace fs₁ o₁.handle piece
      obtain ⟨capacity, full⟩ := FileSystem.write_capacity piece h₁.atEnd
      obtain ⟨rfl, rfl, rfl⟩ := by simpa using pushed
      have none := empty rfl (Nat.not_lt.1 short)
      have text_eq := h₁.text_eq
      rw [none, List.append_nil] at text_eq
      rw [text_eq] at full
      refine ⟨by simp [handle], ⟨taken, cut, ⟨?_, ?_⟩, all⟩, space, capacity, full⟩
      · simp [handle, content, h₁.atEnd]
      · simp [handle, content, none, text_eq]

theorem Output.Holds.pushAll {pieces : List Bytes} (h : o.Holds fs text)
    (pushed : o.pushAll fs pieces = (result, o', fs')) :
    o.Takes fs text pieces.flatten result o' fs' := by
  induction pieces generalizing o fs text with
  | nil =>
    obtain ⟨rfl, rfl, rfl⟩ := by simpa [Output.pushAll] using pushed
    exact h.takes_nothing
  | cons piece rest ih =>
    unfold Output.pushAll at pushed
    cases first : o.push fs piece with
    | mk result₁ after =>
      obtain ⟨o₁, fs₁⟩ := after
      have takes := h.push first
      rw [first] at pushed
      cases result₁ with
      | ok => exact takes.trans (ih (.of_takes_ok takes) pushed)
      | error e =>
        obtain ⟨rfl, rfl, rfl⟩ := by simpa using pushed
        exact takes.fail _

theorem Output.Takes.content_within {bytes : Bytes} (h : o.Takes fs text bytes result o' fs') :
    fs'.contentAt o.handle.location <+: text ++ bytes := by
  obtain ⟨taken, cut, holds, -⟩ := h.holds
  have whole : fs'.contentAt o'.handle.location <+: text ++ taken := ⟨o'.buffer, holds.text_eq⟩
  rw [← h.place]
  exact whole.trans ((List.prefix_append_right_inj _).2 cut)

theorem Output.Takes.cutOff {bytes : Bytes} (h : o.Takes fs text bytes result o' fs')
    (failed : result ≠ .ok ()) : fs.CutOff o.handle.location (text ++ bytes) fs' :=
  ⟨h.content_within, h.capacity, h.full failed⟩

theorem Output.Holds.drop_cutOff {before : FileSystem} {bytes : Bytes} (h : o.Holds fs text)
    (cutOff : before.CutOff o.handle.location bytes fs) :
    before.CutOff o.handle.location bytes (o.drop fs) := by
  obtain ⟨taken, -, -, content, -⟩ := FileSystem.write_adds o.buffer h.atEnd
  obtain ⟨capacity, -⟩ := FileSystem.write_capacity o.buffer h.atEnd
  have limit := FileSystem.length_le_capacity (capacity.trans cutOff.full.1)
  rw [content, List.length_append] at limit
  obtain rfl : taken = [] := List.eq_nil_of_length_eq_zero (by omega)
  have same : (o.drop fs).contentAt o.handle.location = fs.contentAt o.handle.location :=
    content.trans (List.append_nil _)
  exact {
    within := by rw [same]; exact cutOff.within
    capacity := capacity.trans cutOff.capacity
    full := ⟨by rw [same]; exact capacity.trans cutOff.full.1, by rw [same]; exact cutOff.full.2⟩ }

theorem Output.Takes.drop_cutOff {bytes : Bytes} (h : o.Takes fs text bytes result o' fs')
    (failed : result ≠ .ok ()) :
    fs.CutOff o.handle.location (text ++ bytes) (o'.drop fs') := by
  obtain ⟨taken, -, holds, -⟩ := h.holds
  have cutOff := h.cutOff failed
  rw [← h.place] at cutOff ⊢
  exact holds.drop_cutOff cutOff

variable {w : Writer}

def Writer.fresh (dir : String) (id : ConnectionId) (now : Nat) (handle : Handle) : Writer :=
  ⟨Path.join dir (id.hex ++ ".qlog"), id.hex ++ ".qlog", now, some ⟨handle, []⟩⟩

theorem Writer.create_eq {dir : String} {id : ConnectionId} {ready opened : FileSystem}
    {handle : Handle}
    (made : ready.create (Path.join dir (id.hex ++ ".qlog")) = .ok (handle, opened))
    (vantage : Vantage) (now : Nat) :
    Writer.create ready dir vantage id now =
        .ok ((Writer.fresh dir id now handle).append opened (header vantage id)) ∧
      Output.Holds ⟨handle, []⟩ opened [] := by
  obtain ⟨start, empty⟩ := FileSystem.create_empty made
  refine ⟨?_, by simp [start, empty], by simp [empty]⟩
  dsimp only [Writer.create, Writer.fresh]
  rw [made]

/-- An entry is taken as a whole, or the writer says that it failed and has no output any more. -/
theorem Writer.append_holds (output : w.output = some o) (h : o.Holds fs text) (entry : Json) :
    (∃ o' fs', w.append fs entry = ([], { w with output := some o' }, fs') ∧
      o.Takes fs text (entryBytes entry) (.ok ()) o' fs') ∨
    (¬ fs.HasSpace o.handle.location ∧ ∃ e fs',
      w.append fs entry = ([.traceWriteFailed w.path e], { w with output := none }, fs') ∧
      fs.CutOff o.handle.location (text ++ entryBytes entry) fs') := by
  unfold Writer.append
  rw [output]
  cases pushed : o.pushAll fs (pieces entry) with
  | mk result after =>
    obtain ⟨o', fs'⟩ := after
    have takes := h.pushAll pushed
    cases result with
    | ok => exact .inl ⟨o', fs', by simp [pushed], takes⟩
    | error e =>
      refine .inr ⟨fun space => ?_, e, o'.drop fs', by simp [pushed], takes.drop_cutOff (by simp)⟩
      simpa using (takes.space space).1

theorem Writer.close_holds (output : w.output = some o) (h : o.Holds fs text) :
    (∃ fs', w.close fs = ([], { w with output := none }, fs') ∧
      fs'.contentAt o.handle.location = text ∧
      fs'.capacityAt o.handle.location = fs.capacityAt o.handle.location ∧
      (fs.HasSpace o.handle.location → fs'.HasSpace o.handle.location)) ∨
    (¬ fs.HasSpace o.handle.location ∧ ∃ e fs',
      w.close fs = ([.traceFlushFailed w.path e], { w with output := none }, fs') ∧
      fs.CutOff o.handle.location text fs') := by
  unfold Writer.close
  rw [output]
  cases flushed : o.flush fs with
  | mk result after =>
    obtain ⟨o', fs'⟩ := after
    obtain ⟨takes, -⟩ := h.flush flushed
    cases result with
    | ok =>
      exact .inl ⟨fs', by simp [flushed], h.flush_content flushed, takes.capacity,
        fun space => (takes.space space).2⟩
    | error e =>
      refine .inr ⟨fun space => ?_, e, o'.drop fs', by simp [flushed], ?_⟩
      · simpa using (takes.space space).1
      · simpa using takes.drop_cutOff (by simp)

end Trace

end MessageTunnel
