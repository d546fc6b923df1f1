import MessageTunnel.Proofs.Foreign.Image
import MessageTunnel.Proofs.Foreign.Release
import MessageTunnel.Proofs.Settings.Loading
/-!
How the four start calls end. What can go wrong is looked at in order, first the strings, then the
file, then the runtime and at last the start itself, and each way to end has its own code. With a slot
the result is always written into it. Without one nobody can have a handle, so that a session that has
begun is let go of at once. A task of a runtime does not get that far if its call has built a runtime
for nothing: that one is dropped there, and the process ends.
-/
set_option autoImplicit false

namespace MessageTunnel.Foreign

open Session (Action)

variable {s : CString} {text : String} {files : FileSystem} {c : StartCall} {w : World} {code : Int}
  {slot : Slot Session}

def Spells (s : CString) (text : String) : Prop :=
  ∃ bytes, s = some bytes ∧ bytes.takeWhile (· ≠ 0) = Utf8.encode text.toList

def IsGarbled (s : CString) : Prop :=
  ∃ bytes, s = some bytes ∧ ∀ text, bytes.takeWhile (· ≠ 0) ≠ Utf8.encode text

inductive Reads (s : CString) : Except Status String → Prop where
  | text {text : String} (spells : Spells s text) : Reads s (.ok text)
  | missing (null : s = none) : Reads s (.error .invalidArgument)
  | garbled (garbled : IsGarbled s) : Reads s (.error .invalidArgument)

theorem reads (s : CString) : Reads s (readText s) := by
  cases s with
  | none => exact .missing rfl
  | some bytes =>
    cases decoded : Utf8.decode (bytes.takeWhile (· ≠ 0)) with
    | some text =>
      have spells : Spells (some bytes) (String.ofList text) :=
        ⟨bytes, rfl, by rw [String.toList_ofList, Utf8.decode_eq_some_iff.1 decoded]⟩
      simp only [readText, decoded]
      exact .text spells
    | none =>
      have garbled : IsGarbled (some bytes) := by
        refine ⟨bytes, rfl, fun text same => ?_⟩
        rw [same, Utf8.decode_encode] at decoded
        simp at decoded
      simp only [readText, decoded]
      exact .garbled garbled

theorem Spells.not_garbled (spells : Spells s text) : ¬ IsGarbled s := by
  obtain ⟨bytes, rfl, same⟩ := spells
  rintro ⟨_, ⟨⟩, garbled⟩
  exact garbled _ same

theorem Spells.unique {text' : String} (spells : Spells s text) (spells' : Spells s text') :
    text = text' := by
  obtain ⟨bytes, rfl, same⟩ := spells
  obtain ⟨_, ⟨⟩, same'⟩ := spells'
  have decoded := congrArg Utf8.decode (same.symm.trans same')
  rw [Utf8.decode_encode, Utf8.decode_encode] at decoded
  exact String.toList_injective (Option.some.inj decoded)

theorem Spells.ne_none (spells : Spells s text) : s ≠ none := by
  obtain ⟨bytes, rfl, -⟩ := spells
  simp

inductive NamesDir (s : CString) (default : String) : String → Prop where
  | given {dir : String} (spells : Spells s dir) : NamesDir s default dir
  | missing (null : s = none) : NamesDir s default default

theorem NamesDir.not_garbled {default dir : String} (names : NamesDir s default dir) :
    ¬ IsGarbled s := by
  cases names with
  | given spells => exact spells.not_garbled
  | missing null =>
    rintro ⟨bytes, here, -⟩
    simp [null] at here

theorem NamesDir.unique {default dir dir' : String} (names : NamesDir s default dir)
    (names' : NamesDir s default dir') : dir = dir' := by
  cases names with
  | given spells =>
    cases names' with
    | given spells' => exact spells.unique spells'
    | missing null => exact absurd null spells.ne_none
  | missing null =>
    cases names' with
    | given spells' => exact absurd null spells'.ne_none
    | missing => rfl

inductive ReadsDir (s : CString) (default : String) : Except Status String → Prop where
  | dir {dir : String} (names : NamesDir s default dir) : ReadsDir s default (.ok dir)
  | garbled (garbled : IsGarbled s) : ReadsDir s default (.error .invalidArgument)

theorem readsDir (s : CString) (default : String) : ReadsDir s default (readTraceDir s default) := by
  cases s with
  | none => exact .dir (.missing rfl)
  | some bytes =>
    show ReadsDir _ _ (readText (some bytes))
    have reads := reads (some bytes)
    generalize readText (some bytes) = result at reads
    cases reads with
    | text spells => exact .dir (.given spells)
    | missing null => simp at null
    | garbled garbled => exact .garbled garbled

namespace StartCall

def required : StartCall → CString
  | client address _ _ | server address _ _ => address
  | clientOfFile path | serverOfFile path => path

def strings : StartCall → List CString
  | client address _ traceDir | server address _ traceDir => [address, traceDir]
  | clientOfFile path | serverOfFile path => [path]

/-- The string that has to be there is missing, or one that is there is no UTF-8. -/
def HasBadString (c : StartCall) : Prop := c.required = none ∨ ∃ s ∈ c.strings, IsGarbled s

def HasBadFile (files : FileSystem) : StartCall → Prop
  | client .. | server .. => False
  | clientOfFile path => ∃ text, Spells path text ∧
      Settings.BadFile ClientSettings.ofEntries ClientSettings.shared files text
  | serverOfFile path => ∃ text, Spells path text ∧
      Settings.BadFile ServerSettings.ofEntries ServerSettings.shared files text

/-- What a call whose strings and whose file are in order has to start. -/
inductive Plans (files : FileSystem) : StartCall → Plan → Prop where
  | client {address traceDir : CString} {datagrams : Bool} {remote dir : String}
      (text : Spells address remote) (names : NamesDir traceDir Settings.clientTraceDir dir) :
      Plans files (.client address datagrams traceDir)
        (.client { remote := remote, shared := { datagrams := datagrams, traceDir := some dir } })
  | server {address traceDir : CString} {datagrams : Bool} {bind dir : String}
      (text : Spells address bind) (names : NamesDir traceDir Settings.serverTraceDir dir) :
      Plans files (.server address datagrams traceDir)
        (.server { bind := bind, shared := { datagrams := datagrams, traceDir := some dir } })
  | clientOfFile {path : CString} {name : String} {c : ClientSettings} (text : Spells path name)
      (good : Settings.GoodFile ClientSettings.ofEntries ClientSettings.shared files name c) :
      Plans files (.clientOfFile path) (.client c)
  | serverOfFile {path : CString} {name : String} {c : ServerSettings} (text : Spells path name)
      (good : Settings.GoodFile ServerSettings.ofEntries ServerSettings.shared files name c) :
      Plans files (.serverOfFile path) (.server c)

theorem Plans.unique {p p' : Plan} (plans : c.Plans files p) (plans' : c.Plans files p') :
    p = p' := by
  cases plans with
  | client text names | server text names =>
    cases plans' with
    | _ text' names' =>
      obtain rfl := text.unique text'
      obtain rfl := names.unique names'
      rfl
  | clientOfFile text good | serverOfFile text good =>
    cases plans' with
    | _ text' good' =>
      obtain rfl := text.unique text'
      obtain rfl := good.unique good'
      rfl

inductive Planned (files : FileSystem) (c : StartCall) : Except Status Plan → Prop where
  | badString (bad : c.HasBadString) : Planned files c (.error .invalidArgument)
  | badFile (strings : ¬ c.HasBadString) (bad : c.HasBadFile files) :
      Planned files c (.error .configInvalid)
  | plans {p : Plan} (strings : ¬ c.HasBadString) (file : ¬ c.HasBadFile files)
      (plans : c.Plans files p) : Planned files c (.ok p)

theorem planned_of_strings {σ : Type} {address traceDir : CString} {default : String}
    {make : String → String → σ} {toPlan : σ → Plan} (required : c.required = address)
    (strings : c.strings = [address, traceDir]) (file : ¬ c.HasBadFile files)
    (plans : ∀ text dir, Spells address text → NamesDir traceDir default dir →
      c.Plans files (toPlan (make text dir))) :
    Planned files c (toPlan <$> do
      return make (← readText address) (← readTraceDir traceDir default)) := by
  have read := reads address
  have readDir := readsDir traceDir default
  generalize readText address = result, readTraceDir traceDir default = resultDir at read readDir
  cases read with
  | missing null => exact .badString (.inl (required.trans null))
  | garbled garbled => exact .badString (.inr ⟨address, by simp [strings], garbled⟩)
  | text spells =>
    cases readDir with
    | garbled garbled => exact .badString (.inr ⟨traceDir, by simp [strings], garbled⟩)
    | dir names =>
      refine .plans ?_ file (plans _ _ spells names)
      rintro (null | ⟨s, mem, garbled⟩)
      · exact spells.ne_none (required.symm.trans null)
      · obtain rfl | rfl : s = address ∨ s = traceDir := by simpa [strings] using mem
        · exact spells.not_garbled garbled
        · exact names.not_garbled garbled

theorem planned_of_file {σ : Type} {ofEntries : Toml.Entries → Except Settings.Mismatch σ}
    {shared : σ → Settings} {path : CString} {toPlan : σ → Plan} (required : c.required = path)
    (strings : c.strings = [path])
    (file : c.HasBadFile files ↔
      ∃ text, Spells path text ∧ Settings.BadFile ofEntries shared files text)
    (plans : ∀ text given, Spells path text →
      Settings.GoodFile ofEntries shared files text given → c.Plans files (toPlan given)) :
    Planned files c (toPlan <$> do
      (Settings.readFile files (← readText path) >>= Settings.load ofEntries shared).mapError
        fun _ => .configInvalid) := by
  have read := reads path
  generalize readText path = result at read
  cases read with
  | missing null => exact .badString (.inl (required.trans null))
  | garbled garbled => exact .badString (.inr ⟨path, by simp [strings], garbled⟩)
  | @text name spells =>
    have fine : ¬ c.HasBadString := by
      rintro (null | ⟨s, mem, garbled⟩)
      · exact spells.ne_none (required.symm.trans null)
      · obtain rfl : s = path := by simpa [strings] using mem
        exact spells.not_garbled garbled
    have loaded := Settings.fromFile ofEntries shared files name
    show Planned files c (toPlan <$> (Settings.readFile files name >>=
      Settings.load ofEntries shared).mapError fun _ => .configInvalid)
    generalize Settings.readFile files name >>= Settings.load ofEntries shared = result at loaded
    cases loaded with
    | bad bad => exact .badFile fine (file.2 ⟨name, spells, bad⟩)
    | good good =>
      refine .plans fine (fun bad => ?_) (plans name _ spells good)
      obtain ⟨name', spells', bad⟩ := file.1 bad
      obtain rfl := spells.unique spells'
      exact good.not_badFile bad

theorem planned (files : FileSystem) (c : StartCall) : Planned files c (c.plan files) := by
  cases c with
  | client address datagrams traceDir =>
    exact planned_of_strings rfl rfl id fun _ _ => .client
  | server address datagrams traceDir =>
    exact planned_of_strings rfl rfl id fun _ _ => .server
  | clientOfFile path => exact planned_of_file rfl rfl Iff.rfl fun _ _ => .clientOfFile
  | serverOfFile path => exact planned_of_file rfl rfl Iff.rfl fun _ _ => .serverOfFile

end StartCall

/-- How a start ends that has its settings: the code, and what is in the slot. -/
inductive Ends (w : World) (started : Except Quic.StartError Session) : Int → Slot Session → Prop where
  | unavailable (cannot : w.hasRuntime = false ∨ w.thread.mayWait = false) :
      Ends w started (-7) .null
  | failed {e : Quic.StartError} (runs : w.hasRuntime = true) (waits : w.thread.mayWait = true)
      (fails : started = .error e) : Ends w started (-2) .null
  | begun {first : Session} (runs : w.hasRuntime = true) (waits : w.thread.mayWait = true)
      (begins : started = .ok first) : Ends w started 0 (.handle first)

theorem ends (w : World) (started : Except Quic.StartError Session) :
    Ends w started (publish true (w.await started)).status.code
      (publish true (w.await started)).slot := by
  by_cases able : w.hasRuntime = true ∧ w.thread.mayWait = true
  · obtain ⟨runs, waits⟩ := able
    have awaited : w.await started = started.mapError fun _ => .startFailed := by
      simp [World.await, runs, waits]
    rw [awaited]
    cases started with
    | error e => exact .failed runs waits rfl
    | ok first => exact .begun runs waits rfl
  · have awaited : w.await started = .error .runtimeUnavailable := by
      rw [World.await, if_neg (by rwa [Bool.and_eq_true])]
    rw [awaited]
    refine .unavailable ?_
    rw [not_and_or, Bool.not_eq_true, Bool.not_eq_true] at able
    exact able

theorem Ends.code_ne {started : Except Quic.StartError Session} (h : Ends w started code slot) :
    code ≠ -1 ∧ code ≠ -8 := by
  cases h <;> decide

def Started.begun? {η : Type} (s : Started η) : Option η :=
  match s.slot with
  | .handle h => some h
  | _ => s.released

theorem released_publish {η : Type} (result : Except Status η) :
    (publish true result).released = none := by
  cases result <;> rfl

theorem publish_noSlot {η : Type} (result : Except Status η) :
    publish false result = ⟨.invalidArgument, .untouched, (publish true result).begun?⟩ := by
  cases result <;> rfl

def Started.heard (s : Started Session) (callbacks : Callbacks) (actions : List Action) :
    List Notice :=
  match s.begun? with
  | some first => callbacks.heard (first.run actions).history
  | none => []

theorem exists_establish {p : Plan} {first : Session} (begun : w.begin p = .ok first) :
    ∃ settings vantage connection, first = w.establish settings vantage connection := by
  cases p with
  | client c | server c =>
    simp only [World.begin, bind, Except.bind] at begun
    split at begun
    · simp at begun
    split at begun
    · simp at begun
    · exact ⟨_, _, _, (Except.ok.inj begun).symm⟩

theorem stops_establish (w : World) (settings : Settings) (vantage : Vantage)
    (connection : Connection) (thread : Thread) :
    Release.Stops (w.establish settings vantage connection) thread :=
  Release.stops _ _ _ _ _ thread (Session.isHonest_spawn _ _ _ _ _)

namespace StartCall

inductive Performs (w : World) (c : StartCall) : Int → Slot Session → Prop where
  | badString (bad : c.HasBadString) : Performs w c (-1) .null
  | badFile (strings : ¬ c.HasBadString) (bad : c.HasBadFile w.quic.files) : Performs w c (-8) .null
  | ends {p : Plan} {code : Int} {slot : Slot Session} (strings : ¬ c.HasBadString)
      (file : ¬ c.HasBadFile w.quic.files) (plans : c.Plans w.quic.files p)
      (ends : Ends w (w.begin p) code slot) : Performs w c code slot

theorem performs (w : World) (c : StartCall) :
    Performs w c (c.result w true).status.code (c.result w true).slot := by
  have planned := c.planned w.quic.files
  rw [result, start]
  generalize c.plan w.quic.files = planned' at planned
  cases planned with
  | badString bad => exact .badString bad
  | badFile strings bad => exact .badFile strings bad
  | @plans p strings file plans => exact .ends strings file plans (Foreign.ends w (w.begin p))

theorem Performs.slot_cases (h : Performs w c code slot) : (slot = .null ∧ code ≠ 0) ∨
    ∃ first p, slot = .handle first ∧ code = 0 ∧ w.begin p = .ok first := by
  cases h with
  | badString | badFile => exact .inl ⟨rfl, by decide⟩
  | ends _ _ _ ends =>
    cases ends with
    | unavailable | failed => exact .inl ⟨rfl, by decide⟩
    | begun _ _ begins => exact .inr ⟨_, _, rfl, rfl, begins⟩

theorem Performs.handle_iff (h : Performs w c code slot) :
    (∃ first, slot = .handle first) ↔ code = 0 := by
  obtain ⟨rfl, failed⟩ | ⟨first, -, rfl, rfl, -⟩ := h.slot_cases
  · exact iff_of_false (by simp) failed
  · exact iff_of_true ⟨first, rfl⟩ rfl

theorem Performs.null_iff (h : Performs w c code slot) : slot = .null ↔ code ≠ 0 := by
  obtain ⟨rfl, failed⟩ | ⟨first, -, rfl, rfl, -⟩ := h.slot_cases
  · exact iff_of_true rfl failed
  · exact iff_of_false (by simp) (by simp)

theorem Performs.badString_iff (h : Performs w c code slot) : code = -1 ↔ c.HasBadString := by
  cases h with
  | badString bad => exact iff_of_true rfl bad
  | badFile strings => exact iff_of_false (by decide) strings
  | ends strings _ _ ends => exact iff_of_false ends.code_ne.1 strings

theorem Performs.badFile_iff (h : Performs w c code slot) :
    code = -8 ↔ ¬ c.HasBadString ∧ c.HasBadFile w.quic.files := by
  cases h with
  | badString bad => exact iff_of_false (by decide) fun fine => fine.1 bad
  | badFile strings bad => exact iff_of_true rfl ⟨strings, bad⟩
  | ends _ file _ ends => exact iff_of_false ends.code_ne.2 fun bad => file bad.2

/-- A task calls, a runtime is built for it, and nothing is started on that. -/
structure DropsInside (w : World) (c : StartCall) : Prop where
  strings : ¬ c.HasBadString
  file : ¬ c.HasBadFile w.quic.files
  runs : w.hasRuntime = true
  inside : w.thread.mayDrop = false
  fails : w.thread.mayWait = true → ∃ p e, c.Plans w.quic.files p ∧ w.begin p = .error e

theorem isOk_await (w : World) (started : Except Quic.StartError Session) :
    (w.await started).isOk = (w.hasRuntime && w.thread.mayWait && started.isOk) := by
  unfold World.await
  cases w.hasRuntime && w.thread.mayWait
  · rfl
  · cases started <;> rfl

theorem panics_iff (w : World) (c : StartCall) : c.panics w = true ↔ c.DropsInside w := by
  have planned := c.planned w.quic.files
  unfold panics
  generalize c.plan w.quic.files = planned' at planned
  cases planned with
  | badString bad => exact iff_of_false (by simp) fun drops => drops.strings bad
  | badFile _ bad => exact iff_of_false (by simp) fun drops => drops.file bad
  | @plans p strings file plans =>
    simp only [isOk_await, Bool.and_eq_true, Bool.not_eq_true']
    constructor
    · rintro ⟨⟨runs, inside⟩, failed⟩
      refine ⟨strings, file, runs, inside, fun waits => ⟨p, ?_⟩⟩
      cases begun : w.begin p with
      | error e => exact ⟨e, plans, rfl⟩
      | ok first => simp [runs, waits, begun, Except.isOk, Except.toBool] at failed
    · intro drops
      refine ⟨⟨drops.runs, drops.inside⟩, ?_⟩
      cases waits : w.thread.mayWait with
      | false => simp
      | true =>
        obtain ⟨p', e, plans', begun⟩ := drops.fails waits
        obtain rfl := plans.unique plans'
        simp [begun, Except.isOk, Except.toBool]

/-- How a start call keeps to what is said of its slot, when it returns with these results. -/
structure FillsSlot (w : World) (c : StartCall) (given ungiven : Started Session) : Prop where
  written : given.slot ≠ .untouched
  handle : (∃ first, given.slot = .handle first) ↔ given.status.code = 0
  null : given.slot = .null ↔ given.status.code ≠ 0
  kept : given.released = none
  badString : given.status.code = -1 ↔ c.HasBadString
  badFile : given.status.code = -8 ↔ ¬ c.HasBadString ∧ c.HasBadFile w.quic.files
  /-- Any other call starts what it has to start, and ends as that does. -/
  otherwise : ¬ c.HasBadString → ¬ c.HasBadFile w.quic.files → ∃ p, c.Plans w.quic.files p ∧
    Ends w (w.begin p) given.status.code given.slot
  silent : given.status.code = -1 ∨ given.status.code = -8 →
    ∀ callbacks actions, given.heard callbacks actions = []
  noSlot : ungiven.status.code = -1 ∧ ungiven.slot = .untouched
  /-- Without a slot, what would be in it is let go of, and it stops. -/
  released : ungiven.released = given.begun?
  stops : ∀ first, ungiven.begun? = some first → Release.Stops first w.thread

theorem fillsSlot_result (w : World) (c : StartCall) :
    FillsSlot w c (c.result w true) (c.result w false) := by
  have performs := c.performs w
  have kept : (c.result w true).released = none := released_publish _
  have noSlot : c.result w false = ⟨.invalidArgument, .untouched, (c.result w true).begun?⟩ :=
    publish_noSlot _
  exact {
    written := by
      obtain ⟨null, -⟩ | ⟨first, -, there, -⟩ := performs.slot_cases
      · simp [null]
      · simp [there]
    handle := performs.handle_iff
    null := performs.null_iff
    kept := kept
    badString := performs.badString_iff
    badFile := performs.badFile_iff
    otherwise := by
      intro strings file
      generalize (c.result w true).status.code = code, (c.result w true).slot = slot at performs
      cases performs with
      | badString bad => exact absurd bad strings
      | badFile _ bad => exact absurd bad file
      | ends _ _ plans ends => exact ⟨_, plans, ends⟩
    silent := by
      intro failed callbacks actions
      have null : (c.result w true).slot = .null := performs.null_iff.2 (by omega)
      simp only [Started.heard, Started.begun?, null, kept]
    noSlot := by rw [noSlot]; exact ⟨rfl, rfl⟩
    released := by rw [noSlot]
    stops := by
      intro first begun
      rw [noSlot] at begun
      obtain ⟨null, -⟩ | ⟨first', p, there, -, begins⟩ := performs.slot_cases
      · simp [Started.begun?, null, kept] at begun
      · obtain rfl : first' = first := by simpa [Started.begun?, there] using begun
        obtain ⟨settings, vantage, connection, rfl⟩ := exists_establish begins
        exact stops_establish w settings vantage connection w.thread }

theorem aborts_iff (w : World) (hasSlot : Bool) (c : StartCall) :
    c.perform w hasSlot = .aborted ↔ c.DropsInside w := by
  rw [← panics_iff, perform]
  split <;> simp_all

def KeepsToSlot (w : World) (c : StartCall) : Prop :=
  ∃ given ungiven, c.perform w true = .returned given ∧ c.perform w false = .returned ungiven ∧
    FillsSlot w c given ungiven

/-- Whatever it is given and whatever it finds around it, a start call keeps to what is said of its
slot, unless a task drops a runtime with it. -/
theorem fills_slot (w : World) (c : StartCall) (keeps : ¬ c.DropsInside w) : c.KeepsToSlot w := by
  have calm : ¬ c.panics w = true := fun panics => keeps ((c.panics_iff w).1 panics)
  exact ⟨_, _, if_neg calm, if_neg calm, c.fillsSlot_result w⟩

def deserted (thread : Thread) : World where
  quic := ⟨.scratch ["tmp"], fun _ => .error "", fun _ => none, fun _ => false⟩
  thread := thread
  hasRuntime := true
  connect := fun _ => .error ⟨.connect, "timed out"⟩
  accept := fun _ => .error ⟨.accept, "timed out"⟩
  clock := 0

def toNobody : StartCall := client (some "[::1]:4433".toUTF8.toList) true none

theorem fills_slot_guest : ¬ toNobody.DropsInside (deserted (.guest .single)) ∧
    toNobody.KeepsToSlot (deserted (.guest .single)) := by
  have keeps : ¬ toNobody.DropsInside (deserted (.guest .single)) := by
    rintro ⟨-, -, -, inside, -⟩
    cases inside
  exact ⟨keeps, fills_slot _ toNobody keeps⟩

/-- A task of a runtime with one thread is not told that it must not wait, and one of a runtime with
several is not told that the start has failed. -/
theorem unfilled_inside : ¬ toNobody.KeepsToSlot (deserted (.inside .single)) ∧
    ¬ toNobody.KeepsToSlot (deserted (.inside .multi)) := by
  have aborts {w : World} (panics : toNobody.panics w = true) : ¬ toNobody.KeepsToSlot w := by
    rintro ⟨given, -, returned, -⟩
    simp [perform, panics] at returned
  exact ⟨aborts (by decide +kernel), aborts (by decide +kernel)⟩

example (w : World) (datagrams : Bool) :
    (client none datagrams none).perform w true = .returned ⟨.invalidArgument, .null, none⟩ := rfl

end StartCall

end MessageTunnel.Foreign
