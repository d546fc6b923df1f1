import MessageTunnel.Proofs.Trace.Course
/-!
The registry is a finite map from connections to their writers. A reference either finds the writer, or
adds exactly one and announces its file, or fails and leaves the map and all writers as they were. What
is done for one connection does not reach the writer of another; it does not reach its file either,
unless there was a link of the name of one of the two files.
-/
set_option autoImplicit false

namespace MessageTunnel.Trace.Registry

variable {id id' : ConnectionId} {dir : String} {now later number : Nat} {r : Registry}

theorem Course.after_step_dir (h : Course) (more : List Command) :
    (h.after more).registry.dir = h.registry.dir := by
  induction more generalizing h with
  | nil => rfl
  | cons c more ih => exact (ih (h.step c)).trans (dir_perform h.registry c)

theorem found_of_writerFor (given : (r.writerFor id now).1 = .ok (some number)) :
    (r.writerFor id now).2.2.dir.isSome = true ∧
      (r.writerFor id now).2.2.live.lookup id = some number := by
  have refers := r.refers id now
  generalize r.writerFor id now = outcome, r.opening? (.writerFor id now) = opening
    at refers given
  cases refers with
  | disabled => simp at given
  | found on live =>
    obtain rfl := Option.some.inj (Except.ok.inj given)
    exact ⟨by simp [on], live⟩
  | blocked => simp at given
  | opened on =>
    obtain rfl := Option.some.inj (Except.ok.inj given)
    exact ⟨by simp [on], by simp⟩

theorem writerFor_of_found (on : r.dir.isSome = true) (live : r.live.lookup id = some number) :
    r.writerFor id now = (.ok (some number), [], r) := by
  obtain ⟨dir, on⟩ := Option.isSome_iff_exists.1 on
  simp [writerFor, on, live]

theorem lookup_after {h : Course} (live : h.registry.live.lookup id = some number)
    {more : List Command} (held : .release id ∉ more) :
    (h.after more).registry.live.lookup id = some number := by
  induction more generalizing h with
  | nil => exact live
  | cons c more ih =>
    obtain ⟨here, held⟩ := not_or.1 (mt List.mem_cons.2 held)
    refine ih ?_ held
    obtain same | released | ⟨-, absent⟩ := lookup_perform h.registry c id
    · exact same.trans live
    · exact absurd released.symm here
    · simp [absent] at live

/-- The outcome of a reference that adds a writer: the connection gets a number of its own, and the
name of its file is announced. -/
def Adds (r : Registry) (dir : String) (id : ConnectionId)
    (outcome : Except RegistryError (Option Nat) × List Notice × Registry) : Prop :=
  ∃ (w : Writer) (files : FileSystem) (entries : List Log.Entry),
    w.fileName = traceName id ∧ w.path = Path.join dir (traceName id) ∧
      outcome = (.ok (some r.writers.length),
        entries.map .logged ++ [.logged (.traceCreated w.path), .announced (traceName id)],
        { r with
          files := files, writers := r.writers ++ [w], live := (id, r.writers.length) :: r.live })

/-- The outcome of a reference that fails: it can have made directories, and that is all. -/
def Refuses (r : Registry) (dir : String) (id : ConnectionId)
    (outcome : Except RegistryError (Option Nat) × List Notice × Registry) : Prop :=
  ∃ (e : RegistryError) (files : FileSystem),
    ((∃ cause, e = .createDirectory dir cause) ∨
      ∃ cause, e = .createFile (Path.join dir (traceName id)) cause) ∧
    r.files.MakesRoom files ∧ outcome = (.error e, [], { r with files := files })

/-- A connection without a writer gets one if and only if its file can be opened. -/
theorem adds_or_refuses (r : Registry) (now : Nat) (on : r.dir = some dir)
    (absent : r.live.lookup id = none) :
    (CanOpen r.files dir id → r.Adds dir id (r.writerFor id now)) ∧
      (¬ CanOpen r.files dir id → r.Refuses dir id (r.writerFor id now)) := by
  have refers := r.refers id now
  generalize r.writerFor id now = outcome, r.opening? (.writerFor id now) = opening at refers
  cases refers with
  | disabled off => simp [off] at on
  | found _ live => simp [live] at absent
  | blocked on' _ obstacle kind room =>
    obtain rfl : dir = _ := Option.some.inj (on.symm.trans on')
    exact ⟨fun able => absurd able obstacle, fun _ => ⟨_, _, kind, room, rfl⟩⟩
  | opened on' opens turns =>
    obtain rfl : dir = _ := Option.some.inj (on.symm.trans on')
    refine ⟨fun _ => ⟨_, _, _, turns.fileName_eq, turns.path_eq, rfl⟩, fun obstacle => ?_⟩
    exact absurd (opens.canOpen on) obstacle

theorem given_of_canOpen (on : r.dir = some dir) (able : CanOpen r.files dir id) :
    ∃ number, (r.writerFor id now).1 = .ok (some number) := by
  cases live : r.live.lookup id with
  | some number =>
    rw [writerFor_of_found (by simp [on]) live]
    exact ⟨number, rfl⟩
  | none =>
    obtain ⟨w, files, entries, -, -, same⟩ := (adds_or_refuses r now on live).1 able
    rw [same]
    exact ⟨_, rfl⟩

theorem step_disabled {first : Registry} (off : first.dir = none) (empty : first.live = [])
    (unwritten : first.writers = []) (c : Command) :
    Course.step ⟨first, [], []⟩ c = ⟨first, [], []⟩ := by
  cases c with
  | writerFor => simp [Course.step, perform, opening?, writerFor, off]
  | release => simp [Course.step, perform, opening?, release, empty]
  | record => simp [Course.step, perform, opening?, record, writer?, unwritten]
  | close => simp [Course.step, perform, opening?, close, writer?, unwritten]

theorem lookup_release (r : Registry) (id other : ConnectionId) :
    (r.release id).2.live.lookup other = if other = id then none else r.live.lookup other := by
  rw [release_eq]
  cases live : r.live.lookup id with
  | none =>
    by_cases same : other = id
    · simp [same, live]
    · simp [same]
  | some number =>
    dsimp only
    rw [((r.forget id).turned_close number).live_eq, forget, lookup_filter]

/-- What holds of a registry for this directory wherever a course has led it. -/
structure RefinesMap (dir : Option String) (vantage : Vantage) (files : FileSystem) (h : Course) :
    Prop where
  disabled : dir = none ∨ dir = some "" → h = ⟨.new dir vantage files, [], []⟩ ∧
    ∀ id now, h.registry.writerFor id now = (.ok none, [], h.registry)
  enabled : ∀ {d}, dir = some d → d ≠ "" → h.registry.dir = some d
  /-- As long as a connection is not released every reference to it gives the same writer. -/
  same : ∀ {id now number}, (h.registry.writerFor id now).1 = .ok (some number) →
    ∀ more, .release id ∉ more → ∀ later,
      let r := ((h.step (.writerFor id now)).after more).registry
      r.writerFor id later = (.ok (some number), [], r)
  added : ∀ {d id} now, h.registry.dir = some d → h.registry.live.lookup id = none →
    CanOpen h.registry.files d id → h.registry.Adds d id (h.registry.writerFor id now)
  refused : ∀ {d id} now, h.registry.dir = some d → h.registry.live.lookup id = none →
    ¬ CanOpen h.registry.files d id → h.registry.Refuses d id (h.registry.writerFor id now)
  /-- Whatever has failed before, a reference gives a writer when nothing stands in the way. -/
  retried : ∀ {d id} files now, h.registry.dir = some d → CanOpen files d id →
    ∃ number, ({ h.registry with files := files }.writerFor id now).1 = .ok (some number)
  own : ∀ {id number}, h.registry.live.lookup id = some number →
    ∃ location w, h.openings[number]? = some (id, location) ∧
      h.registry.writers[number]? = some w ∧ w.fileName = traceName id
  released : ∀ id other, (h.registry.release id).2.live.lookup other =
    if other = id then none else h.registry.live.lookup other
  apart : ∀ c id, c.about? h.openings ≠ some id →
    (h.step c).registry.live.lookup id = h.registry.live.lookup id ∧
      ∀ {number : Nat} {location : Location}, h.openings[number]? = some (id, location) →
        (h.step c).registry.writers[number]? = h.registry.writers[number]?
  writes : ∀ c {location : Location},
    (∀ id, c.about? h.openings = some id → (id, location) ∉ (h.step c).openings) →
      (h.step c).registry.files.contentAt location = h.registry.files.contentAt location
  /-- The file of any other connection is left alone, if there was no link of a name that matters. -/
  files : ∀ c id, c.about? h.openings ≠ some id → ¬ files.HasLink (traceName id) →
    (∀ other, c.about? h.openings = some other → ¬ files.HasLink (traceName other)) →
    ∀ {location}, (id, location) ∈ h.openings →
      (h.step c).registry.files.contentAt location = h.registry.files.contentAt location

theorem refines_map (dir : Option String) (vantage : Vantage) (files : FileSystem)
    (commands : List Command) :
    RefinesMap dir vantage files (course (.new dir vantage files) commands) := by
  have sound := sound_course dir vantage files commands
  exact {
    disabled := by
      intro none
      have off : (new dir vantage files).dir = .none := by
        obtain rfl | rfl := none <;> rfl
      have still : course (.new dir vantage files) commands = ⟨.new dir vantage files, [], []⟩ :=
        course_induction (P := fun _ h => h = ⟨.new dir vantage files, [], []⟩) _ rfl
          (fun _ c same => by rw [same]; exact step_disabled off rfl rfl c) commands
      rw [still]
      exact ⟨rfl, fun id now => by simp [writerFor, off]⟩
    enabled := by
      intro d on named
      rw [sound.dir]
      simp [new, on, named]
    same := by
      intro id now number given more held later r
      obtain ⟨on, live⟩ := found_of_writerFor given
      refine writerFor_of_found ?_ (lookup_after live held)
      rwa [Course.after_step_dir]
    added := fun now on absent => (adds_or_refuses _ now on absent).1
    refused := fun now on absent => (adds_or_refuses _ now on absent).2
    retried := fun _ _ on able => given_of_canOpen on able
    own := by
      intro id number live
      obtain ⟨location, at_⟩ := sound.live live
      have named := congrArg (·[number]?) sound.names
      simp only [List.getElem?_map, at_, Option.map_some, Option.map_eq_some_iff] at named
      obtain ⟨w, stored, named⟩ := named
      exact ⟨location, w, at_, stored, named⟩
    released := lookup_release _
    apart := by
      intro c id other
      refine ⟨?_, fun at_ => sound.writer_step c at_ other⟩
      obtain same | released | ⟨⟨now, refers⟩, -⟩ := lookup_perform _ c id
      · exact same
      · exact absurd (by rw [released]; rfl) other
      · exact absurd (by rw [refers]; rfl) other
    writes := fun c _ => sound.contentAt_step c
    files := by
      intro c id other unlinked unlinked' location mem
      refine sound.contentAt_step c fun id' about mem' => ?_
      have aside : id' ≠ id := fun same => other (same ▸ about)
      exact (sound.step c).apart (List.mem_append_left _ mem) mem' aside unlinked
        (unlinked' id' about) rfl }

def enter (r : Registry) (dir : String) (id : ConnectionId) (now : Nat) (location : Location)
    (opened : FileSystem) : Registry :=
  let (_, w, files) := (Writer.fresh dir id now ⟨location, 0⟩).append opened (header r.vantage id)
  { r with
    files := files, writers := r.writers ++ [w], live := (id, r.writers.length) :: r.live }

theorem Opens.enter_eq {location : Location} {opened : FileSystem}
    (opens : r.Opens id location opened) (on : r.dir = some dir) (now : Nat) :
    (r.perform (.writerFor id now)).2 = r.enter dir id now location opened ∧
      r.opening? (.writerFor id now) = some (id, location) := by
  obtain ⟨dir', ready, on', ensured, created⟩ := opens.opened
  obtain rfl : dir = dir' := by simpa [on] using on'
  have made := (Writer.create_eq created r.vantage now).1
  rw [← traceName] at created
  constructor
  · simp [perform, writerFor, on, opens.fresh, ensured, made, enter]
  · simp [opening?, on, opens.fresh, ensured, created]

structure HasQ (fs : FileSystem) : Prop where
  start : fs.here = ["tmp"]
  above : fs.node? ["tmp"] = some .directory
  there : fs.node? ["tmp", "q"] = some .directory

variable {fs : FileSystem}

theorem HasQ.ensureDirectory (h : HasQ fs) : fs.ensureDirectory "q" = (fs, .ok ()) := by
  have isPath : FileSystem.checkPath "q" = .ok () :=
    FileSystem.checkPath_eq (by decide +kernel) (by decide +kernel) (by decide +kernel)
  have names : Path.pieces "q" = ["q"] := by decide +kernel
  have start : fs.start "q" = ["tmp"] := h.start
  have size : "q".utf8ByteSize = 1 := by decide +kernel
  have leads : fs.walk FileSystem.maxLinks ["tmp"] ["q"] = .ok (.node ["tmp", "q"]) := by
    simp [FileSystem.walk, h.above, h.there, size, FileSystem.maxName]
  have resolved : fs.resolve "q" = .ok (.node ["tmp", "q"]) := by
    rw [FileSystem.resolve, isPath, names, start, ← leads]
    rfl
  have isThere : fs.isDirectory "q" = true := by simp [FileSystem.isDirectory, resolved, h.there]
  rw [FileSystem.ensureDirectory, isThere]
  rfl

theorem HasQ.resolve (h : HasQ fs) {path : String} (name : String)
    (isPath : FileSystem.checkPath path = .ok ()) (names : Path.pieces path = ["q", name])
    (relative : Path.isAbsolute path = false) :
    fs.resolve path = fs.walk FileSystem.maxLinks ["tmp", "q"] [name] := by
  have start : fs.start path = ["tmp"] := by simp [FileSystem.start, relative, h.start]
  have size : "q".utf8ByteSize = 1 := by decide +kernel
  have down : fs.walk FileSystem.maxLinks ["tmp"] ["q", name] =
      fs.walk FileSystem.maxLinks ["tmp", "q"] [name] := by
    rw [FileSystem.walk]
    simp [h.above, h.there, size, FileSystem.maxName]
  rw [FileSystem.resolve, isPath, names, start, ← down]
  rfl

def ofByte (b : UInt8) : ConnectionId := ⟨[b]⟩

def firstFile : Location := ["tmp", "q", "01.qlog"]

theorem HasQ.resolve_firstFile (h : HasQ fs) : fs.resolve "q/01.qlog" =
    fs.walk FileSystem.maxLinks ["tmp", "q"] ["01.qlog"] :=
  h.resolve _ (FileSystem.checkPath_eq (by decide +kernel) (by decide +kernel) (by decide +kernel))
    (by decide +kernel) (by decide +kernel)

theorem HasQ.opens_new (h : HasQ r.files) (on : r.dir = some "q")
    (absent : r.live.lookup (ofByte 1) = none) (free : r.files.node? firstFile = none) :
    r.Opens (ofByte 1) firstFile (r.files.put firstFile (.file [] none)) where
  fresh := absent
  opened := by
    have path : Path.join "q" ((ofByte 1).hex ++ ".qlog") = "q/01.qlog" := by decide +kernel
    have size : "01.qlog".utf8ByteSize = 7 := by decide +kernel
    have leads : r.files.resolve "q/01.qlog" = .ok (.free firstFile) := by
      rw [h.resolve_firstFile]
      simp [FileSystem.walk, h.there, size, FileSystem.maxName,
        show r.files.node? ["tmp", "q", "01.qlog"] = none from free, firstFile]
    refine ⟨"q", r.files, on, h.ensureDirectory, ?_⟩
    rw [path, FileSystem.create, leads]
    rfl

def linked : FileSystem :=
  ((FileSystem.scratch ["tmp"]).put ["tmp", "q"] .directory).put ["tmp", "q", "02.qlog"]
    (.link "01.qlog")

def sharing : Registry := .new (some "q") .client linked

theorem sharing_opens :
    sharing.Opens (ofByte 1) firstFile (linked.put firstFile (.file [] none)) :=
  HasQ.opens_new (r := sharing) ⟨rfl, by decide +kernel, by decide +kernel⟩ rfl rfl
    (by decide +kernel)

def written : Registry :=
  (((sharing.enter "q" (ofByte 1) 0 firstFile (linked.put firstFile (.file [] none))).record 0 0
    (.datagramSent 1)).2.close 0).2

theorem written_facts : written.dir = some "q" ∧ written.live.lookup (ofByte 2) = none ∧
    written.files.here = ["tmp"] ∧ written.files.node? ["tmp"] = some .directory ∧
    written.files.node? ["tmp", "q"] = some .directory ∧
    written.files.node? ["tmp", "q", "02.qlog"] = some (.link "01.qlog") ∧
    written.files.node? firstFile = some (.file (written.files.contentAt firstFile) none) := by
  decide +kernel

theorem written_opens :
    written.Opens (ofByte 2) firstFile (written.files.put firstFile (.file [] none)) := by
  obtain ⟨on, absent, here, above, inside, link, there⟩ := written_facts
  have place : HasQ written.files := ⟨here, above, inside⟩
  have path : Path.join "q" ((ofByte 2).hex ++ ".qlog") = "q/02.qlog" := by decide +kernel
  have sizes : "01.qlog".utf8ByteSize = 7 ∧ "02.qlog".utf8ByteSize = 7 := by decide +kernel
  have target : Path.isAbsolute "01.qlog" = false ∧ Path.pieces "01.qlog" = ["01.qlog"] := by
    decide +kernel
  have resolved : written.files.resolve "q/02.qlog" = .ok (.node firstFile) := by
    rw [place.resolve "02.qlog" (FileSystem.checkPath_eq (by decide +kernel)
      (by decide +kernel) (by decide +kernel)) (by decide +kernel) (by decide +kernel)]
    simp [FileSystem.walk, inside, link, sizes, target, FileSystem.maxName, FileSystem.maxLinks,
      firstFile, show written.files.node? ["tmp", "q", "01.qlog"] = _ from there]
  refine ⟨absent, "q", written.files, on, place.ensureDirectory, ?_⟩
  rw [path, FileSystem.create, resolved]
  simp [bind, Except.bind, there, pure, Except.pure]

/-- A reference to the second connection empties the file of the first. -/
theorem link_shares_file :
    let h := course sharing
      [.writerFor (ofByte 1) 0, .record 0 0 (.datagramSent 1), .close 0]
    ¬ ∀ c id, c.about? h.openings ≠ some id → ∀ {location}, (id, location) ∈ h.openings →
      (h.step c).registry.files.contentAt location = h.registry.files.contentAt location := by
  intro h alone
  obtain ⟨entered, opening⟩ := sharing_opens.enter_eq (show sharing.dir = some "q" from rfl) 0
  obtain ⟨entered', -⟩ := written_opens.enter_eq written_facts.1 0
  have registry : h.registry = written := by
    have parts : h.registry = (((sharing.perform (.writerFor (ofByte 1) 0)).2.record 0 0
      (.datagramSent 1)).2.close 0).2 := rfl
    rw [parts, entered, written]
  have openings : h.openings = [(ofByte 1, firstFile)] := by
    have parts : h.openings = ([] ++ (sharing.opening? (.writerFor (ofByte 1) 0)).toList ++ []) ++
      [] := rfl
    rw [parts, opening]
    rfl
  have mem : (ofByte 1, firstFile) ∈ h.openings := by simp [openings]
  have same := alone (.writerFor (ofByte 2) 0) (ofByte 1) (by simp [Command.about?, ofByte]) mem
  have emptied : (h.step (.writerFor (ofByte 2) 0)).registry =
      written.enter "q" (ofByte 2) 0 firstFile (written.files.put firstFile (.file [] none)) := by
    rw [← entered', ← registry]
    rfl
  rw [emptied, registry] at same
  revert same
  decide +kernel

end MessageTunnel.Trace.Registry
