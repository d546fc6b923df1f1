import MessageTunnel.Proofs.Trace.Refinement
/-!
The file of a connection is created once, as long as nobody refers to the connection again after its
release. Then no command takes back what is in a file: each writer stands at the end of its own file.
After a release the next reference creates the file again, and empties it.
-/
set_option autoImplicit false

namespace MessageTunnel.Trace.Registry

variable {id : ConnectionId} {number now : Nat} {location : Location} {first r r' : Registry}
  {notices news : List Notice} {openings : List (ConnectionId × Location)}
  {commands : List Command}

def Unreturned (commands : List Command) : Prop :=
  commands.Pairwise fun c d => ∀ id now, c = .release id → d ≠ .writerFor id now

theorem unreturned_concat {c : Command} : Unreturned (commands ++ [c]) ↔
    Unreturned commands ∧ ∀ id now, c = .writerFor id now → .release id ∉ commands := by
  unfold Unreturned
  rw [List.pairwise_append]
  constructor
  · rintro ⟨before, -, last⟩
    exact ⟨before, fun id now same mem => last _ mem c (by simp) id now rfl same⟩
  · rintro ⟨before, last⟩
    refine ⟨before, List.pairwise_singleton _ _, fun d mem e here id now released => ?_⟩
    obtain rfl : e = c := by simpa using here
    exact fun same => last id now same (released ▸ mem)

def AtEnd (r : Registry) : Prop :=
  ∀ {number : Nat} {w : Writer} {o : Output}, r.writers[number]? = some w → w.output = some o →
    o.AtEnd r.files

structure Course.Tidy (commands : List Command) (h : Course) : Prop where
  known : ∀ {id : ConnectionId}, id ∈ h.openings.map Prod.fst →
    (h.registry.live.lookup id).isSome = true ∨ .release id ∈ commands
  once : (h.openings.map Prod.fst).Nodup
  atEnd : h.registry.AtEnd

def Course.Grows (h h' : Course) : Prop :=
  ∀ {id location}, (id, location) ∈ h.openings →
    h.registry.files.contentAt location <+: h'.registry.files.contentAt location

namespace Course

theorem Sound.apart_of_ne {h : Course} (sound : h.Sound first)
    (once : (h.openings.map Prod.fst).Nodup)
    (unlinked : ∀ id, ¬ first.files.HasLink (traceName id)) {m n : Nat}
    {a b : ConnectionId × Location} (at_ : h.openings[m]? = some a) (at_' : h.openings[n]? = some b)
    (other : n ≠ m) : a.2 ≠ b.2 := by
  refine sound.apart (List.mem_of_getElem? at_) (List.mem_of_getElem? at_') ?_ (unlinked _)
    (unlinked _)
  intro same
  have less : n < (h.openings.map Prod.fst).length := by
    simpa using (List.getElem?_eq_some_iff.1 at_').1
  exact other ((List.getElem?_inj less once).1 (by simp [at_, at_', same]))

/-- As long as the writers write to different places, each of them stays at the end of its file, and
the files only grow. -/
theorem Sound.turned_atEnd (sound : Course.Sound first ⟨r, openings, notices⟩)
    (once : (openings.map Prod.fst).Nodup)
    (unlinked : ∀ id, ¬ first.files.HasLink (traceName id)) (atEnd : r.AtEnd)
    (turned : r.Turned number news r') :
    r'.AtEnd ∧ ∀ l, r.files.contentAt l <+: r'.files.contentAt l := by
  cases turned with
  | missing => exact ⟨atEnd, fun l => List.prefix_rfl⟩
  | @turned w w' files entries stored turns =>
    have less := (List.getElem?_eq_some_iff.1 stored).1
    constructor
    · intro n w'' o there output
      by_cases same : number = n
      · subst same
        obtain rfl : w' = w'' := by simpa [less] using there
        obtain ⟨o', before, moves⟩ := turns.moves output
        exact (moves.grows (atEnd stored before)).1
      · rw [List.getElem?_set_ne same] at there
        have last : o.AtEnd r.files := atEnd there output
        obtain rfl | ⟨o', o'', before, moves⟩ := turns.writes_own
        · exact last
        · obtain ⟨id, at_⟩ := sound.places there output
          obtain ⟨id', at_'⟩ := sound.places stored before
          have aside := sound.apart_of_ne once unlinked at_ at_' same
          exact last.of_contentAt_eq (moves.only.contentAt_eq aside)
    · intro l
      obtain rfl | ⟨o, o', output, moves⟩ := turns.writes_own
      · exact List.prefix_rfl
      · by_cases here : l = o.handle.location
        · exact here ▸ (moves.grows (atEnd stored output)).2
        · exact (moves.only.contentAt_eq here) ▸ List.prefix_rfl

theorem openings_after (h : Course) (more : List Command) :
    h.openings <+: (h.after more).openings := by
  induction more generalizing h with
  | nil => exact List.prefix_rfl
  | cons c more ih => exact (List.prefix_append ..).trans (ih (h.step c))

theorem Tidy.known_step {h : Course} (tidy : h.Tidy commands) (c : Command)
    (mem : id ∈ (h.step c).openings.map Prod.fst) :
    ((h.step c).registry.live.lookup id).isSome = true ∨ .release id ∈ commands ++ [c] := by
  obtain old | new : id ∈ h.openings.map Prod.fst ∨
      ∃ location, h.registry.opening? c = some (id, location) := by
    simpa [Course.step, or_comm] using mem
  · obtain live | released := tidy.known old
    · obtain same | released | ⟨-, absent⟩ := lookup_perform h.registry c id
      · exact .inl ((congrArg Option.isSome same).trans live)
      · exact .inr (by simp [released])
      · simp [absent] at live
    · exact .inr (List.mem_append_left _ released)
  · obtain ⟨location, opening⟩ := new
    have performs := h.registry.performs c
    unfold Course.step
    dsimp only
    rw [opening] at performs
    generalize (h.registry.perform c).1 = news, (h.registry.perform c).2 = r' at performs
    cases performs
    exact .inl (by simp)

theorem Tidy.step {h : Course} (tidy : h.Tidy commands) (sound : h.Sound first)
    (unlinked : ∀ id, ¬ first.files.HasLink (traceName id)) (c : Command)
    (fresh : ∀ id now, c = .writerFor id now → .release id ∉ commands) :
    (h.step c).Tidy (commands ++ [c]) ∧ h.Grows (h.step c) := by
  have soundAfter := sound.step c
  have known {id : ConnectionId} (mem : id ∈ (h.step c).openings.map Prod.fst) :=
    tidy.known_step c mem
  obtain ⟨r, openings, notices⟩ := h
  have performs := r.performs c
  unfold Course.step at soundAfter known ⊢
  dsimp only at soundAfter known ⊢
  generalize (r.perform c).1 = news, (r.perform c).2 = r', r.opening? c = opening
    at performs soundAfter known ⊢
  cases performs with
  | still => exact ⟨⟨known, by simpa using tidy.once, tidy.atEnd⟩, fun _ => List.prefix_rfl⟩
  | blocked room =>
    refine ⟨⟨known, by simpa using tidy.once, fun there output => ?_⟩, fun {_ location} _ => ?_⟩
    · have last : Output.AtEnd _ r.files := tidy.atEnd there output
      exact last.of_contentAt_eq (room.contentAt_eq _)
    · exact (room.contentAt_eq location) ▸ List.prefix_rfl
  | @opened id now dir path place entries w opened files opens turns =>
    have new : id ∉ openings.map Prod.fst := by
      intro mem
      obtain live | released := tidy.known mem
      · simp [opens.fresh] at live
      · exact fresh id now rfl released
    have aside {id' : ConnectionId} {location : Location} (mem : (id', location) ∈ openings) :
        location ≠ place := by
      have other : id ≠ id' := fun same => new (same ▸ List.mem_map_of_mem mem)
      exact soundAfter.apart (List.mem_append_left _ mem) (by simp) other (unlinked id')
        (unlinked id)
    have once : ((openings ++ [(id, place)]).map Prod.fst).Nodup := by
      rw [List.map_append, List.nodup_append]
      refine ⟨tidy.once, by simp, fun a mem b here same => new ?_⟩
      obtain rfl : b = id := by simpa using here
      exact same ▸ mem
    refine ⟨⟨known, once, fun there output => ?_⟩, fun mem => ?_⟩
    · obtain before | ⟨-, here⟩ := getElem?_concat there
      · obtain ⟨id', at_⟩ := sound.places before output
        have last : Output.AtEnd _ r.files := tidy.atEnd before output
        exact last.of_contentAt_eq
          (opens.contentAt_eq turns (aside (List.mem_of_getElem? at_)))
      · subst here
        obtain ⟨o, start, moves⟩ := turns.moves output
        obtain rfl := Option.some.inj start
        obtain ⟨dir', ready, -, -, created⟩ := opens.opened
        refine (moves.grows ?_).1
        simp [Output.AtEnd, (FileSystem.create_empty created).2]
    · exact (opens.contentAt_eq turns (aside mem)) ▸ List.prefix_rfl
  | turned _ turned =>
    obtain ⟨atEnd, grows⟩ := sound.turned_atEnd tidy.once unlinked tidy.atEnd turned
    exact ⟨⟨known, by simpa using tidy.once, atEnd⟩, fun _ => grows _⟩
  | @released id _ _ _ live closed =>
    obtain ⟨atEnd, grows⟩ := (sound.forget id).turned_atEnd tidy.once unlinked tidy.atEnd closed
    exact ⟨⟨known, by simpa using tidy.once, atEnd⟩, fun _ => grows _⟩

end Course

section Courses

variable (sound : ∀ commands, (course first commands).Sound first)
  (unlinked : ∀ id, ¬ first.files.HasLink (traceName id)) (unwritten : first.writers = [])

include sound unlinked unwritten

theorem tidy_course (unreturned : Unreturned commands) : (course first commands).Tidy commands := by
  induction commands using List.reverseRecOn with
  | nil =>
    refine ⟨by simp [course, Course.after], by simp [course, Course.after], ?_⟩
    simp [AtEnd, course, Course.after, unwritten]
  | append_singleton commands c ih =>
    obtain ⟨held, fresh⟩ := unreturned_concat.1 unreturned
    rw [course_concat]
    exact ((ih held).step (sound commands) unlinked c fresh).1

theorem grows_course {before after : List Command} (unreturned : Unreturned (before ++ after)) :
    (course first before).Grows (course first (before ++ after)) := by
  induction after using List.reverseRecOn with
  | nil =>
    rw [List.append_nil]
    exact fun _ => List.prefix_rfl
  | append_singleton after c ih =>
    rw [← List.append_assoc] at unreturned ⊢
    obtain ⟨held, fresh⟩ := unreturned_concat.1 unreturned
    have tidy := tidy_course sound unlinked unwritten held
    rw [course_concat]
    intro id location mem
    have still : (id, location) ∈ (course first (before ++ after)).openings := by
      rw [course_append]
      exact (Course.openings_after _ after).subset mem
    exact (ih held mem).trans ((tidy.step (sound _) unlinked c fresh).2 still)

end Courses

/-- What the commands on one registry leave of the promise that each file is created once. -/
structure CreatesOnce (first : Registry) (commands : List Command) : Prop where
  created : ((course first commands).openings.map Prod.fst).Nodup
  announced : ((course first commands).notices.filterMap Notice.fileName?).Nodup
  /-- What was in a file of the registry at any moment is still there at the end. -/
  kept : ∀ before after, commands = before ++ after →
    (course first before).Grows (course first commands)

/-- No file is created twice, if nobody comes back to a connection and no name of a trace is a link
of either kind. -/
theorem creates_once (dir : Option String) (vantage : Vantage) (files : FileSystem)
    (commands : List Command) (unreturned : Unreturned commands)
    (unlinked : ∀ id, ¬ files.HasLink (traceName id)) :
    CreatesOnce (.new dir vantage files) commands := by
  have sound := sound_course dir vantage files
  have tidy := tidy_course sound unlinked rfl unreturned
  refine ⟨tidy.once, ?_, ?_⟩
  · rw [(sound commands).announced, ← Function.comp_def traceName Prod.fst, ← List.map_map]
    exact List.Pairwise.map traceName (fun _ _ other same => other (traceName_injective same))
      tidy.once
  · rintro before after rfl
    exact grows_course sound unlinked rfl unreturned

theorem not_hasLink_of_nodes {fs : FileSystem} (name : String)
    (plain : ∀ e ∈ fs.nodes, e.2.isLink = false) : ¬ fs.HasLink name := by
  rintro ⟨l, n, there, isLink⟩
  unfold FileSystem.node? at there
  rw [if_neg (by simp)] at there
  obtain ⟨before, after, nodes, -⟩ := List.lookup_eq_some_iff.1 there
  have mem : (l ++ [name], n) ∈ fs.nodes := by simp [nodes]
  simp [plain _ mem] at isLink

def withQ : FileSystem := (FileSystem.scratch ["tmp"]).put ["tmp", "q"] .directory

theorem creates_once_twoTraces :
    let commands := [.writerFor (ofByte 1) 0, .record 0 0 (.datagramSent 1),
      .writerFor (ofByte 2) 0, .release (ofByte 1), .writerFor (ofByte 2) 0, .close 1]
    Unreturned commands ∧ (∀ id, ¬ withQ.HasLink (traceName id)) ∧
      CreatesOnce (.new (some "q") .client withQ) commands := by
  intro commands
  have unreturned : Unreturned commands := by
    simp [Unreturned, commands, ofByte]
  have unlinked (id : ConnectionId) : ¬ withQ.HasLink (traceName id) := by
    have nodes : withQ.nodes = [(["tmp"], .directory), (["dev"], .directory),
      (["dev", "full"], .device), (["tmp", "q"], .directory)] := by decide +kernel
    exact not_hasLink_of_nodes _ (by simp [nodes, Node.isLink])
  exact ⟨unreturned, unlinked, creates_once (some "q") .client withQ commands unreturned unlinked⟩

theorem HasQ.opens_again (h : HasQ r.files) (on : r.dir = some "q")
    (absent : r.live.lookup (ofByte 1) = none) {content : Bytes}
    (there : r.files.node? firstFile = some (.file content none)) :
    r.Opens (ofByte 1) firstFile (r.files.put firstFile (.file [] none)) where
  fresh := absent
  opened := by
    have path : Path.join "q" ((ofByte 1).hex ++ ".qlog") = "q/01.qlog" := by decide +kernel
    have size : "01.qlog".utf8ByteSize = 7 := by decide +kernel
    have leads : r.files.resolve "q/01.qlog" = .ok (.node firstFile) := by
      rw [h.resolve_firstFile]
      simp [FileSystem.walk, h.there, size, FileSystem.maxName,
        show r.files.node? ["tmp", "q", "01.qlog"] = _ from there, firstFile]
    refine ⟨"q", r.files, on, h.ensureDirectory, ?_⟩
    rw [path, FileSystem.create, leads]
    simp [bind, Except.bind, there, pure, Except.pure]

def opening : Registry := .new (some "q") .client withQ

def released : Registry :=
  (((opening.enter "q" (ofByte 1) 0 firstFile (withQ.put firstFile (.file [] none))).record 0 0
    (.datagramSent 1)).2.release (ofByte 1)).2

theorem released_facts : released.dir = some "q" ∧ released.live.lookup (ofByte 1) = none ∧
    released.files.here = ["tmp"] ∧ released.files.node? ["tmp"] = some .directory ∧
    released.files.node? ["tmp", "q"] = some .directory ∧
    released.files.node? firstFile =
      some (.file (released.files.contentAt firstFile) none) := by
  decide +kernel

/-- After its release a connection gets its file once more. -/
theorem creates_again_after_release :
    ¬ CreatesOnce (.new (some "q") .client withQ) [.writerFor (ofByte 1) 0,
      .record 0 0 (.datagramSent 1), .release (ofByte 1), .writerFor (ofByte 1) 0] := by
  intro once
  obtain ⟨on, absent, here, above, inside, there⟩ := released_facts
  have opens : opening.Opens (ofByte 1) firstFile (withQ.put firstFile (.file [] none)) :=
    HasQ.opens_new (r := opening) ⟨rfl, by decide +kernel, by decide +kernel⟩ rfl rfl
      (by decide +kernel)
  have again := HasQ.opens_again ⟨here, above, inside⟩ on absent there
  obtain ⟨entered, first⟩ := opens.enter_eq (show opening.dir = some "q" from rfl) 0
  obtain ⟨-, second⟩ := again.enter_eq on 0
  have parts : (course opening [.writerFor (ofByte 1) 0, .record 0 0 (.datagramSent 1),
      .release (ofByte 1), .writerFor (ofByte 1) 0]).openings =
      (opening.opening? (.writerFor (ofByte 1) 0)).toList ++ [] ++ [] ++
        ((((opening.perform (.writerFor (ofByte 1) 0)).2.record 0 0 (.datagramSent 1)).2.release
          (ofByte 1)).2.opening? (.writerFor (ofByte 1) 0)).toList := rfl
  rw [entered, ← released, first, second] at parts
  have created : ((course opening _).openings.map Prod.fst).Nodup := once.created
  rw [parts] at created
  simp at created

end MessageTunnel.Trace.Registry
