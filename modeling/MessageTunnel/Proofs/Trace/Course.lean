import Mathlib.Data.List.Induction
import MessageTunnel.Proofs.Trace.Registry
/-!
A course of commands, with the files that it opened and all that it made known. The writers are numbered
in the order in which their files were opened, and a writer is only ever written to the place that was
opened for it.
-/
set_option autoImplicit false

namespace MessageTunnel.Trace

def Notice.fileName? : Notice → Option String
  | announced name => some name
  | logged _ => none

namespace Registry

variable {id id' : ConnectionId} {number now : Nat} {location : Location} {first r r' : Registry}
  {notices news : List Notice} {openings : List (ConnectionId × Location)}

structure Course where
  registry : Registry
  openings : List (ConnectionId × Location)
  notices : List Notice

def Course.step (h : Course) (c : Command) : Course where
  registry := (h.registry.perform c).2
  openings := h.openings ++ (h.registry.opening? c).toList
  notices := h.notices ++ (h.registry.perform c).1

def Course.after (h : Course) (commands : List Command) : Course := commands.foldl Course.step h

def course (first : Registry) (commands : List Command) : Course :=
  Course.after ⟨first, [], []⟩ commands

theorem course_append (first : Registry) (commands more : List Command) :
    course first (commands ++ more) = (course first commands).after more :=
  List.foldl_append

theorem course_concat (first : Registry) (commands : List Command) (c : Command) :
    course first (commands ++ [c]) = (course first commands).step c := by
  rw [course_append]
  rfl

theorem course_induction {P : List Command → Course → Prop} (first : Registry)
    (start : P [] ⟨first, [], []⟩)
    (step : ∀ commands c, P commands (course first commands) →
      P (commands ++ [c]) ((course first commands).step c)) (commands : List Command) :
    P commands (course first commands) := by
  induction commands using List.reverseRecOn with
  | nil => exact start
  | append_singleton commands c ih =>
    rw [course_concat]
    exact step commands c ih

def Command.about? (openings : List (ConnectionId × Location)) : Command → Option ConnectionId
  | .writerFor id _ | .release id => some id
  | .record number _ _ | .close number => openings[number]?.map Prod.fst

theorem Command.about?_of_number? (c : Command) (means : c.number? = some number)
    (openings : List (ConnectionId × Location)) :
    c.about? openings = openings[number]?.map Prod.fst := by
  cases c with
  | writerFor | release => simp [number?] at means
  | record | close =>
    obtain rfl := Option.some.inj means
    rfl

theorem fileNames_logged (entries : List Log.Entry) :
    (entries.map Notice.logged).filterMap Notice.fileName? = [] := by
  simp [Notice.fileName?, List.filterMap_map, Function.comp_def]

theorem getElem?_append_of_some {α : Type} {before : List α} {n : Nat} {a : α}
    (there : before[n]? = some a) (more : List α) : (before ++ more)[n]? = some a := by
  rw [List.getElem?_append_left (List.getElem?_eq_some_iff.1 there).1, there]

theorem getElem?_concat {α : Type} {before : List α} {n : Nat} {a last : α}
    (there : (before ++ [last])[n]? = some a) :
    before[n]? = some a ∨ n = before.length ∧ a = last := by
  rw [List.getElem?_append] at there
  split at there
  · exact .inl there
  · rename_i beyond
    rw [List.getElem?_singleton] at there
    split at there
    · exact .inr ⟨by omega, (Option.some.inj there).symm⟩
    · simp at there

/-- The record of what was opened fits the registry. -/
structure Course.Sound (first : Registry) (h : Course) : Prop where
  dir : h.registry.dir = first.dir
  names : h.registry.writers.map Writer.fileName = h.openings.map fun o => traceName o.1
  places : ∀ {number : Nat} {w : Writer} {o : Output}, h.registry.writers[number]? = some w →
    w.output = some o → ∃ id, h.openings[number]? = some (id, o.handle.location)
  live : ∀ {id : ConnectionId} {number : Nat}, h.registry.live.lookup id = some number →
    ∃ location, h.openings[number]? = some (id, location)
  announced : h.notices.filterMap Notice.fileName? = h.openings.map fun o => traceName o.1
  links : ∀ name, h.registry.files.HasLink name → first.files.HasLink name
  located : ∀ {id : ConnectionId} {location : Location}, (id, location) ∈ h.openings →
    (∃ above, location = above ++ [traceName id]) ∨ first.files.HasLink (traceName id)

namespace Course.Sound

theorem length_eq {h : Course} (sound : h.Sound first) :
    h.registry.writers.length = h.openings.length := by
  simpa using congrArg List.length sound.names

theorem forget (sound : Course.Sound first ⟨r, openings, notices⟩) (id : ConnectionId) :
    Course.Sound first ⟨r.forget id, openings, notices⟩ :=
  { sound with
    live := by
      intro other number live
      simp only [Registry.forget, lookup_filter] at live
      split at live
      · simp at live
      · exact sound.live live }

theorem makeRoom {files : FileSystem} (sound : Course.Sound first ⟨r, openings, notices⟩)
    (room : r.files.MakesRoom files) :
    Course.Sound first ⟨{ r with files := files }, openings, notices⟩ :=
  { sound with links := fun name link => sound.links name (room.hasLink link) }

theorem turned (sound : Course.Sound first ⟨r, openings, notices⟩)
    (turned : r.Turned number news r') :
    Course.Sound first ⟨r', openings, notices ++ news⟩ := by
  cases turned with
  | missing => simpa using sound
  | @turned w w' files entries stored turns =>
    have less := (List.getElem?_eq_some_iff.1 stored).1
    have held {n : Nat} {w'' : Writer} {o : Output}
        (there : (r.writers.set number w')[n]? = some w'') (output : w''.output = some o) :
        ∃ id, openings[n]? = some (id, o.handle.location) := by
      by_cases same : number = n
      · subst same
        obtain rfl : w' = w'' := by simpa [less] using there
        obtain ⟨o', before, moves⟩ := turns.moves output
        rw [moves.place]
        exact sound.places stored before
      · rw [List.getElem?_set_ne same] at there
        exact sound.places there output
    exact {
      dir := sound.dir
      names := by
        have less' : number < (r.writers.map Writer.fileName).length := by simpa using less
        have same : w'.fileName = (r.writers.map Writer.fileName)[number] := by
          rw [List.getElem_map, (List.getElem?_eq_some_iff.1 stored).2, turns.fileName_eq]
        rw [List.map_set, same, List.set_getElem_self]
        exact sound.names
      places := held
      live := sound.live
      announced := by
        rw [List.filterMap_append, fileNames_logged, List.append_nil]
        exact sound.announced
      links := by
        intro name link
        obtain rfl | ⟨o, o', -, moves⟩ := turns.writes_own
        · exact sound.links name link
        · exact sound.links name (moves.only.hasLink link)
      located := sound.located }

theorem opened {w : Writer} {opened files : FileSystem} {entries : List Log.Entry}
    {dir path : String} (sound : Course.Sound first ⟨r, openings, notices⟩)
    (opens : r.Opens id location opened)
    (turns : (Writer.fresh dir id now ⟨location, 0⟩).Turns opened w files) :
    Course.Sound first ⟨{ r with
        files := files, writers := r.writers ++ [w], live := (id, r.writers.length) :: r.live },
      openings ++ [(id, location)],
      notices ++ (entries.map .logged ++ [.logged (.traceCreated path),
        .announced (traceName id)])⟩ := by
  have length := sound.length_eq
  have named : w.fileName = traceName id := turns.fileName_eq
  obtain ⟨dir', ready, on', ensured, created⟩ := opens.opened
  have room := FileSystem.ensureDirectory_makesRoom r.files dir'
  rw [ensured] at room
  have onlyHere := FileSystem.create_onlyAt created
  have unlinked (name : String) (link : files.HasLink name) : first.files.HasLink name := by
    have before : opened.HasLink name := by
      obtain rfl | ⟨o, o', -, moves⟩ := turns.writes_own
      · exact link
      · exact moves.only.hasLink link
    exact sound.links name (room.hasLink (onlyHere.hasLink before))
  exact {
    dir := sound.dir
    names := by simp [sound.names, named]
    places := by
      intro number w' o there output
      obtain before | ⟨new, here⟩ := getElem?_concat there
      · obtain ⟨id', at_⟩ := sound.places before output
        exact ⟨id', getElem?_append_of_some at_ _⟩
      · subst here
        obtain ⟨o', fresh, moves⟩ := turns.moves output
        obtain rfl := Option.some.inj fresh
        exact ⟨id, by simp [new, length, moves.place]⟩
    live := by
      intro other number live
      by_cases same : other = id
      · subst same
        obtain rfl : r.writers.length = number := by simpa using live
        exact ⟨location, by simp [length]⟩
      · have aside : (other == id) = false := by simpa using same
        obtain ⟨location', at_⟩ := sound.live (by simpa [List.lookup_cons, aside] using live)
        exact ⟨location', getElem?_append_of_some at_ _⟩
    announced := by
      rw [List.filterMap_append, List.filterMap_append, fileNames_logged, sound.announced,
        List.map_append]
      rfl
    links := unlinked
    located := by
      intro id' location' mem
      obtain mem | mem := List.mem_append.1 mem
      · exact sound.located mem
      · obtain ⟨rfl, rfl⟩ : id' = id ∧ location' = location := by simpa using mem
        by_cases linked : ready.HasLink (traceName id')
        · exact .inr (sound.links _ (room.hasLink linked))
        · exact .inl (FileSystem.create_join (isPlain_traceName id') (slash_notMem_traceName id')
            linked created) }

theorem start (dir : Option String) (vantage : Vantage) (files : FileSystem) :
    Course.Sound (.new dir vantage files) ⟨.new dir vantage files, [], []⟩ where
  dir := rfl
  names := rfl
  places := by simp [new]
  live := by simp [new]
  announced := rfl
  links := fun _ link => link
  located := by simp

theorem step {h : Course} (sound : h.Sound first) (c : Command) : (h.step c).Sound first := by
  obtain ⟨r, openings, notices⟩ := h
  have performs := r.performs c
  unfold Course.step
  dsimp only
  generalize (r.perform c).1 = news, (r.perform c).2 = r', r.opening? c = opening at performs
  cases performs with
  | still => simpa using sound
  | blocked room => simpa using sound.makeRoom room
  | opened opens turns => exact sound.opened opens turns
  | turned _ turned => simpa using sound.turned turned
  | released _ closed => simpa using (sound.forget _).turned closed

/-- Two connections have their files at different places, unless a link bears one of their names. -/
theorem apart {h : Course} {location' : Location} (sound : h.Sound first)
    (mem : (id, location) ∈ h.openings) (mem' : (id', location') ∈ h.openings) (other : id' ≠ id)
    (unlinked : ¬ first.files.HasLink (traceName id))
    (unlinked' : ¬ first.files.HasLink (traceName id')) : location ≠ location' := by
  intro same
  obtain ⟨above, at_⟩ | linked := sound.located mem
  · obtain ⟨above', at_'⟩ | linked := sound.located mem'
    · have names : traceName id = traceName id' := by
        rw [at_, at_'] at same
        simpa using (List.append_inj' same rfl).2
      exact other (traceName_injective names).symm
    · exact unlinked' linked
  · exact unlinked linked

theorem contentAt_turned (sound : Course.Sound first ⟨r, openings, notices⟩)
    (turned : r.Turned number news r') (other : ∀ id, openings[number]? ≠ some (id, location)) :
    r'.files.contentAt location = r.files.contentAt location := by
  cases turned with
  | missing => rfl
  | turned stored turns =>
    obtain rfl | ⟨o, o', output, moves⟩ := turns.writes_own
    · rfl
    · obtain ⟨id, at_⟩ := sound.places stored output
      exact moves.only.contentAt_eq fun here => other id (here ▸ at_)

theorem contentAt_step {h : Course} (sound : h.Sound first) (c : Command)
    (other : ∀ id, c.about? h.openings = some id → (id, location) ∉ (h.step c).openings) :
    (h.step c).registry.files.contentAt location = h.registry.files.contentAt location := by
  obtain ⟨r, openings, notices⟩ := h
  have performs := r.performs c
  unfold Course.step at other ⊢
  dsimp only at other ⊢
  generalize (r.perform c).1 = news, (r.perform c).2 = r', r.opening? c = opening
    at performs other ⊢
  cases performs with
  | still => rfl
  | blocked room => exact room.contentAt_eq location
  | @opened id now dir path place entries w opened files opens turns =>
    have aside : location ≠ place := fun here => other id rfl (by simp [here])
    exact opens.contentAt_eq turns aside
  | @turned c number _ _ means turned =>
    refine sound.contentAt_turned turned fun id at_ => ?_
    have about := c.about?_of_number? means openings
    rw [at_] at about
    exact other id about (by simpa using List.mem_of_getElem? at_)
  | @released id number _ _ live closed =>
    refine (sound.forget id).contentAt_turned closed fun id' at_ => ?_
    obtain ⟨place, at_'⟩ := sound.live live
    obtain ⟨rfl, rfl⟩ : id = id' ∧ place = location := by simpa [at_] using at_'.symm
    exact other id rfl (by simpa using List.mem_of_getElem? at_)

theorem writer_step {h : Course} (sound : h.Sound first) (c : Command)
    (at_ : h.openings[number]? = some (id, location)) (other : c.about? h.openings ≠ some id) :
    (h.step c).registry.writers[number]? = h.registry.writers[number]? := by
  obtain ⟨r, openings, notices⟩ := h
  have less : number < r.writers.length := by
    rw [sound.length_eq]
    exact (List.getElem?_eq_some_iff.1 at_).1
  have performs := r.performs c
  unfold Course.step
  dsimp only
  generalize (r.perform c).1 = news, (r.perform c).2 = r', r.opening? c = opening at performs
  cases performs with
  | still | blocked => rfl
  | opened => exact List.getElem?_append_left less
  | @turned c n _ _ means turned =>
    refine turned.writer_eq fun same => other ?_
    subst same
    rw [c.about?_of_number? means, at_]
    rfl
  | @released id' n _ _ live closed =>
    refine closed.writer_eq fun same => other ?_
    subst same
    obtain ⟨place, at_'⟩ := sound.live live
    obtain ⟨rfl, -⟩ : id = id' ∧ location = place := by simpa [at_] using at_'
    rfl

end Course.Sound

theorem sound_course (dir : Option String) (vantage : Vantage) (files : FileSystem)
    (commands : List Command) :
    (course (.new dir vantage files) commands).Sound (.new dir vantage files) :=
  course_induction (P := fun _ h => h.Sound (.new dir vantage files)) _
    (.start dir vantage files) (fun _ c sound => sound.step c) commands

end Registry

end MessageTunnel.Trace
