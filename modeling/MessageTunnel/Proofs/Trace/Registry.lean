import MessageTunnel.Proofs.Trace.Turns
import MessageTunnel.Trace.Registry
set_option autoImplicit false

namespace MessageTunnel.Trace

variable {id id' : ConnectionId} {dir : String} {number now : Nat} {location : Location}

def traceName (id : ConnectionId) : String := id.hex ++ ".qlog"

theorem traceName_injective (same : traceName id = traceName id') : id = id' := by
  have chars : id.hex.toList = id'.hex.toList := by
    simpa [traceName] using congrArg String.toList same
  exact ConnectionId.hex_injective (String.toList_inj.1 chars)

theorem mem_traceName {c : Char} (mem : c ∈ (traceName id).toList) :
    c ∈ "0123456789abcdef.qlog".toList := by
  have digit : ∀ n : Fin 16, Nat.digitChar n ∈ "0123456789abcdef.qlog".toList := by decide +kernel
  simp only [traceName, String.toList_append, List.mem_append] at mem
  obtain mem | mem := mem
  · obtain ⟨b, -, mem⟩ : ∃ b ∈ id.bytes, c ∈ Hex.ofByte b := by
      simpa [ConnectionId.hex, Hex.encode] using mem
    have less : b.toNat < 256 := b.toNat_lt
    obtain rfl | rfl : c = Nat.digitChar (b.toNat / 16) ∨ c = Nat.digitChar (b.toNat % 16) := by
      simpa [Hex.ofByte] using mem
    · exact digit ⟨b.toNat / 16, by omega⟩
    · exact digit ⟨b.toNat % 16, by omega⟩
  · have ending : ".qlog".toList.Sublist "0123456789abcdef.qlog".toList := by decide +kernel
    exact ending.subset mem

theorem slash_notMem_traceName (id : ConnectionId) : '/' ∉ (traceName id).toList := fun mem =>
  absurd (mem_traceName mem) (by decide +kernel)

theorem isPlain_traceName (id : ConnectionId) : FileSystem.IsPlain (traceName id) := by
  have long : 5 ≤ (traceName id).toList.length := by
    have tail : ".qlog".toList.length = 5 := by decide +kernel
    simp only [traceName, String.toList_append, List.length_append, tail]
    omega
  refine ⟨?_, ?_, ?_⟩ <;> intro same <;> rw [same] at long <;> revert long <;> decide +kernel

namespace Registry

variable {r r' : Registry} {notices : List Notice}

inductive Command where
  | writerFor (id : ConnectionId) (now : Nat)
  | release (id : ConnectionId)
  | record (number now : Nat) (event : TraceEvent)
  | close (number : Nat)

def Command.number? : Command → Option Nat
  | .record number _ _ | .close number => some number
  | .writerFor .. | .release _ => none

def perform (r : Registry) : Command → List Notice × Registry
  | .writerFor id now => (r.writerFor id now).2
  | .release id => r.release id
  | .record number now event => r.record number now event
  | .close number => r.close number

def CanOpen (files : FileSystem) (dir : String) (id : ConnectionId) : Prop :=
  ∃ ready handle opened, files.ensureDirectory dir = (ready, .ok ()) ∧
    ready.create (Path.join dir (traceName id)) = .ok (handle, opened)

structure Opens (r : Registry) (id : ConnectionId) (location : Location)
    (files : FileSystem) : Prop where
  fresh : r.live.lookup id = none
  opened : ∃ dir ready, r.dir = some dir ∧ r.files.ensureDirectory dir = (ready, .ok ()) ∧
    ready.create (Path.join dir (id.hex ++ ".qlog")) = .ok (⟨location, 0⟩, files)

theorem Opens.canOpen {files : FileSystem} (opens : r.Opens id location files)
    (on : r.dir = some dir) : CanOpen r.files dir id := by
  obtain ⟨dir', ready, on', ensured, created⟩ := opens.opened
  obtain rfl : dir = dir' := by simpa [on] using on'
  exact ⟨ready, _, files, ensured, created⟩

theorem Opens.contentAt_eq {w : Writer} {opened files : FileSystem} {place : Location}
    (opens : r.Opens id place opened)
    (turns : (Writer.fresh dir id now ⟨place, 0⟩).Turns opened w files) (aside : location ≠ place) :
    files.contentAt location = r.files.contentAt location := by
  obtain ⟨dir', ready, -, ensured, created⟩ := opens.opened
  have room := FileSystem.ensureDirectory_makesRoom r.files dir'
  rw [ensured] at room
  have before := (FileSystem.create_onlyAt created).contentAt_eq aside
  rw [room.contentAt_eq] at before
  rw [← before]
  obtain rfl | ⟨o, o', output, moves⟩ := turns.writes_own
  · rfl
  · obtain rfl := Option.some.inj output
    exact moves.only.contentAt_eq aside

def opening? (r : Registry) : Command → Option (ConnectionId × Location)
  | .writerFor id _ =>
    match r.dir, r.live.lookup id with
    | some dir, none =>
      match r.files.ensureDirectory dir with
      | (ready, .ok ()) =>
        match ready.create (Path.join dir (traceName id)) with
        | .ok (handle, _) => some (id, handle.location)
        | .error _ => none
      | (_, .error _) => none
    | _, _ => none
  | _ => none

inductive Refers (r : Registry) (id : ConnectionId) (now : Nat) :
    Option (ConnectionId × Location) → Except RegistryError (Option Nat) × List Notice × Registry →
      Prop where
  | disabled (off : r.dir = none) : Refers r id now none (.ok none, [], r)
  | found {dir : String} {number : Nat} (on : r.dir = some dir)
      (live : r.live.lookup id = some number) : Refers r id now none (.ok (some number), [], r)
  | blocked {dir : String} {e : RegistryError} {files : FileSystem} (on : r.dir = some dir)
      (absent : r.live.lookup id = none) (obstacle : ¬ CanOpen r.files dir id)
      (kind : (∃ cause, e = .createDirectory dir cause) ∨
        ∃ cause, e = .createFile (Path.join dir (traceName id)) cause)
      (room : r.files.MakesRoom files) :
      Refers r id now none (.error e, [], { r with files := files })
  | opened {dir : String} {location : Location} {entries : List Log.Entry} {w : Writer}
      {opened files : FileSystem} (on : r.dir = some dir) (opens : r.Opens id location opened)
      (turns : (Writer.fresh dir id now ⟨location, 0⟩).Turns opened w files) :
      Refers r id now (some (id, location)) (.ok (some r.writers.length),
        entries.map .logged ++ [.logged (.traceCreated w.path), .announced (traceName id)],
        { r with
          files := files, writers := r.writers ++ [w], live := (id, r.writers.length) :: r.live })

theorem refers (r : Registry) (id : ConnectionId) (now : Nat) :
    r.Refers id now (r.opening? (.writerFor id now)) (r.writerFor id now) := by
  obtain ⟨dir, vantage, before, writers, live⟩ := r
  unfold writerFor opening?
  dsimp only
  cases dir with
  | none => exact .disabled rfl
  | some dir =>
    cases known : live.lookup id with
    | some number => exact .found rfl known
    | none =>
      have room := FileSystem.ensureDirectory_makesRoom before dir
      dsimp only
      cases ensured : before.ensureDirectory dir with
      | mk ready result =>
        rw [ensured] at room
        cases result with
        | error e =>
          refine .blocked rfl known ?_ (.inl ⟨e, rfl⟩) room
          rintro ⟨ready', handle, opened, able, -⟩
          simp [ensured] at able
        | ok =>
          unfold Writer.create
          rw [traceName]
          dsimp only
          cases created : ready.create (Path.join dir (id.hex ++ ".qlog")) with
          | error e =>
            dsimp only
            refine .blocked rfl known ?_ (.inr ⟨e, rfl⟩) room
            rintro ⟨ready', handle, opened, able, made⟩
            obtain rfl : ready = ready' := by simpa [ensured] using able
            simp [traceName, created] at made
          | ok created' =>
            obtain ⟨handle, opened⟩ := created'
            obtain ⟨-, location, -, -, rfl, -⟩ := FileSystem.create_cases created
            have turns := (Writer.fresh dir id now ⟨location, 0⟩).append_turns opened
              (header vantage id)
            dsimp only
            rw [← Writer.fresh]
            cases appended : (Writer.fresh dir id now ⟨location, 0⟩).append opened
              (header vantage id) with
            | mk entries after =>
              obtain ⟨w, files⟩ := after
              rw [appended] at turns
              have named : w.fileName = traceName id := turns.fileName_eq
              simp only [named]
              exact .opened rfl ⟨known, dir, ready, rfl, ensured, created⟩ turns

inductive Turned (r : Registry) (number : Nat) : List Notice → Registry → Prop where
  | missing (unknown : r.writers[number]? = none) : Turned r number [] r
  | turned {w w' : Writer} {files : FileSystem} {entries : List Log.Entry}
      (stored : r.writers[number]? = some w) (turns : w.Turns r.files w' files) :
      Turned r number (entries.map .logged)
        { r with writers := r.writers.set number w', files := files }

theorem turned_record (r : Registry) (number now : Nat) (event : TraceEvent) :
    r.Turned number (r.record number now event).1 (r.record number now event).2 := by
  unfold record writer?
  cases stored : r.writers[number]? with
  | none => exact .missing stored
  | some w => exact .turned stored (w.append_turns r.files _)

theorem turned_close (r : Registry) (number : Nat) :
    r.Turned number (r.close number).1 (r.close number).2 := by
  unfold close writer?
  cases stored : r.writers[number]? with
  | none => exact .missing stored
  | some w => exact .turned stored (w.close_turns r.files).1

def forget (r : Registry) (id : ConnectionId) : Registry :=
  { r with live := r.live.filter fun e => e.1 ≠ id }

theorem release_eq (r : Registry) (id : ConnectionId) :
    r.release id = match r.live.lookup id with
      | none => ([], r)
      | some number => (r.forget id).close number := rfl

theorem lookup_filter (live : List (ConnectionId × Nat)) (id other : ConnectionId) :
    (live.filter fun e => e.1 ≠ id).lookup other =
      if other = id then none else live.lookup other := by
  induction live with
  | nil => simp
  | cons e rest ih =>
    obtain ⟨of, number⟩ := e
    by_cases same : of = id
    · subst same
      by_cases here : other = of
      · simpa [here] using ih
      · have aside : (other == of) = false := by simpa using here
        simpa [here, List.lookup_cons, aside] using ih
    · by_cases here : other = of
      · subst here
        simp [same]
      · have aside : (other == of) = false := by simpa using here
        simpa [same, List.lookup_cons, aside] using ih

theorem Turned.live_eq (turned : r.Turned number notices r') : r'.live = r.live := by
  cases turned <;> rfl

theorem Turned.dir_eq (turned : r.Turned number notices r') : r'.dir = r.dir := by
  cases turned <;> rfl

theorem Turned.writer_eq {other : Nat} (turned : r.Turned number notices r')
    (aside : number ≠ other) : r'.writers[other]? = r.writers[other]? := by
  cases turned with
  | missing => rfl
  | turned => exact List.getElem?_set_ne aside

/-- What any command comes to: the file that it opens, what it makes known, and the registry then. -/
inductive Performs (r : Registry) :
    Command → Option (ConnectionId × Location) → List Notice → Registry → Prop where
  | still {c : Command} : Performs r c none [] r
  | blocked {id : ConnectionId} {now : Nat} {files : FileSystem} (room : r.files.MakesRoom files) :
      Performs r (.writerFor id now) none [] { r with files := files }
  | opened {id : ConnectionId} {now : Nat} {dir path : String} {location : Location}
      {entries : List Log.Entry} {w : Writer} {opened files : FileSystem}
      (opens : r.Opens id location opened)
      (turns : (Writer.fresh dir id now ⟨location, 0⟩).Turns opened w files) :
      Performs r (.writerFor id now) (some (id, location))
        (entries.map .logged ++ [.logged (.traceCreated path), .announced (traceName id)])
        { r with
          files := files, writers := r.writers ++ [w], live := (id, r.writers.length) :: r.live }
  | turned {c : Command} {number : Nat} {notices : List Notice} {r' : Registry}
      (means : c.number? = some number) (turned : r.Turned number notices r') :
      Performs r c none notices r'
  | released {id : ConnectionId} {number : Nat} {notices : List Notice} {r' : Registry}
      (live : r.live.lookup id = some number) (closed : (r.forget id).Turned number notices r') :
      Performs r (.release id) none notices r'

theorem performs (r : Registry) (c : Command) :
    r.Performs c (r.opening? c) (r.perform c).1 (r.perform c).2 := by
  cases c with
  | writerFor id now =>
    have refers := r.refers id now
    unfold perform
    dsimp only
    generalize r.writerFor id now = outcome, r.opening? (.writerFor id now) = opening at refers
    cases refers with
    | disabled | found => exact .still
    | blocked _ _ _ _ room => exact .blocked room
    | opened _ opens turns => exact .opened opens turns
  | release id =>
    unfold perform opening?
    dsimp only
    rw [release_eq]
    cases live : r.live.lookup id with
    | none => exact .still
    | some number => exact .released live ((r.forget id).turned_close number)
  | record number now event => exact .turned rfl (r.turned_record number now event)
  | close number => exact .turned rfl (r.turned_close number)

/-- The entry of a connection is only changed by its release and by a reference that finds none. -/
theorem lookup_perform (r : Registry) (c : Command) (id : ConnectionId) :
    (r.perform c).2.live.lookup id = r.live.lookup id ∨ c = .release id ∨
      (∃ now, c = .writerFor id now) ∧ r.live.lookup id = none := by
  have performs := r.performs c
  generalize (r.perform c).1 = notices, (r.perform c).2 = r', r.opening? c = opening at performs
  cases performs with
  | still | blocked => exact .inl rfl
  | @opened other now _ _ _ _ _ _ _ opens =>
    by_cases same : id = other
    · subst same
      exact .inr (.inr ⟨⟨now, rfl⟩, opens.fresh⟩)
    · have aside : (id == other) = false := by simpa using same
      exact .inl (by simp [List.lookup_cons, aside])
  | turned _ turned => exact .inl (congrArg (List.lookup id) turned.live_eq)
  | @released other _ _ _ _ closed =>
    rw [closed.live_eq, forget, lookup_filter]
    by_cases same : id = other
    · exact .inr (.inl (by rw [same]))
    · exact .inl (if_neg same)

theorem dir_perform (r : Registry) (c : Command) : (r.perform c).2.dir = r.dir := by
  have performs := r.performs c
  generalize (r.perform c).1 = notices, (r.perform c).2 = r', r.opening? c = opening at performs
  cases performs with
  | still | blocked | opened => rfl
  | turned _ turned => exact turned.dir_eq
  | released _ closed => exact closed.dir_eq

end Registry

end MessageTunnel.Trace
