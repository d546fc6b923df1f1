import Mathlib.Data.List.Nodup
import MessageTunnel.Toml.Document
/-!
A document key by key. Each of its statements is about one key of the root: it reads and writes what
is under that key, and nothing else. So what a document says under a key is decided by the
statements about the key, in their order, however those about other keys stand between them.
-/
set_option autoImplicit false

namespace MessageTunnel.Toml

structure Updated (key : String) (v : Toml) (entries entries' : Entries) : Prop where
  here : entries'.lookup key = some v
  elsewhere : ∀ other, other ≠ key → entries'.lookup other = entries.lookup other
  distinct : (entries.map Prod.fst).Nodup → (entries'.map Prod.fst).Nodup

section

variable {asked key : String} {v : Toml} {entries : Entries}

theorem lookup_cons_ite (asked key : String) (v : Toml) (rest : Entries) :
    ((key, v) :: rest : Entries).lookup asked =
      if asked = key then some v else rest.lookup asked := by
  by_cases same : asked = key
  · simp [same]
  · have different : (asked == key) = false := by simpa using same
    simp [List.lookup_cons, same, different]

theorem notMem_of_lookup_eq_none (absent : entries.lookup key = none) :
    key ∉ entries.map Prod.fst := by
  intro mem
  obtain ⟨e, found, rfl⟩ := List.mem_map.1 mem
  simpa using List.lookup_eq_none_iff.1 absent e found

theorem Updated.append (absent : entries.lookup key = none) (v : Toml) :
    Updated key v entries (entries ++ [(key, v)]) where
  here := by simp [List.lookup_append, absent]
  elsewhere other different := by simp [List.lookup_append, lookup_cons_ite, different]
  distinct apart := by
    rw [List.map_append, List.map_singleton, ← List.concat_eq_append]
    exact apart.concat (notMem_of_lookup_eq_none absent)

theorem lookup_setEntry (asked key : String) (v : Toml) (entries : Entries) :
    (setEntry key v entries).lookup asked =
      if asked = key then (entries.lookup key).map fun _ => v else entries.lookup asked := by
  induction entries with
  | nil => simp [setEntry]
  | cons e rest ih =>
    obtain ⟨key', w⟩ := e
    rw [setEntry] at ih ⊢
    rw [List.map_cons]
    by_cases here : key' = key
    · subst here
      by_cases same : asked = key' <;> simp_all [lookup_cons_ite]
    · by_cases same : asked = key
      · subst same
        simp_all [lookup_cons_ite, Ne.symm here]
      · simp_all [lookup_cons_ite]

theorem Updated.setEntry {w : Toml} (found : entries.lookup key = some w) (v : Toml) :
    Updated key v entries (setEntry key v entries) where
  here := by simp [lookup_setEntry, found]
  elsewhere other different := by simp [lookup_setEntry, different]
  distinct apart := by
    have same : (Toml.setEntry key v entries).map Prod.fst = entries.map Prod.fst := by
      rw [Toml.setEntry, List.map_map]
      refine List.map_congr_left fun e _ => ?_
      by_cases here : e.1 = key <;> simp [here]
    rwa [same]

theorem lookup_filter_self (key : String) (entries : Entries) :
    (entries.filter fun e => e.1 ≠ key).lookup key = none := by
  rw [List.lookup_eq_none_iff]
  intro e mem
  have other : e.1 ≠ key := by simpa using (List.mem_filter.1 mem).2
  simpa using other.symm

theorem lookup_filter_other (different : asked ≠ key) :
    (entries.filter fun e => e.1 ≠ key).lookup asked = entries.lookup asked := by
  induction entries with
  | nil => rfl
  | cons e rest ih =>
    obtain ⟨key', w⟩ := e
    rw [List.filter_cons]
    by_cases here : key' = key
    · simp [here, different, lookup_cons_ite, ← ih]
    · simp [here, lookup_cons_ite, ← ih]

theorem Updated.move (v : Toml) :
    Updated key v entries (entries.filter (fun e => e.1 ≠ key) ++ [(key, v)]) := by
  obtain ⟨here, elsewhere, distinct⟩ := Updated.append (lookup_filter_self key entries) v
  exact ⟨here, fun other different =>
    (elsewhere other different).trans (lookup_filter_other different),
    fun apart => distinct (apart.sublist (List.filter_sublist.map _))⟩

end

/-- A change that reads and writes one key: what is under it decides what will be. -/
def ActsAt (key : String) (change : Entries → Option Entries)
    (next : Option Toml → Option Toml) : Prop :=
  ∀ entries, Option.Rel (fun entries' v => Updated key v entries entries') (change entries)
    (next (entries.lookup key))

theorem ActsAt.twin {key : String} {change : Entries → Option Entries}
    {next : Option Toml → Option Toml} (acts : ActsAt key change next)
    {entries entries' twin : Entries} (same : entries.lookup key = twin.lookup key)
    (done : change entries = some entries') : ∃ v twin', change twin = some twin' ∧
      Updated key v entries entries' ∧ Updated key v twin twin' := by
  have here := acts entries
  have there := acts twin
  rw [done, same] at here
  cases slot : next (twin.lookup key) with
  | none =>
    rw [slot] at here
    contradiction
  | some v =>
    rw [slot] at here there
    cases made : change twin with
    | none =>
      rw [made] at there
      contradiction
    | some twin' =>
      rw [made] at there
      obtain ⟨updated⟩ := here
      obtain ⟨updated'⟩ := there
      exact ⟨v, twin', rfl, updated, updated'⟩

def goOn (dots : Bool) (change : Origin → Entries → Option Entries) (path : List String) :
    Option Toml → Option Toml
  | none =>
    let origin := if dots then Origin.dots else .outerHeader
    (within dots change path origin []).map (.table origin)
  | some (.table origin inner) =>
    if origin = .braces ∨ dots ∧ origin = .header then none
    else (within dots change path origin inner).map (.table origin)
  | some (.tables items) =>
    (items.getLast?.bind (within dots change path .header)).map
      fun inner => .tables (items.dropLast ++ [inner])
  | some _ => none

theorem actsAt_within (dots : Bool) (change : Origin → Entries → Option Entries) (key : String)
    (path : List String) (origin : Origin) :
    ActsAt key (within dots change (key :: path) origin) (goOn dots change path) := by
  intro entries
  rw [within]
  cases found : entries.lookup key with
  | none =>
    simp only [goOn]
    cases within dots change path (if dots then Origin.dots else .outerHeader) [] with
    | none => exact .none
    | some inner => exact .some (.append found _)
  | some v =>
    cases v with
    | table origin inner =>
      simp only [goOn]
      split
      · exact .none
      · cases within dots change path origin inner with
        | none => exact .none
        | some inner => exact .some (.setEntry found _)
    | tables items =>
      simp only [goOn]
      cases items.getLast? with
      | none => exact .none
      | some last =>
        show Option.Rel _ (within dots change path .header last >>= _)
          ((within dots change path .header last).map _)
        cases within dots change path .header last with
        | none => exact .none
        | some inner => exact .some (.setEntry found _)
    | _ => exact .none

def newEntry (value : Toml) : Option Toml → Option Toml
  | none => some value
  | some _ => none

theorem actsAt_addEntry (key : String) (path : List String) (value : Toml) :
    ∃ next, ActsAt key (addEntry (key :: path) value .header) next := by
  cases path with
  | nil =>
    refine ⟨newEntry value, fun entries => ?_⟩
    have direct : addEntry [key] value .header entries =
        if (entries.lookup key).isSome then none else some (entries ++ [(key, value)]) :=
      if_congr (by simp) rfl rfl
    rw [direct]
    cases found : entries.lookup key with
    | none => exact .some (.append found value)
    | some v => exact .none
  | cons second rest =>
    obtain ⟨last, ends⟩ : ∃ last, (key :: second :: rest).getLast? = some last :=
      ⟨_, List.getLast?_eq_some_getLast (List.cons_ne_nil key _)⟩
    have change : addEntry (key :: second :: rest) value .header =
        within true (fun origin entries =>
          if (origin = .dots) = ((key :: second :: rest).length = 1) ∨
            (entries.lookup last).isSome then none
          else some (entries ++ [(last, value)])) (key :: (second :: rest).dropLast) .header := by
      funext entries
      rw [addEntry, ends]
      rfl
    rw [change]
    exact ⟨_, actsAt_within true _ key _ .header⟩

def begun : Option Toml → Option Toml
  | none => some (.table .header [])
  | some (.table .outerHeader inner) => some (.table .header inner)
  | some _ => none

theorem actsAt_beginTable (key : String) : ActsAt key (beginTable key) begun := by
  intro entries
  unfold beginTable begun
  cases found : entries.lookup key with
  | none => exact .some (.append found _)
  | some v =>
    cases v with
    | table origin inner =>
      cases origin with
      | outerHeader => exact .some (.move _)
      | _ => exact .none
    | _ => exact .none

def begunNext : Option Toml → Option Toml
  | none => some (.tables [[]])
  | some (.tables items) => some (.tables (items ++ [[]]))
  | some _ => none

theorem actsAt_beginNext (key : String) : ActsAt key (beginNext key) begunNext := by
  intro entries
  unfold beginNext begunNext
  cases found : entries.lookup key with
  | none => exact .some (.append found _)
  | some v =>
    cases v with
    | tables items => exact .some (.setEntry found _)
    | _ => exact .none

structure Placed where
  place : List String
  statement : Statement

def Placed.root? (p : Placed) : Option String :=
  match p.statement with
  | .entry path _ => (p.place ++ path).head?
  | .header path | .nextHeader path => path.head?

def Statement.opens (place : List String) : Statement → List String
  | .entry .. => place
  | .header path | .nextHeader path => path

def placed : List String → List Statement → List Placed
  | _, [] => []
  | place, s :: rest => ⟨place, s⟩ :: placed (s.opens place) rest

def beginAt (begun : String → Entries → Option Entries) (path : List String)
    (entries : Entries) : Option Entries := do
  let key ← path.getLast?
  within false (fun _ => begun key) path.dropLast .header entries

def Placed.add (p : Placed) : Entries → Option Entries :=
  match p.statement with
  | .entry path value => within false (addEntry path value) p.place .header
  | .header path => beginAt beginTable path
  | .nextHeader path => beginAt beginNext path

def run (entries : Entries) (parts : List Placed) : Option Entries :=
  parts.foldlM (fun entries p => p.add entries) entries

theorem beginAt_map (begun : String → Entries → Option Entries) (path : List String)
    (entries : Entries) :
    (do let key ← path.getLast?
        let entries ← within false (fun _ => begun key) path.dropLast .header entries
        return (⟨entries, path⟩ : Draft)) =
      (beginAt begun path entries).map fun entries => ⟨entries, path⟩ := by
  rw [beginAt]
  cases path.getLast? with
  | none => rfl
  | some key =>
    show (within false _ path.dropLast .header entries >>= _) =
      (within false _ path.dropLast .header entries).map _
    cases within false (fun _ => begun key) path.dropLast .header entries <;> rfl

theorem add_eq_map (d : Draft) (s : Statement) : d.add s =
    (Placed.add ⟨d.here, s⟩ d.entries).map fun entries => ⟨entries, s.opens d.here⟩ := by
  cases s with
  | entry path value =>
    show (within false (addEntry path value) d.here .header d.entries >>= _) =
      (within false (addEntry path value) d.here .header d.entries).map _
    cases within false (addEntry path value) d.here .header d.entries <;> rfl
  | header path => exact beginAt_map beginTable path d.entries
  | nextHeader path => exact beginAt_map beginNext path d.entries

theorem run_placed (d : Draft) (statements : List Statement) :
    run d.entries (placed d.here statements) =
      (statements.foldlM Draft.add d).map Draft.entries := by
  induction statements generalizing d with
  | nil => rfl
  | cons s rest ih =>
    rw [List.foldlM_cons, add_eq_map]
    show (Placed.add ⟨d.here, s⟩ d.entries >>= fun entries => run entries _) = _
    cases Placed.add ⟨d.here, s⟩ d.entries with
    | none => rfl
    | some entries => exact ih ⟨entries, s.opens d.here⟩

theorem ofStatements_eq (statements : List Statement) :
    ofStatements statements = run [] (placed [] statements) := by
  rw [run_placed ⟨[], []⟩]
  show (statements.foldlM Draft.add ⟨[], []⟩ >>= _) = _
  cases statements.foldlM Draft.add ⟨[], []⟩ <;> rfl

theorem actsAt_beginAt {begun : String → Entries → Option Entries}
    (acts : ∀ key, ∃ next, ActsAt key (begun key) next) (key : String) (path : List String) :
    ∃ next, ActsAt key (beginAt begun (key :: path)) next := by
  cases path with
  | nil => exact acts key
  | cons second rest =>
    obtain ⟨last, ends⟩ : ∃ last, (key :: second :: rest).getLast? = some last :=
      ⟨_, List.getLast?_eq_some_getLast (List.cons_ne_nil key _)⟩
    have change : beginAt begun (key :: second :: rest) =
        within false (fun _ => begun last) (key :: (second :: rest).dropLast) .header := by
      funext entries
      rw [beginAt, ends]
      rfl
    rw [change]
    exact ⟨_, actsAt_within false _ key _ .header⟩

theorem Placed.actsAt {p : Placed} {key : String} (root : p.root? = some key) :
    ∃ next, ActsAt key p.add next := by
  obtain ⟨place, s⟩ := p
  cases s with
  | entry path value =>
    cases place with
    | nil =>
      cases path with
      | nil => contradiction
      | cons first rest =>
        obtain rfl : first = key := Option.some.inj root
        exact actsAt_addEntry first rest value
    | cons first rest =>
      obtain rfl : first = key := Option.some.inj root
      exact ⟨_, actsAt_within false _ first rest .header⟩
  | header path =>
    cases path with
    | nil => contradiction
    | cons first rest =>
      obtain rfl : first = key := Option.some.inj root
      exact actsAt_beginAt (fun key => ⟨_, actsAt_beginTable key⟩) first rest
  | nextHeader path =>
    cases path with
    | nil => contradiction
    | cons first rest =>
      obtain rfl : first = key := Option.some.inj root
      exact actsAt_beginAt (fun key => ⟨_, actsAt_beginNext key⟩) first rest

theorem Placed.add_eq_none {p : Placed} (rootless : p.root? = none) (entries : Entries) :
    p.add entries = none := by
  obtain ⟨place, s⟩ := p
  cases s with
  | entry path value =>
    obtain ⟨rfl, rfl⟩ : place = [] ∧ path = [] := by simpa [root?] using rootless
    rfl
  | header path =>
    obtain rfl : path = [] := by simpa [root?] using rootless
    rfl
  | nextHeader path =>
    obtain rfl : path = [] := by simpa [root?] using rootless
    rfl

def about (key : String) (parts : List Placed) : List Placed :=
  parts.filter fun p => p.root? = some key

theorem about_cons_self {p : Placed} {key : String} (root : p.root? = some key)
    (rest : List Placed) : about key (p :: rest) = p :: about key rest :=
  List.filter_cons_of_pos (by simpa using root)

theorem about_cons_other {p : Placed} {key other : String} (root : p.root? = some other)
    (different : other ≠ key) (rest : List Placed) : about key (p :: rest) = about key rest :=
  List.filter_cons_of_neg (by simpa [root] using different)

theorem about_append (key : String) (parts parts' : List Placed) :
    about key (parts ++ parts') = about key parts ++ about key parts' :=
  List.filter_append parts parts'

theorem about_eq_nil {key : String} {parts : List Placed}
    (others : ∀ p ∈ parts, p.root? ≠ some key) : about key parts = [] :=
  List.filter_eq_nil_iff.2 (by simpa using others)

theorem run_cons_eq_some {p : Placed} {rest : List Placed} {entries entries' : Entries}
    (ran : run entries (p :: rest) = some entries') :
    ∃ mid, p.add entries = some mid ∧ run mid rest = some entries' := by
  rw [run, List.foldlM_cons] at ran
  exact Option.bind_eq_some_iff.1 ran

theorem run_cons_of_add {p : Placed} {entries mid : Entries} (added : p.add entries = some mid)
    (rest : List Placed) : run entries (p :: rest) = run mid rest := by
  rw [run, List.foldlM_cons, added]
  rfl

section

variable {parts parts' : List Placed} {key : String} {entries entries' twin : Entries}

theorem rooted_of_run (ran : run entries parts = some entries') :
    ∀ p ∈ parts, ∃ key, p.root? = some key := by
  induction parts generalizing entries with
  | nil => simp
  | cons p rest ih =>
    obtain ⟨mid, added, goes⟩ := run_cons_eq_some ran
    rw [List.forall_mem_cons]
    refine ⟨?_, ih goes⟩
    cases root : p.root? with
    | none => simp [Placed.add_eq_none root] at added
    | some key => exact ⟨key, rfl⟩

theorem nodup_of_run (ran : run entries parts = some entries')
    (distinct : (entries.map Prod.fst).Nodup) : (entries'.map Prod.fst).Nodup := by
  induction parts generalizing entries with
  | nil =>
    obtain rfl := Option.some.inj ran
    exact distinct
  | cons p rest ih =>
    obtain ⟨key, root⟩ := rooted_of_run ran p List.mem_cons_self
    obtain ⟨mid, added, goes⟩ := run_cons_eq_some ran
    obtain ⟨next, acts⟩ := Placed.actsAt root
    obtain ⟨v, _, _, updated, _⟩ := acts.twin rfl added
    exact ih goes (updated.distinct distinct)

/-- What is under a key comes from the statements about it. -/
theorem run_about (key : String) (ran : run entries parts = some entries')
    (same : twin.lookup key = entries.lookup key) :
    ∃ twin', run twin (about key parts) = some twin' ∧
      twin'.lookup key = entries'.lookup key := by
  induction parts generalizing entries twin with
  | nil =>
    obtain rfl := Option.some.inj ran
    exact ⟨twin, rfl, same⟩
  | cons p rest ih =>
    obtain ⟨root, about_root⟩ := rooted_of_run ran p List.mem_cons_self
    obtain ⟨mid, added, goes⟩ := run_cons_eq_some ran
    obtain ⟨next, acts⟩ := Placed.actsAt about_root
    -- The twin takes the statements about the key only. Both have the same there after each of
    -- them, and all others leave the key alone.
    by_cases here : root = key
    · subst here
      obtain ⟨v, twin', added', updated, updated'⟩ := acts.twin same.symm added
      rw [about_cons_self about_root, run_cons_of_add added']
      exact ih goes (updated'.here.trans updated.here.symm)
    · obtain ⟨v, _, _, updated, _⟩ := acts.twin rfl added
      rw [about_cons_other about_root here]
      exact ih goes (same.trans (updated.elsewhere key (Ne.symm here)).symm)

theorem exists_run (rooted : ∀ p ∈ parts, ∃ key, p.root? = some key)
    (each : ∀ key, ∃ twin twin', twin.lookup key = entries.lookup key ∧
      run twin (about key parts) = some twin') :
    ∃ entries', run entries parts = some entries' := by
  induction parts generalizing entries with
  | nil => exact ⟨entries, rfl⟩
  | cons p rest ih =>
    obtain ⟨⟨root, about_root⟩, rooted⟩ := List.forall_mem_cons.1 rooted
    obtain ⟨next, acts⟩ := Placed.actsAt about_root
    obtain ⟨twin, twin', same, ran⟩ := each root
    rw [about_cons_self about_root] at ran
    obtain ⟨mid', added', goes⟩ := run_cons_eq_some ran
    -- The run for the key of this statement shows that it can be added here too.
    obtain ⟨v, mid, added, updated', updated⟩ := acts.twin same added'
    rw [run_cons_of_add added]
    refine ih rooted fun key => ?_
    by_cases here : root = key
    · subst here
      exact ⟨mid', twin', updated'.here.trans updated.here.symm, goes⟩
    · obtain ⟨twin, twin', same, ran⟩ := each key
      rw [about_cons_other about_root here] at ran
      exact ⟨twin, twin', same.trans (updated.elsewhere key (Ne.symm here)).symm, ran⟩

end

def parts? (document : String) : Option (List Placed) := do
  let cs := skipMark document.toList
  return placed [] (← statements (cs.length + 1) cs)

theorem parse_eq (document : String) : parse document = parts? document >>= run [] := by
  show (statements _ _ >>= ofStatements) = (statements _ _ >>= _) >>= run []
  cases statements _ (skipMark document.toList) with
  | none => rfl
  | some read => exact ofStatements_eq read

theorem nodup_of_parse {document : String} {entries : Entries}
    (parsed : parse document = some entries) : (entries.map Prod.fst).Nodup := by
  rw [parse_eq] at parsed
  obtain ⟨parts, _, ran⟩ := Option.bind_eq_some_iff.1 parsed
  exact nodup_of_run ran List.nodup_nil

section

variable {document document' : String} {parts parts' : List Placed} {entries entries' : Entries}

theorem lookup_congr {key : String} (reads : parts? document = some parts)
    (reads' : parts? document' = some parts') (same : about key parts' = about key parts)
    (parsed : parse document = some entries) (parsed' : parse document' = some entries') :
    entries'.lookup key = entries.lookup key := by
  rw [parse_eq, reads] at parsed
  rw [parse_eq, reads'] at parsed'
  obtain ⟨found, ran, eq⟩ := run_about key parsed rfl
  obtain ⟨found', ran', eq'⟩ := run_about key parsed' rfl
  rw [same, ran] at ran'
  obtain rfl := Option.some.inj ran'
  exact eq'.symm.trans eq

/-- The same statements, those about each key in the same order. -/
structure Rearranged (parts parts' : List Placed) : Prop where
  all : parts'.Perm parts
  each : ∀ key, about key parts' = about key parts

/-- Neighbouring statements about different keys can change places. -/
theorem Rearranged.swap {before these those after : List Placed}
    (apart : ∀ p ∈ these, ∀ q ∈ those, p.root? ≠ q.root?) :
    Rearranged (before ++ (these ++ those) ++ after) (before ++ (those ++ these) ++ after) where
  all := (List.perm_append_comm.append_left before).append_right after
  each key := by
    have between : about key (those ++ these) = about key (these ++ those) := by
      rw [about_append, about_append]
      by_cases mine : ∃ p ∈ these, p.root? = some key
      · obtain ⟨p, mem, root⟩ := mine
        have nothing : about key those = [] :=
          about_eq_nil fun q mem' same => apart p mem q mem' (root.trans same.symm)
        rw [nothing, List.nil_append, List.append_nil]
      · have nothing : about key these = [] := about_eq_nil fun p mem root => mine ⟨p, mem, root⟩
        rw [nothing, List.nil_append, List.append_nil]
    rw [about_append, about_append, between, ← about_append, ← about_append]

theorem Rearranged.exists_parse (reads : parts? document = some parts)
    (reads' : parts? document' = some parts') (same : Rearranged parts parts')
    (parsed : parse document = some entries) :
    ∃ entries', parse document' = some entries' := by
  rw [parse_eq, reads] at parsed
  rw [parse_eq, reads']
  refine exists_run (fun p mem => rooted_of_run parsed p (same.all.mem_iff.1 mem)) fun key => ?_
  obtain ⟨found, ran, _⟩ := run_about key parsed rfl
  exact ⟨[], found, rfl, by rw [same.each, ran]⟩

end

end MessageTunnel.Toml
