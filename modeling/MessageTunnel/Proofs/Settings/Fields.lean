import Mathlib.Data.List.Nodup
import MessageTunnel.Proofs.Settings.Sharing
set_option autoImplicit false

namespace MessageTunnel.Settings

section

variable {α β : Type} {rest : List (String × α)} {key : String} {default b : β}
  {means means' : α → β → Prop}

def Says (entries : List (String × α)) (key : String) (default : β) (means : α → β → Prop)
    (b : β) : Prop :=
  match entries.lookup key with
  | none => b = default
  | some v => means v b

theorem says_of_lookup {entries : List (String × α)} {v : α} (found : entries.lookup key = some v) :
    Says entries key default means b ↔ means v b := by
  simp [Says, found]

theorem says_cons_self (key : String) (v : α) :
    Says ((key, v) :: rest) key default means b ↔ means v b := by
  simp [Says]

theorem says_cons_other {e : String × α} (other : e.1 ≠ key) :
    Says (e :: rest) key default means b ↔ Says rest key default means b := by
  obtain ⟨key', v⟩ := e
  have different : (key == key') = false := by simpa using other.symm
  simp [Says, List.lookup_cons, different]

theorem says_of_notMem (absent : key ∉ rest.map Prod.fst) :
    Says rest key default means b ↔ b = default := by
  have missing : rest.lookup key = none := by
    rw [List.lookup_eq_none_iff]
    intro e mem
    have : key ≠ e.1 := by
      rintro rfl
      exact absent (List.mem_map_of_mem mem)
    simpa using this
  simp [Says, missing]

theorem says_congr {entries : List (String × α)} (same : ∀ v, means v b ↔ means' v b) :
    Says entries key default means b ↔ Says entries key default means' b := by
  unfold Says
  split
  · rfl
  · exact same _

end

/-- A field: its key, how the value under the key is read, and where what is read is kept. -/
structure Field (α σ : Type) where
  {Value : Type}
  key : String
  read : α → Except Mismatch Value
  get : σ → Value
  set : Value → σ → σ

variable {α σ ρ : Type}

def Field.Given (f : Field α σ) (entries : List (String × α)) (base s : σ) : Prop :=
  Says entries f.key (f.get base) (fun v b => f.read v = .ok b) (f.get s)

/-- An entry reaches the field of its key, and no other; the fields and one more part are all that
there is. -/
structure Covers (fields : List (Field α σ)) (part : σ → ρ)
    (take : σ → String × α → Except Mismatch σ) : Prop where
  distinct : (fields.map Field.key).Nodup
  takes : ∀ f ∈ fields, ∀ s v, take s (f.key, v) = (f.set · s) <$> f.read v
  leaves : ∀ s e, e.1 ∉ fields.map Field.key → take s e = .ok s
  get_set : ∀ f ∈ fields, ∀ b s, f.get (f.set b s) = b
  get_set_other : ∀ f ∈ fields, ∀ g ∈ fields, f.key ≠ g.key → ∀ b s, f.get (g.set b s) = f.get s
  part_set : ∀ f ∈ fields, ∀ b s, part (f.set b s) = part s
  ext : ∀ s s', part s = part s' → (∀ f ∈ fields, f.get s = f.get s') → s = s'

theorem Covers.eq_of_key {fields : List (Field α σ)} {part : σ → ρ}
    {take : σ → String × α → Except Mismatch σ} (h : Covers fields part take) {f g : Field α σ}
    (hf : f ∈ fields) (hg : g ∈ fields) (same : f.key = g.key) : f = g :=
  List.inj_on_of_nodup_map h.distinct hf hg same

theorem Covers.foldlM_eq_ok_iff {fields : List (Field α σ)} {part : σ → ρ}
    {take : σ → String × α → Except Mismatch σ} (h : Covers fields part take)
    {entries : List (String × α)} (distinct : (entries.map Prod.fst).Nodup) (base s : σ) :
    entries.foldlM take base = .ok s ↔
      part s = part base ∧ ∀ f ∈ fields, f.Given entries base s := by
  induction entries generalizing base with
  | nil =>
    constructor
    · intro taken
      obtain rfl := Except.ok.inj taken
      exact ⟨rfl, fun f _ => rfl⟩
    · rintro ⟨same, given⟩
      exact congrArg Except.ok (h.ext base s same.symm fun f mem => (given f mem).symm)
  | cons e rest ih =>
    obtain ⟨absent, apart⟩ := List.nodup_cons.1 distinct
    by_cases known : e.1 ∈ fields.map Field.key
    · obtain ⟨key, v⟩ := e
      obtain ⟨f, mem, rfl⟩ := List.mem_map.1 known
      rw [List.foldlM_cons, h.takes f mem]
      cases read : f.read v with
      | error m =>
        refine iff_of_false nofun fun ⟨_, given⟩ => ?_
        have own : f.read v = .ok (f.get s) := (says_cons_self f.key v).1 (given f mem)
        simp [read] at own
      | ok b =>
        -- No later entry has this key, so the field keeps what it got.
        show rest.foldlM take (f.set b base) = .ok s ↔ _
        rw [ih apart, h.part_set f mem]
        refine and_congr_right fun _ => forall₂_congr fun g hg => ?_
        by_cases same : f.key = g.key
        · obtain rfl := h.eq_of_key mem hg same
          rw [Field.Given, Field.Given, says_of_notMem absent, says_cons_self, read,
            h.get_set f mem]
          exact ⟨fun here => here ▸ rfl, fun here => (Except.ok.inj here).symm⟩
        · rw [Field.Given, Field.Given, says_cons_other same,
            h.get_set_other g hg f mem (Ne.symm same)]
    · rw [List.foldlM_cons, h.leaves base e known]
      show rest.foldlM take base = .ok s ↔ _
      rw [ih apart]
      refine and_congr_right fun _ => forall₂_congr fun g hg => ?_
      have other : e.1 ≠ g.key := fun same => known (same ▸ List.mem_map_of_mem hg)
      rw [Field.Given, Field.Given, says_cons_other other]

section

variable [Format α]

def fields (place : Place) : List (Field α Settings) :=
  [⟨"enable_datagrams", asBoolean, Settings.datagrams, fun b s => { s with datagrams := b }⟩,
    ⟨"qlog_dir", optional asPath, Settings.traceDir, fun dir s => { s with traceDir := dir }⟩,
    ⟨"alpn", asString, Settings.alpn, fun name s => { s with alpn := name }⟩,
    ⟨"congestion_control", asCongestion place, Settings.congestion,
      fun c s => { s with congestion := c }⟩,
    ⟨"idle_timeout_ms", asUInt64, Settings.idleTimeout, fun n s => { s with idleTimeout := n }⟩,
    ⟨"keep_alive_ms", optional asUInt64, Settings.keepAlive, fun n s => { s with keepAlive := n }⟩,
    ⟨"initial_mtu", optional asUInt16, Settings.initialMtu, fun n s => { s with initialMtu := n }⟩]

theorem covers_fields (place : Place) :
    Covers (fields place) (fun _ : Settings => ()) (take (α := α) place) where
  distinct := show keys.Nodup by decide
  takes := by
    simp only [fields, List.forall_mem_cons]
    refine ⟨?_, ?_, ?_, ?_, ?_, ?_, ?_, by simp⟩ <;> intro s v <;> rfl
  leaves s e unknown := take_of_notMem_keys place s unknown
  get_set := by simp [fields]
  get_set_other := by simp [fields]
  part_set f mem b s := rfl
  ext := by
    rintro ⟨⟩ ⟨⟩ -
    simp [fields]

theorem ofEntries_eq_ok_iff {place : Place} {entries : List (String × α)}
    (distinct : (entries.map Prod.fst).Nodup) {s : Settings} :
    ofEntries place entries = .ok s ↔ ∀ f ∈ fields place, f.Given entries {} s := by
  rw [ofEntries, takeEach_eq_foldlM distinct (by simp),
    (covers_fields place).foldlM_eq_ok_iff distinct {} s]
  simp

end

def takeOwn (take? : σ → String × α → Option (Except Mismatch σ)) (c : σ) (e : String × α) :
    Except Mismatch σ := (take? c e).getD (.ok c)

variable {take? : σ → String × α → Option (Except Mismatch σ)} {own : List String}

theorem takeOwn_of_notMem (isSome : ∀ c e, (take? c e).isSome = own.contains e.1)
    {e : String × α} (other : e.1 ∉ own) (c : σ) : takeOwn take? c e = .ok c := by
  have nothing : take? c e = none := by
    rw [← Option.isNone_iff_eq_none, ← Option.not_isSome, isSome]
    simpa using other
  rw [takeOwn, nothing, Option.getD_none]

theorem separate_eq_map (isSome : ∀ c e, (take? c e).isSome = own.contains e.1) (start : σ)
    {entries : List (String × α)} (distinct : (entries.map Prod.fst).Nodup) :
    separate own take? start entries =
      (fun c => (c, entries.filter (isOther own))) <$> entries.foldlM (takeOwn take?) start := by
  rw [separate, takeEach_eq_foldlM distinct (by simp)]
  clear distinct
  suffices goesOn : ∀ kept : List (String × α), entries.foldlM (sortOut take?) (start, kept) =
      (fun c => (c, kept ++ entries.filter (isOther own))) <$>
        entries.foldlM (takeOwn take?) start from goesOn []
  induction entries generalizing start with
  | nil => exact fun kept => by simp [pure, Except.pure, Functor.map, Except.map]
  | cons e rest ih =>
    intro kept
    have known := isSome start e
    rw [List.foldlM_cons, List.foldlM_cons, sortOut, takeOwn]
    cases took : take? start e with
    | none =>
      have other : isOther own e = true := by
        simpa [isOther, took] using known
      have others := ih start (kept ++ [e])
      rw [List.append_assoc] at others
      rw [List.filter_cons_of_pos other]
      exact others
    | some taken =>
      have mine : ¬ isOther own e = true := by
        simpa [isOther, took] using known
      rw [List.filter_cons_of_neg mine]
      cases taken with
      | error m => rfl
      | ok c => exact ih c kept

section

variable [Format α] {ownFields : List (Field α σ)} {shared : σ → Settings}

theorem separate_eq_ok_iff (covers : Covers ownFields shared (takeOwn take?))
    (isSome : ∀ c e, (take? c e).isSome = own.contains e.1) (apart : ∀ key ∈ keys, key ∉ own)
    (put : σ → Settings → σ) (shared_put : ∀ c s, shared (put c s) = s)
    (get_put : ∀ f ∈ ownFields, ∀ c s, f.get (put c s) = f.get c)
    {entries : List (String × α)} (distinct : (entries.map Prod.fst).Nodup) (start c : σ) :
    (separate own take? start entries >>= fun (c, others) =>
        put c <$> ofEntries .amongOthers others) = .ok c ↔
      (∀ f ∈ ownFields, f.Given entries start c) ∧
        ∀ f ∈ fields .amongOthers, f.Given entries {} (shared c) := by
  have reads : ofEntries .amongOthers (entries.filter (isOther own)) =
      ofEntries .amongOthers entries :=
    ofEntries_filter .amongOthers entries fun e mem => by simp [isOther, apart e.1 mem]
  have taken := covers.foldlM_eq_ok_iff distinct start
  rw [separate_eq_map isSome start distinct, ← ofEntries_eq_ok_iff distinct]
  constructor
  · intro read
    cases fold : entries.foldlM (takeOwn take?) start with
    | error m => simp [fold, bind, Except.bind, Functor.map, Except.map] at read
    | ok c₀ =>
      cases found : ofEntries .amongOthers entries with
      | error m => simp [fold, reads, found, bind, Except.bind, Functor.map, Except.map] at read
      | ok s =>
        obtain rfl : put c₀ s = c := by
          simpa [fold, reads, found, bind, Except.bind, Functor.map, Except.map] using read
        refine ⟨fun f mem => ?_, by rw [shared_put]⟩
        have given := ((taken c₀).1 fold).2 f mem
        rwa [Field.Given, get_put f mem]
  · rintro ⟨given, found⟩
    have fold : entries.foldlM (takeOwn take?) start = .ok (put c (shared start)) :=
      (taken _).2 ⟨shared_put c _, fun f mem => by
        rw [Field.Given, get_put f mem]
        exact given f mem⟩
    have same : put (put c (shared start)) (shared c) = c := by
      refine covers.ext _ _ (shared_put _ _) fun f mem => ?_
      rw [get_put f mem, get_put f mem]
    simp [fold, reads, found, bind, Except.bind, Functor.map, Except.map, same]

end

end MessageTunnel.Settings

namespace MessageTunnel

open Settings

variable {α : Type} [Format α] {entries : List (String × α)}

def ClientSettings.fields : List (Field α ClientSettings) :=
  [⟨"remote", asString, remote, fun a c => { c with remote := a }⟩,
    ⟨"server_name", asString, serverName, fun name c => { c with serverName := name }⟩,
    ⟨"trusted_certificate", optional asPath, trustedCertificate,
      fun path c => { c with trustedCertificate := path }⟩]

theorem ClientSettings.isSome_take? (c : ClientSettings) (e : String × α) :
    (c.take? e).isSome = keys.contains e.1 := by
  obtain ⟨key, v⟩ := e
  unfold take?
  split <;> simp_all [keys]

theorem ClientSettings.covers_fields :
    Covers fields shared (takeOwn (α := α) take?) where
  distinct := show keys.Nodup by decide
  takes := by
    simp only [fields, List.forall_mem_cons]
    refine ⟨?_, ?_, ?_, by simp⟩ <;> intro s v <;> rfl
  leaves c e unknown := takeOwn_of_notMem isSome_take? unknown c
  get_set := by simp [fields]
  get_set_other := by simp [fields]
  part_set := by simp [fields]
  ext := by
    rintro ⟨⟩ ⟨⟩
    simp +contextual [fields]

theorem ClientSettings.ofEntries_eq_ok_iff (distinct : (entries.map Prod.fst).Nodup)
    {c : ClientSettings} : ofEntries entries = .ok c ↔
      (∀ f ∈ fields, f.Given entries {} c) ∧
        ∀ f ∈ Settings.fields .amongOthers, f.Given entries {} c.shared :=
  separate_eq_ok_iff covers_fields isSome_take? (by decide) (fun c s => { c with shared := s })
    (fun _ _ => rfl) (by simp [fields]) distinct {} c

def ServerSettings.fields : List (Field α ServerSettings) :=
  [⟨"bind", asString, bind, fun a c => { c with bind := a }⟩]

theorem ServerSettings.isSome_take? (c : ServerSettings) (e : String × α) :
    (c.take? e).isSome = keys.contains e.1 := by
  obtain ⟨key, v⟩ := e
  unfold take?
  split <;> simp_all [keys]

theorem ServerSettings.covers_fields :
    Covers fields shared (takeOwn (α := α) take?) where
  distinct := show keys.Nodup by decide
  takes := by
    simp only [fields, List.forall_mem_cons]
    exact ⟨fun s v => rfl, by simp⟩
  leaves c e unknown := takeOwn_of_notMem isSome_take? unknown c
  get_set := by simp [fields]
  get_set_other := by simp [fields]
  part_set := by simp [fields]
  ext := by
    rintro ⟨⟩ ⟨⟩
    simp +contextual [fields]

theorem ServerSettings.ofEntries_eq_ok_iff (distinct : (entries.map Prod.fst).Nodup)
    {c : ServerSettings} : ofEntries entries = .ok c ↔
      (∀ f ∈ fields, f.Given entries {} c) ∧
        ∀ f ∈ Settings.fields .amongOthers, f.Given entries {} c.shared :=
  separate_eq_ok_iff covers_fields isSome_take? (by decide) (fun c s => { c with shared := s })
    (fun _ _ => rfl) (by simp [fields]) distinct {} c

end MessageTunnel
