import MessageTunnel.Settings.Load
set_option autoImplicit false

namespace MessageTunnel.Settings

variable {σ : Type} {read : Toml.Entries → Except Mismatch σ} {shared : σ → Settings}
  {document : String} {entries : Toml.Entries}

theorem load_malformed (parsed : Toml.parse document = none) :
    load read shared document = .error .malformed := by
  rw [load, parsed]
  rfl

theorem load_mismatch {m : Mismatch} (parsed : Toml.parse document = some entries)
    (found : read entries = .error m) : load read shared document = .error (.mismatch m) := by
  rw [load, parsed]
  dsimp only
  rw [found]
  rfl

theorem load_read {c : σ} (parsed : Toml.parse document = some entries)
    (found : read entries = .ok c) : load read shared document =
      match (shared c).check with
      | .error f => .error (.fault f)
      | .ok () => .ok c := by
  rw [load, parsed]
  dsimp only
  rw [found]
  show ((shared c).check.mapError SettingsError.fault >>= fun _ => .ok c) = _
  cases (shared c).check <;> rfl

theorem load_eq_ok_iff {c : σ} : load read shared document = .ok c ↔
    ∃ entries, Toml.parse document = some entries ∧ read entries = .ok c ∧
      (shared c).check = .ok () := by
  constructor
  · intro loaded
    cases parsed : Toml.parse document with
    | none => simp [load_malformed parsed] at loaded
    | some entries =>
      cases found : read entries with
      | error m => simp [load_mismatch parsed found] at loaded
      | ok c' =>
        rw [load_read parsed found] at loaded
        cases fault : (shared c').check with
        | error f => simp [fault] at loaded
        | ok =>
          obtain rfl : c' = c := by simpa [fault] using loaded
          exact ⟨entries, rfl, found, fault⟩
  · rintro ⟨entries, parsed, found, passed⟩
    rw [load_read parsed found, passed]

theorem check_of_load {c : σ} (loaded : load read shared document = .ok c) :
    (shared c).check = .ok () := by
  obtain ⟨_, _, _, passed⟩ := load_eq_ok_iff.1 loaded
  exact passed

variable {s : Settings}

theorem leastMtu_le_of_check (checked : s.check = .ok ()) {mtu : UInt16}
    (set : s.initialMtu = some mtu) : leastMtu ≤ mtu := by
  unfold check at checked
  split at checked
  · contradiction
  · rw [set] at checked
    refine UInt16.not_lt.1 fun small => ?_
    simp [small] at checked

theorem leastMtu_le_initialMtu? (checked : s.check = .ok ()) {mtu : UInt16}
    (planned : s.initialMtu? = some mtu) : leastMtu ≤ mtu := by
  unfold initialMtu? at planned
  cases set : s.initialMtu with
  | some given =>
    obtain rfl : given = mtu := by simpa [set] using planned
    exact leastMtu_le_of_check checked set
  | none =>
    have unset : (if s.datagrams then some datagramMtu else none) = some mtu := by
      simpa [set] using planned
    split at unset
    · obtain rfl := Option.some.inj unset
      decide
    · contradiction

variable {files : FileSystem} {path : String}

/-- Why a file at a path gives no settings. -/
inductive BadFile (read : Toml.Entries → Except Mismatch σ) (shared : σ → Settings)
    (files : FileSystem) (path : String) : Prop where
  | unread {e : IoError} (failed : files.readText path = .error e)
  | malformed {document : String} (text : files.readText path = .ok document)
      (parsed : Toml.parse document = none)
  | mismatch {document : String} {entries : Toml.Entries} {m : Mismatch}
      (text : files.readText path = .ok document) (parsed : Toml.parse document = some entries)
      (found : read entries = .error m)
  | rejected {document : String} {entries : Toml.Entries} {c : σ} {f : SettingsFault}
      (text : files.readText path = .ok document) (parsed : Toml.parse document = some entries)
      (found : read entries = .ok c) (fault : (shared c).check = .error f)

structure GoodFile (read : Toml.Entries → Except Mismatch σ) (shared : σ → Settings)
    (files : FileSystem) (path : String) (c : σ) : Prop where
  found : ∃ document entries, files.readText path = .ok document ∧
    Toml.parse document = some entries ∧ read entries = .ok c
  passed : (shared c).check = .ok ()

inductive FromFile (read : Toml.Entries → Except Mismatch σ) (shared : σ → Settings)
    (files : FileSystem) (path : String) : Except SettingsError σ → Prop where
  | good {c : σ} (good : GoodFile read shared files path c) :
      FromFile read shared files path (.ok c)
  | bad {e : SettingsError} (bad : BadFile read shared files path) :
      FromFile read shared files path (.error e)

theorem GoodFile.not_badFile {c : σ} (good : GoodFile read shared files path c) :
    ¬ BadFile read shared files path := by
  obtain ⟨⟨document, entries, text, parsed, found⟩, passed⟩ := good
  intro bad
  cases bad with
  | unread failed => simp [text] at failed
  | malformed text' parsed' =>
    obtain rfl := Except.ok.inj (text.symm.trans text')
    simp [parsed] at parsed'
  | mismatch text' parsed' found' =>
    obtain rfl := Except.ok.inj (text.symm.trans text')
    obtain rfl := Option.some.inj (parsed.symm.trans parsed')
    simp [found] at found'
  | rejected text' parsed' found' fault =>
    obtain rfl := Except.ok.inj (text.symm.trans text')
    obtain rfl := Option.some.inj (parsed.symm.trans parsed')
    obtain rfl := Except.ok.inj (found.symm.trans found')
    simp [passed] at fault

theorem GoodFile.unique {c c' : σ} (good : GoodFile read shared files path c)
    (good' : GoodFile read shared files path c') : c = c' := by
  obtain ⟨document, entries, text, parsed, found⟩ := good.found
  obtain ⟨document', entries', text', parsed', found'⟩ := good'.found
  obtain rfl := Except.ok.inj (text.symm.trans text')
  obtain rfl := Option.some.inj (parsed.symm.trans parsed')
  exact Except.ok.inj (found.symm.trans found')

theorem fromFile (read : Toml.Entries → Except Mismatch σ) (shared : σ → Settings)
    (files : FileSystem) (path : String) :
    FromFile read shared files path (readFile files path >>= load read shared) := by
  cases text : files.readText path with
  | error e =>
    rw [readFile, text]
    exact .bad (.unread text)
  | ok document =>
    have loaded : (readFile files path >>= load read shared) =
        load read shared document := by
      rw [readFile, text]
      rfl
    rw [loaded]
    cases parsed : Toml.parse document with
    | none =>
      rw [load_malformed parsed]
      exact .bad (.malformed text parsed)
    | some entries =>
      cases found : read entries with
      | error m =>
        rw [load_mismatch parsed found]
        exact .bad (.mismatch text parsed found)
      | ok c =>
        rw [load_read parsed found]
        cases check : (shared c).check with
        | error f => exact .bad (.rejected text parsed found check)
        | ok => exact .good ⟨⟨document, entries, text, parsed, found⟩, check⟩

end MessageTunnel.Settings
