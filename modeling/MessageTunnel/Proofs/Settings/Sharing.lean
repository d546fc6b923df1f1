import MessageTunnel.Proofs.Settings.Loading
import MessageTunnel.Proofs.Toml.Keys
/-!
One document for both ends. Each end takes the entries that are its own and reads the shared
settings from all others, those of the other end among them. What it reads does not depend on which
entries were taken before, so both ends agree on the shared settings and on what is wrong with them.
-/
set_option autoImplicit false

namespace MessageTunnel

namespace Settings

theorem takeEach_eq_foldlM {α σ : Type} {keys seen : List String}
    {take : σ → String × α → Except Mismatch σ} {entries : List (String × α)}
    (distinct : (entries.map Prod.fst).Nodup) (fresh : ∀ e ∈ entries, e.1 ∉ seen) (s : σ) :
    takeEach keys take seen s entries = entries.foldlM take s := by
  induction entries generalizing seen s with
  | nil => rfl
  | cons e rest ih =>
    obtain ⟨absent, apart⟩ := List.nodup_cons.1 distinct
    rw [takeEach, if_neg (fresh e List.mem_cons_self), List.foldlM_cons]
    refine congrArg (take s e >>= ·) (funext fun s' => ih apart (fun e' mem => ?_) s')
    have old := fresh e' (List.mem_cons_of_mem _ mem)
    have other : e'.1 ≠ e.1 := fun same => absent (same ▸ List.mem_map_of_mem mem)
    split
    · simp [old, other]
    · exact old

example : ofEntries .alone [("alpn", Json.string "a"), ("alpn", Json.null)] =
    .error (.duplicateField "alpn") := rfl

section

variable {α : Type} [Format α]

theorem take_of_notMem_keys (place : Place) (s : Settings) {entry : String × α}
    (foreign : entry.1 ∉ keys) : take place s entry = .ok s := by
  obtain ⟨key, v⟩ := entry
  unfold take
  split <;> simp_all [keys, pure, Except.pure]

theorem ofEntries_filter (place : Place) (entries : List (String × α))
    {stays : String × α → Bool} (known : ∀ e : String × α, e.1 ∈ keys → stays e = true) :
    ofEntries place (entries.filter stays) = ofEntries place entries := by
  -- Only keys that are known can have been seen.
  suffices goesOn : ∀ (seen : List String) (s : Settings), (∀ key ∈ seen, key ∈ keys) →
      takeEach keys (take place) seen s (entries.filter stays) =
        takeEach keys (take place) seen s entries from goesOn [] {} (by simp)
  induction entries with
  | nil => exact fun _ _ _ => rfl
  | cons e rest ih =>
    intro seen s among
    by_cases here : stays e = true
    · rw [List.filter_cons_of_pos here, takeEach, takeEach]
      split
      · rfl
      · refine congrArg (take place s e >>= ·) (funext fun s' => ih _ s' fun key mem => ?_)
        split at mem
        · next mine =>
          obtain rfl | old := List.mem_cons.1 mem
          · exact mine
          · exact among key old
        · exact among key mem
    · have foreign : e.1 ∉ keys := fun mem => here (known e mem)
      rw [List.filter_cons_of_neg here, takeEach, if_neg fun mem => foreign (among _ mem),
        if_neg foreign, take_of_notMem_keys place s foreign]
      exact ih seen s among

end

section

variable {α σ : Type} {take? : σ → String × α → Option (Except Mismatch σ)} {own : List String}
  {entries : List (String × α)}

def isOther (own : List String) (entry : String × α) : Bool := !own.contains entry.1

theorem separate_eq (distinct : (entries.map Prod.fst).Nodup)
    (takes : ∀ e ∈ entries, e.1 ∈ own → ∀ s, ∃ s', take? s e = some (.ok s'))
    (leaves : ∀ e, e.1 ∉ own → ∀ s, take? s e = none) (start : σ) :
    ∃ s, separate own take? start entries = .ok (s, entries.filter (isOther own)) := by
  rw [separate, takeEach_eq_foldlM distinct (by simp)]
  suffices goesOn : ∀ kept : List (String × α), ∃ s,
      entries.foldlM (sortOut take?) (start, kept) =
        .ok (s, kept ++ entries.filter (isOther own)) from goesOn []
  clear distinct
  induction entries generalizing start with
  | nil => exact fun kept => ⟨start, by simp [pure, Except.pure]⟩
  | cons e rest ih =>
    intro kept
    have others := ih fun e mem => takes e (List.mem_cons_of_mem _ mem)
    by_cases mine : e.1 ∈ own
    · obtain ⟨s', taken⟩ := takes e List.mem_cons_self mine start
      obtain ⟨s, rest_eq⟩ := others s' kept
      have step : sortOut take? (start, kept) e = .ok (s', kept) := by
        simp [sortOut, taken, bind, Except.bind, pure, Except.pure]
      refine ⟨s, ?_⟩
      rw [List.foldlM_cons, step, List.filter_cons_of_neg (by simp [isOther, mine])]
      exact rest_eq
    · obtain ⟨s, rest_eq⟩ := others start (kept ++ [e])
      have step : sortOut take? (start, kept) e = .ok (start, kept ++ [e]) := by
        simp [sortOut, leaves e mine, pure, Except.pure]
      refine ⟨s, ?_⟩
      rw [List.foldlM_cons, step, List.filter_cons_of_pos (by simp [isOther, mine]),
        List.append_cons kept e (rest.filter _)]
      exact rest_eq

/-- Such an end reads the shared settings as if all entries were there for them. -/
theorem separate_bind [Format α] (distinct : (entries.map Prod.fst).Nodup)
    (takes : ∀ e ∈ entries, e.1 ∈ own → ∀ s, ∃ s', take? s e = some (.ok s'))
    (leaves : ∀ e, e.1 ∉ own → ∀ s, take? s e = none) (apart : ∀ key ∈ keys, key ∉ own)
    (start : σ) (put : σ → Settings → σ) :
    ∃ s, (separate own take? start entries >>= fun (s, others) =>
        put s <$> ofEntries .amongOthers others) = put s <$> ofEntries .amongOthers entries := by
  obtain ⟨s, separated⟩ := separate_eq distinct takes leaves start
  have shared : ofEntries .amongOthers (entries.filter (isOther own)) =
      ofEntries .amongOthers entries :=
    ofEntries_filter .amongOthers entries fun e mem => by simp [isOther, apart e.1 mem]
  exact ⟨s, by rw [separated, ← shared]; rfl⟩

end

def checked (entries : Toml.Entries) : Except SettingsError Settings :=
  match ofEntries .amongOthers entries with
  | .error m => .error (.mismatch m)
  | .ok s =>
    match s.check with
    | .error f => .error (.fault f)
    | .ok () => .ok s

theorem load_eq {σ : Type} {read : Toml.Entries → Except Mismatch σ} {shared : σ → Settings}
    {put : Settings → σ} {document : String} {entries : Toml.Entries}
    (parsed : Toml.parse document = some entries)
    (reads : read entries = put <$> ofEntries .amongOthers entries)
    (shared_put : ∀ s, shared (put s) = s) :
    load read shared document = put <$> checked entries := by
  unfold checked
  cases found : ofEntries .amongOthers entries with
  | error m =>
    have mismatch : read entries = .error m := by rw [reads, found]; rfl
    rw [load_mismatch parsed mismatch]
    rfl
  | ok s =>
    have taken : read entries = .ok (put s) := by rw [reads, found]; rfl
    rw [load_read parsed taken, shared_put]
    dsimp only
    cases s.check <;> rfl

end Settings

def Toml.isText : Toml → Bool
  | .string _ => true
  | _ => false

theorem Toml.eq_string_of_isText {v : Toml} (text : v.isText = true) : ∃ s, v = .string s := by
  cases v with
  | string s => exact ⟨s, rfl⟩
  | _ => simp [Toml.isText] at text

/-- What is there under the keys of a single end is text. -/
def Toml.HasOwnTexts (entries : Toml.Entries) : Prop :=
  ∀ e ∈ entries, e.1 ∈ ClientSettings.keys ++ ServerSettings.keys → e.2.isText = true

instance (entries : Toml.Entries) : Decidable (Toml.HasOwnTexts entries) :=
  inferInstanceAs (Decidable (∀ e ∈ entries, _ → _))

theorem ClientSettings.exists_take? {e : String × Toml} (own : e.1 ∈ keys)
    (text : e.2.isText = true) (s : ClientSettings) : ∃ s', s.take? e = some (.ok s') := by
  obtain ⟨key, v⟩ := e
  obtain ⟨t, rfl⟩ := Toml.eq_string_of_isText text
  simp only [keys, List.mem_cons, List.not_mem_nil, or_false] at own
  obtain rfl | rfl | rfl := own
  · exact ⟨{ s with remote := t }, rfl⟩
  · exact ⟨{ s with serverName := t }, rfl⟩
  · exact ⟨{ s with trustedCertificate := some t }, rfl⟩

theorem ClientSettings.take?_eq_none (e : String × Toml) (other : e.1 ∉ keys)
    (s : ClientSettings) : s.take? e = none := by
  obtain ⟨key, v⟩ := e
  unfold take?
  split <;> simp_all [keys]

theorem ServerSettings.exists_take? {e : String × Toml} (own : e.1 ∈ keys)
    (text : e.2.isText = true) (s : ServerSettings) : ∃ s', s.take? e = some (.ok s') := by
  obtain ⟨key, v⟩ := e
  obtain ⟨t, rfl⟩ := Toml.eq_string_of_isText text
  obtain rfl : key = "bind" := by simpa [keys] using own
  exact ⟨{ s with bind := t }, rfl⟩

theorem ServerSettings.take?_eq_none (e : String × Toml) (other : e.1 ∉ keys)
    (s : ServerSettings) : s.take? e = none := by
  obtain ⟨key, v⟩ := e
  unfold take?
  split <;> simp_all [keys]

variable {document : String} {entries : Toml.Entries}

theorem ClientSettings.ofToml_eq (parsed : Toml.parse document = some entries)
    (texts : Toml.HasOwnTexts entries) : ∃ own : ClientSettings,
      ofToml document = (fun s => { own with shared := s }) <$> Settings.checked entries := by
  have takes (e : String × Toml) (mem : e ∈ entries) (mine : e.1 ∈ keys) :=
    exists_take? mine (texts e mem (List.mem_append_left _ mine))
  obtain ⟨own, reads⟩ := Settings.separate_bind (Toml.nodup_of_parse parsed) takes take?_eq_none
    (by decide) {} fun own s => { own with shared := s }
  exact ⟨own, Settings.load_eq parsed reads fun _ => rfl⟩

theorem ServerSettings.ofToml_eq (parsed : Toml.parse document = some entries)
    (texts : Toml.HasOwnTexts entries) : ∃ own : ServerSettings,
      ofToml document = (fun s => { own with shared := s }) <$> Settings.checked entries := by
  have takes (e : String × Toml) (mem : e ∈ entries) (mine : e.1 ∈ keys) :=
    exists_take? mine (texts e mem (List.mem_append_right _ mine))
  obtain ⟨own, reads⟩ := Settings.separate_bind (Toml.nodup_of_parse parsed) takes take?_eq_none
    (by decide) {} fun own s => { own with shared := s }
  exact ⟨own, Settings.load_eq parsed reads fun _ => rfl⟩

inductive Refusal where
  | unreadable
  | emptyAlpn
  | initialMtuTooSmall (mtu : UInt16)
  deriving DecidableEq, Repr

def SettingsError.refusal? : SettingsError → Option Refusal
  | malformed | mismatch _ => some .unreadable
  | fault .emptyAlpn => some .emptyAlpn
  | fault (.initialMtuTooSmall mtu) => some (.initialMtuTooSmall mtu)
  | read .. | unknownCongestionControl _ => none

/-- Both ends load a document, with the same shared settings, or both refuse it for one reason and
with one error. -/
inductive LoadAlike :
    Except SettingsError ClientSettings → Except SettingsError ServerSettings → Prop where
  | loaded {c : ClientSettings} {s : ServerSettings} (shared : c.shared = s.shared) :
      LoadAlike (.ok c) (.ok s)
  | refused {e : SettingsError} {reason : Refusal} (refusal : e.refusal? = some reason) :
      LoadAlike (.error e) (.error e)

theorem Settings.refusal?_of_checked {e : SettingsError} (failed : checked entries = .error e) :
    ∃ reason, e.refusal? = some reason := by
  unfold checked at failed
  split at failed
  · obtain rfl := Except.error.inj failed
    exact ⟨.unreadable, rfl⟩
  · split at failed
    · obtain rfl := Except.error.inj failed
      rename_i fault _
      cases fault with
      | emptyAlpn => exact ⟨.emptyAlpn, rfl⟩
      | initialMtuTooSmall mtu => exact ⟨.initialMtuTooSmall mtu, rfl⟩
    · contradiction

/-- A document in which the settings of each single end are texts is loaded alike by both. -/
theorem load_alike (document : String)
    (texts : ∀ entries ∈ Toml.parse document, Toml.HasOwnTexts entries) :
    LoadAlike (ClientSettings.ofToml document) (ServerSettings.ofToml document) := by
  cases parsed : Toml.parse document with
  | none =>
    rw [ClientSettings.ofToml, ServerSettings.ofToml, Settings.load_malformed parsed,
      Settings.load_malformed parsed]
    have unreadable : SettingsError.malformed.refusal? = some .unreadable := rfl
    exact .refused unreadable
  | some entries =>
    obtain ⟨c, client⟩ := ClientSettings.ofToml_eq parsed (texts entries parsed)
    obtain ⟨s, server⟩ := ServerSettings.ofToml_eq parsed (texts entries parsed)
    rw [client, server]
    cases shared : Settings.checked entries with
    | error e =>
      obtain ⟨reason, refusal⟩ := Settings.refusal?_of_checked shared
      exact .refused refusal
    | ok settings => exact .loaded rfl

/-- The settings of both ends next to each other, with a first packet that is too small and with
tables whose names are keys of other entries. -/
def smallPacketDocument : String :=
  "remote = \"10.0.0.1:4433\"\nbind = '[::]:4433'\nserver_name = 'a'\ninitial_mtu = 1199\n" ++
    "[extra]\nbind = 5\n[extra.remote]\nalpn = ''\n"

theorem load_alike_smallPacket :
    (∀ entries ∈ Toml.parse smallPacketDocument, Toml.HasOwnTexts entries) ∧
      LoadAlike (ClientSettings.ofToml smallPacketDocument)
        (ServerSettings.ofToml smallPacketDocument) := by
  have texts : ∀ entries ∈ Toml.parse smallPacketDocument, Toml.HasOwnTexts entries := by
    decide +kernel
  exact ⟨texts, load_alike smallPacketDocument texts⟩

end MessageTunnel
