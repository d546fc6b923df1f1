import Mathlib.Tactic.MkIffOfInductiveProp
import MessageTunnel.Proofs.Settings.Fields
import MessageTunnel.Proofs.Toml.Keys
/-!
Loading by known keys. What an end loads from a document is what the document says under the keys
that the end knows, with a default for each one that is missing, and it has passed the check. So
neither the order of the keys nor anything under other keys matters.
-/
set_option autoImplicit false

namespace MessageTunnel.Settings

section

variable {v : Toml}

theorem map_eq_ok_iff {ε α β : Type} {f : α → β} {e : Except ε α} {b : β} :
    f <$> e = .ok b ↔ ∃ a, e = .ok a ∧ f a = b := by
  cases e with
  | error m => exact iff_of_false nofun nofun
  | ok a => simp [Functor.map, Except.map]

theorem asBoolean_eq_ok_iff {b : Bool} : asBoolean v = .ok b ↔ v = .boolean b := by
  cases v <;> simp [asBoolean, shape, wrongType]

theorem asText_eq_ok_iff {expected s : String} : asText expected v = .ok s ↔ v = .string s := by
  cases v <;> simp [asText, shape, wrongType]

theorem asNatural_eq_ok_iff {bound n : Nat} {expected : String} :
    asNatural bound expected v = .ok n ↔ v = .integer n ∧ n < bound := by
  cases v with
  | integer m =>
    simp only [asNatural, shape]
    split
    · simp only [Except.ok.injEq, Toml.integer.injEq]
      omega
    · simp only [reduceCtorEq, Toml.integer.injEq, false_iff]
      omega
  | _ => simp [asNatural, shape, wrongType]

theorem asWord_eq_ok_iff {ω : Type} {bound : Nat} {expected : String} {ofNat : Nat → ω}
    {toNat : ω → Nat} (below : ∀ n, toNat n < bound) (ofNat_toNat : ∀ n, ofNat (toNat n) = n)
    (toNat_ofNat : ∀ k < bound, toNat (ofNat k) = k) {n : ω} :
    ofNat <$> asNatural bound expected v = .ok n ↔ v = .integer (toNat n) := by
  rw [map_eq_ok_iff]
  constructor
  · rintro ⟨k, read, rfl⟩
    obtain ⟨rfl, fits⟩ := asNatural_eq_ok_iff.1 read
    rw [toNat_ofNat k fits]
  · rintro rfl
    exact ⟨toNat n, asNatural_eq_ok_iff.2 ⟨rfl, below n⟩, ofNat_toNat n⟩

theorem asUInt64_eq_ok_iff {n : UInt64} : asUInt64 v = .ok n ↔ v = .integer n.toNat :=
  asWord_eq_ok_iff UInt64.toNat_lt_size (fun _ => UInt64.ofNat_toNat)
    fun _ fits => UInt64.toNat_ofNat_of_lt' fits

theorem asUInt16_eq_ok_iff {n : UInt16} : asUInt16 v = .ok n ↔ v = .integer n.toNat :=
  asWord_eq_ok_iff UInt16.toNat_lt_size (fun _ => UInt16.ofNat_toNat)
    fun _ fits => UInt16.toNat_ofNat_of_lt' fits

/-- No value of a TOML document stands for a missing one. -/
theorem optional_eq_ok_iff {β : Type} {read : Toml → Except Mismatch β} {means : β → Prop}
    (reads : ∀ b, read v = .ok b ↔ means b) {o : Option β} :
    optional read v = .ok o ↔ ∃ b, o = some b ∧ means b := by
  have present : optional read v = some <$> read v := by cases v <;> rfl
  rw [present, map_eq_ok_iff]
  refine exists_congr fun b => ?_
  rw [reads, and_comm, eq_comm]

theorem ofVariant_eq_ok_iff {name : String} {c : CongestionControl} :
    ofVariant name = .ok c ↔ name = c.name := by
  constructor
  · intro read
    cases found : CongestionControl.ofName? name with
    | none => simp [ofVariant, found] at read
    | some c' =>
      obtain rfl : c' = c := by simpa [ofVariant, found] using read
      have same := List.find?_some found
      exact (beq_iff_eq.1 same).symm
  · rintro rfl
    rw [ofVariant, CongestionControl.ofName?_name]

def IsCongestion (v : Toml) (c : CongestionControl) : Prop :=
  v = .string c.name ∨ ∃ outer inner, v = .table outer [(c.name, .table inner [])]

theorem asUnit_eq_ok_iff : asUnit .amongOthers v = .ok () ↔ ∃ origin, v = .table origin [] := by
  cases v with
  | table origin entries => cases entries <;> simp [asUnit, shape, wrongType]
  | _ => simp [asUnit, shape, wrongType]

theorem asCongestion_single {outer : Toml.Origin} {name : String} {content : Toml}
    {c : CongestionControl} :
    asCongestion .amongOthers (Toml.table outer [(name, content)]) = .ok c ↔
      name = c.name ∧ ∃ inner, content = .table inner [] := by
  show (ofVariant name >>= fun c => asUnit .amongOthers content >>= fun _ => .ok c) = .ok c ↔ _
  rw [← ofVariant_eq_ok_iff, ← asUnit_eq_ok_iff]
  cases ofVariant name with
  | error m => exact iff_of_false nofun nofun
  | ok c' =>
    cases asUnit .amongOthers content with
    | error m => exact iff_of_false nofun nofun
    | ok => exact ⟨fun read => ⟨read, rfl⟩, fun ⟨read, _⟩ => read⟩

theorem asCongestion_eq_ok_iff {c : CongestionControl} :
    asCongestion .amongOthers v = .ok c ↔ IsCongestion v c := by
  cases v with
  | string s => simp [asCongestion, shape, IsCongestion, ofVariant_eq_ok_iff]
  | date text =>
    have unknown : asCongestion .amongOthers (Toml.date text) =
      .error (.unknownVariant dateKey) := rfl
    simp [unknown, IsCongestion]
  | table origin entries =>
    match entries with
    | [] => simp [asCongestion, shape, IsCongestion]
    | [(name, content)] => simp [asCongestion_single, IsCongestion]
    | _ :: _ :: _ => simp [asCongestion, shape, IsCongestion]
  | _ => simp [asCongestion, shape, wrongType, IsCongestion]

end

@[mk_iff]
structure Told (entries : Toml.Entries) (s : Settings) : Prop where
  datagrams : Says entries "enable_datagrams" true (fun v b => v = .boolean b) s.datagrams
  traceDir : Says entries "qlog_dir" none (fun v dir => ∃ t, dir = some t ∧ v = .string t)
    s.traceDir
  alpn : Says entries "alpn" "quic-echo-example" (fun v t => v = .string t) s.alpn
  congestion : Says entries "congestion_control" .newReno IsCongestion s.congestion
  idleTimeout : Says entries "idle_timeout_ms" 30000 (fun v n => v = .integer n.toNat)
    s.idleTimeout
  keepAlive : Says entries "keep_alive_ms" none
    (fun v ms => ∃ n, ms = some n ∧ v = .integer n.toNat) s.keepAlive
  initialMtu : Says entries "initial_mtu" none
    (fun v mtu => ∃ n, mtu = some n ∧ v = .integer n.toNat) s.initialMtu

theorem given_iff_told {entries : Toml.Entries} {s : Settings} :
    (∀ f ∈ fields .amongOthers, f.Given entries {} s) ↔ Told entries s := by
  simp only [fields, List.forall_mem_cons, told_iff]
  refine and_congr ?_ (and_congr ?_ (and_congr ?_ (and_congr ?_ (and_congr ?_ (and_congr ?_
    ((and_iff_left (by simp)).trans ?_))))))
  · exact says_congr fun v => asBoolean_eq_ok_iff
  · exact says_congr fun v => optional_eq_ok_iff fun _ => asText_eq_ok_iff
  · exact says_congr fun v => asText_eq_ok_iff
  · exact says_congr fun v => asCongestion_eq_ok_iff
  · exact says_congr fun v => asUInt64_eq_ok_iff
  · exact says_congr fun v => optional_eq_ok_iff fun _ => asUInt64_eq_ok_iff
  · exact says_congr fun v => optional_eq_ok_iff fun _ => asUInt16_eq_ok_iff

theorem Field.given_congr {α σ : Type} (f : Field α σ) {entries entries' : List (String × α)}
    (same : entries'.lookup f.key = entries.lookup f.key) (base s : σ) :
    f.Given entries' base s ↔ f.Given entries base s := by
  unfold Field.Given Says
  rw [same]

theorem forall_given_congr {α σ : Type} {fields : List (Field α σ)}
    {entries entries' : List (String × α)}
    (same : ∀ key ∈ fields.map Field.key, entries'.lookup key = entries.lookup key) (base s : σ) :
    (∀ f ∈ fields, f.Given entries' base s) ↔ ∀ f ∈ fields, f.Given entries base s :=
  forall₂_congr fun f mem => f.given_congr (same f.key (List.mem_map_of_mem mem)) base s

section

variable {σ : Type} {read : Toml.Entries → Except Mismatch σ} {shared : σ → Settings}

structure LoadsByKeys (load : String → Except SettingsError σ) (shared : σ → Settings)
    (known : List String) (Tells : Toml.Entries → σ → Prop) : Prop where
  /-- What is loaded is what the document tells, and it passes the check. -/
  given : ∀ document c, load document = .ok c ↔
    ∃ entries, Toml.parse document = some entries ∧ Tells entries c ∧ (shared c).check = .ok ()
  determined : ∀ {document document' : String} {entries entries' : Toml.Entries} {c : σ},
    Toml.parse document = some entries → Toml.parse document' = some entries' →
    (∀ key ∈ known, entries'.lookup key = entries.lookup key) →
    load document = .ok c → load document' = .ok c
  /-- Statements can change places, if those about each key keep their order. -/
  rearranged : ∀ {document document' : String} {parts parts' : List Toml.Placed} {c : σ},
    Toml.parts? document = some parts → Toml.parts? document' = some parts' →
    Toml.Rearranged parts parts' → load document = .ok c → load document' = .ok c
  /-- Statements about unknown keys can be added, if the document can be parsed still. -/
  extended : ∀ {document document' : String} {parts parts' : List Toml.Placed} {c : σ},
    Toml.parts? document = some parts → Toml.parts? document' = some parts' →
    (∀ key ∈ known, Toml.about key parts' = Toml.about key parts) →
    (Toml.parse document').isSome → load document = .ok c → load document' = .ok c

theorem LoadsByKeys.of_fields {own : List (Field Toml σ)} {start : σ}
    {Tells : Toml.Entries → σ → Prop}
    (reads : ∀ {entries : Toml.Entries}, (entries.map Prod.fst).Nodup → ∀ {c : σ},
      read entries = .ok c ↔ (∀ f ∈ own, f.Given entries start c) ∧
        ∀ f ∈ fields .amongOthers, f.Given entries {} (shared c))
    (tells : ∀ {entries : Toml.Entries} {c : σ}, (∀ f ∈ own, f.Given entries start c) ∧
      (∀ f ∈ fields .amongOthers, f.Given entries {} (shared c)) ↔ Tells entries c) :
    LoadsByKeys (load read shared) shared (own.map Field.key ++ keys) Tells := by
  have given (document : String) (c : σ) : load read shared document = .ok c ↔
      ∃ entries, Toml.parse document = some entries ∧ Tells entries c ∧
        (shared c).check = .ok () := by
    rw [load_eq_ok_iff]
    refine exists_congr fun entries => and_congr_right fun parsed => ?_
    rw [reads (Toml.nodup_of_parse parsed), tells]
  have determined {document document' : String} {entries entries' : Toml.Entries} {c : σ}
      (parsed : Toml.parse document = some entries)
      (parsed' : Toml.parse document' = some entries')
      (same : ∀ key ∈ own.map Field.key ++ keys, entries'.lookup key = entries.lookup key)
      (loaded : load read shared document = .ok c) : load read shared document' = .ok c := by
    obtain ⟨found, parsed₀, told, passed⟩ := (given document c).1 loaded
    obtain rfl : entries = found := Option.some.inj (parsed.symm.trans parsed₀)
    rw [List.forall_mem_append] at same
    have told' : Tells entries' c := by
      rw [← tells] at told ⊢
      refine told.imp (forall_given_congr same.1 _ _).2 (forall_given_congr ?_ _ _).2
      exact same.2
    exact (given document' c).2 ⟨entries', parsed', told', passed⟩
  refine ⟨given, determined, ?_, ?_⟩
  · intro document document' parts parts' c reads reads' same loaded
    obtain ⟨entries, parsed, _⟩ := (given document c).1 loaded
    obtain ⟨entries', parsed'⟩ := same.exists_parse reads reads' parsed
    exact determined parsed parsed'
      (fun key _ => Toml.lookup_congr reads reads' (same.each key) parsed parsed') loaded
  · intro document document' parts parts' c reads reads' same parses loaded
    obtain ⟨entries, parsed, _⟩ := (given document c).1 loaded
    obtain ⟨entries', parsed'⟩ := Option.isSome_iff_exists.1 parses
    exact determined parsed parsed'
      (fun key mem => Toml.lookup_congr reads reads' (same key mem) parsed parsed') loaded

end

end MessageTunnel.Settings

namespace MessageTunnel

open Settings

@[mk_iff]
structure ClientSettings.Told (entries : Toml.Entries) (c : ClientSettings) : Prop where
  remote : Says entries "remote" "localhost:4242" (fun v t => v = .string t) c.remote
  serverName : Says entries "server_name" "localhost" (fun v t => v = .string t) c.serverName
  trustedCertificate : Says entries "trusted_certificate" none
    (fun v path => ∃ t, path = some t ∧ v = .string t) c.trustedCertificate
  shared : Settings.Told entries c.shared

theorem ClientSettings.given_iff_told {entries : Toml.Entries} {c : ClientSettings} :
    ((∀ f ∈ fields, f.Given entries {} c) ∧
      ∀ f ∈ Settings.fields .amongOthers, f.Given entries {} c.shared) ↔ Told entries c := by
  rw [Settings.given_iff_told, told_iff]
  simp only [fields, List.forall_mem_cons, and_assoc]
  refine and_congr ?_ (and_congr ?_ (and_congr ?_ (and_iff_right (by simp))))
  · exact says_congr fun v => asText_eq_ok_iff
  · exact says_congr fun v => asText_eq_ok_iff
  · exact says_congr fun v => optional_eq_ok_iff fun _ => asText_eq_ok_iff

@[mk_iff]
structure ServerSettings.Told (entries : Toml.Entries) (c : ServerSettings) : Prop where
  bind : Says entries "bind" "localhost:4242" (fun v t => v = .string t) c.bind
  shared : Settings.Told entries c.shared

theorem ServerSettings.given_iff_told {entries : Toml.Entries} {c : ServerSettings} :
    ((∀ f ∈ fields, f.Given entries {} c) ∧
      ∀ f ∈ Settings.fields .amongOthers, f.Given entries {} c.shared) ↔ Told entries c := by
  rw [Settings.given_iff_told, told_iff]
  simp only [fields, List.forall_mem_cons, and_assoc]
  refine and_congr ?_ (and_iff_right (by simp))
  exact says_congr fun v => asText_eq_ok_iff

/-- Both ends load documents by the keys that they know, their own and the shared ones. -/
theorem loads_by_keys :
    LoadsByKeys ClientSettings.ofToml ClientSettings.shared
        (ClientSettings.keys ++ Settings.keys) ClientSettings.Told ∧
      LoadsByKeys ServerSettings.ofToml ServerSettings.shared
        (ServerSettings.keys ++ Settings.keys) ServerSettings.Told := by
  constructor
  · exact .of_fields ClientSettings.ofEntries_eq_ok_iff ClientSettings.given_iff_told
  · exact .of_fields ServerSettings.ofEntries_eq_ok_iff ServerSettings.given_iff_told

example : ClientSettings.ofToml "bind.x = 0x10\n[congestion_control]\nbbr = {}\n[[extra]]\n" =
    .ok { shared := { congestion := .bbr } } := by
  decide +kernel

end MessageTunnel
