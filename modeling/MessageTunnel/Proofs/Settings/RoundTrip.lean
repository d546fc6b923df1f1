import MessageTunnel.Proofs.Json.RoundTrip
import MessageTunnel.Proofs.Settings.Fields
import MessageTunnel.Settings.Encode
set_option autoImplicit false

namespace MessageTunnel

namespace Json

theorem isReadable_memberTokens {members : List (String × Json)}
    (readable : ∀ m ∈ members, m.2.IsReadable) :
    (memberTokens members).all Token.isReadable = true := by
  induction members with
  | nil => rfl
  | cons m members ih =>
    have value : m.2.tokens.all Token.isReadable = true := readable m List.mem_cons_self
    have others := ih fun m' mem => readable m' (List.mem_cons_of_mem m mem)
    rw [memberTokens, List.all_append, List.all_cons, List.all_cons, List.all_cons, value, others]
    rfl

theorem isReadable_object {members : List (String × Json)}
    (readable : ∀ m ∈ members, m.2.IsReadable) : (object members).IsReadable := by
  cases members with
  | nil => rfl
  | cons m members =>
    have value : m.2.tokens.all Token.isReadable = true := readable m List.mem_cons_self
    have others := isReadable_memberTokens fun m' mem => readable m' (List.mem_cons_of_mem m mem)
    rw [IsReadable, tokens, List.all_append, List.all_cons, List.all_cons, List.all_cons, value,
      others]
    rfl

theorem isReadable_ofOption {β : Type} {write : β → Json} (readable : ∀ b, (write b).IsReadable)
    (o : Option β) : (ofOption write o).IsReadable := by
  cases o with
  | none => rfl
  | some b => exact readable b

end Json

namespace Settings

theorem shape_natural {n : Nat} (small : n < UInt64.size) : shape (Json.natural n) = .integer n :=
  if_pos small

theorem asNatural_natural {n bound : Nat} (small : n < UInt64.size) (fits : n < bound)
    (expected : String) : asNatural bound expected (Json.natural n) = .ok n := by
  rw [asNatural, shape_natural small]
  have within : 0 ≤ (n : Int) ∧ (n : Int) < bound := by omega
  simp only [if_pos within, Int.toNat_natCast]

theorem asUInt64_natural (n : UInt64) : asUInt64 (Json.natural n.toNat) = .ok n := by
  rw [asUInt64, asNatural_natural n.toNat_lt_size n.toNat_lt_size]
  exact congrArg Except.ok (UInt64.ofNat_toNat)

theorem asUInt16_natural (n : UInt16) : asUInt16 (Json.natural n.toNat) = .ok n := by
  have small : n.toNat < UInt64.size := Nat.lt_trans n.toNat_lt_size (by decide)
  rw [asUInt16, asNatural_natural small n.toNat_lt_size]
  exact congrArg Except.ok (UInt16.ofNat_toNat)

theorem eq_null_of_shape {v : Json} (nothing : shape v = .null) : v = .null := by
  cases v with
  | null => rfl
  | number n =>
    cases n with
    | natural n =>
      simp only [shape] at nothing
      split at nothing <;> contradiction
    | other literal =>
      simp only [shape] at nothing
      split at nothing <;> contradiction
  | _ => contradiction

theorem optional_of_ne_null {β : Type} {read : Json → Except Mismatch β} {v : Json}
    (present : v ≠ .null) : optional read v = some <$> read v := by
  cases look : shape v with
  | null => exact absurd (eq_null_of_shape look) present
  | _ => simp only [optional, look]

theorem optional_ofOption {β : Type} {read : Json → Except Mismatch β} {write : β → Json}
    (reads : ∀ b, read (write b) = .ok b) (present : ∀ b, write b ≠ .null) (o : Option β) :
    optional read (.ofOption write o) = .ok o := by
  cases o with
  | none => rfl
  | some b =>
    rw [Json.ofOption, optional_of_ne_null (present b), reads]
    rfl

theorem asPath_string (path : String) : asPath (Json.string path) = .ok path := rfl

theorem asCongestion_name (place : Place) (c : CongestionControl) :
    asCongestion place (Json.string c.name) = .ok c := by
  show ofVariant c.name = .ok c
  rw [ofVariant, CongestionControl.ofName?_name]

theorem isReadable_members (s : Settings) : ∀ m ∈ s.members, m.2.IsReadable := by
  simp only [members, List.forall_mem_cons]
  refine ⟨rfl, Json.isReadable_ofOption ?_ _, rfl, rfl, rfl, Json.isReadable_ofOption ?_ _,
    Json.isReadable_ofOption ?_ _, by simp⟩
  · exact fun _ => rfl
  · exact fun _ => rfl
  · exact fun _ => rfl

theorem given_members (place : Place) (s : Settings) :
    ∀ f ∈ fields place, f.Given s.members {} s := by
  simp only [fields, List.forall_mem_cons]
  refine ⟨?_, ?_, ?_, ?_, ?_, ?_, ?_, by simp⟩
  · exact (says_of_lookup rfl).2 rfl
  · exact (says_of_lookup rfl).2 (optional_ofOption asPath_string (by simp) _)
  · exact (says_of_lookup rfl).2 rfl
  · exact (says_of_lookup rfl).2 (asCongestion_name place s.congestion)
  · exact (says_of_lookup rfl).2 (asUInt64_natural s.idleTimeout)
  · exact (says_of_lookup rfl).2 (optional_ofOption asUInt64_natural (by simp [Json.natural]) _)
  · exact (says_of_lookup rfl).2 (optional_ofOption asUInt16_natural (by simp [Json.natural]) _)

theorem ofEntries_members (place : Place) (s : Settings) : ofEntries place s.members = .ok s := by
  have distinct : (s.members.map Prod.fst).Nodup := show keys.Nodup by decide
  exact (ofEntries_eq_ok_iff distinct).2 (given_members place s)

theorem ofValue_toJson (s : Settings) : ofValue s.toJson = .ok s := ofEntries_members .alone s

theorem isReadable_toJson (s : Settings) : s.toJson.IsReadable :=
  Json.isReadable_object (isReadable_members s)

theorem Field.given_append {σ : Type} {f : Field Json σ} {front rest : List (String × Json)}
    {base s : σ} (other : ∀ e ∈ front, e.1 ≠ f.key) (given : f.Given rest base s) :
    f.Given (front ++ rest) base s := by
  induction front with
  | nil => exact given
  | cons e front ih =>
    exact (says_cons_other (other e List.mem_cons_self)).2
      (ih fun e' mem => other e' (List.mem_cons_of_mem e mem))

theorem given_append_members (front : List (String × Json))
    (own : ∀ e ∈ front, e.1 ∉ keys) (s : Settings) :
    ∀ f ∈ fields .amongOthers, f.Given (front ++ s.members) {} s := by
  intro f mem
  have key : f.key ∈ keys := List.mem_map_of_mem (f := Field.key) mem
  refine Field.given_append (fun e here same => own e here ?_) (given_members .amongOthers s f mem)
  rwa [same]

end Settings

open Settings

def ClientSettings.members (c : ClientSettings) : List (String × Json) :=
  [("remote", .string c.remote), ("server_name", .string c.serverName),
    ("trusted_certificate", .ofOption .string c.trustedCertificate)]

theorem ClientSettings.ofValue_toJson (c : ClientSettings) : ofValue c.toJson = .ok c := by
  have distinct : ((c.members ++ c.shared.members).map Prod.fst).Nodup :=
    show (keys ++ Settings.keys).Nodup by decide
  refine (ofEntries_eq_ok_iff distinct).2 ⟨?_, ?_⟩
  · simp only [fields, List.forall_mem_cons]
    refine ⟨?_, ?_, ?_, by simp⟩
    · exact (says_of_lookup rfl).2 rfl
    · exact (says_of_lookup rfl).2 rfl
    · exact (says_of_lookup rfl).2 (optional_ofOption asPath_string (by simp) _)
  · refine given_append_members c.members ?_ c.shared
    simp [members, Settings.keys]

theorem ClientSettings.isReadable_toJson (c : ClientSettings) : c.toJson.IsReadable := by
  refine Json.isReadable_object (List.forall_mem_append.2 ⟨?_, isReadable_members c.shared⟩)
  simp only [List.forall_mem_cons]
  refine ⟨rfl, rfl, Json.isReadable_ofOption ?_ _, by simp⟩
  exact fun _ => rfl

theorem ServerSettings.ofValue_toJson (c : ServerSettings) : ofValue c.toJson = .ok c := by
  have distinct : ((("bind", Json.string c.bind) :: c.shared.members).map Prod.fst).Nodup :=
    show (keys ++ Settings.keys).Nodup by decide
  refine (ofEntries_eq_ok_iff distinct).2 ⟨?_, ?_⟩
  · simp only [fields, List.forall_mem_cons]
    exact ⟨(says_of_lookup rfl).2 rfl, by simp⟩
  · exact given_append_members [("bind", Json.string c.bind)] (by simp [Settings.keys]) c.shared

theorem ServerSettings.isReadable_toJson (c : ServerSettings) : c.toJson.IsReadable :=
  Json.isReadable_object (List.forall_mem_cons.2 ⟨rfl, isReadable_members c.shared⟩)

/-- Every value is read back from its text, so that different values have different texts. -/
structure RoundTrips {σ : Type} (shared : σ → Settings) (toJson : σ → Json)
    (ofValue : Json → Except Mismatch σ) : Prop where
  reads_back (c : σ) : (Json.parse (toJson c).render).map ofValue = some (.ok c)
  apart {c c' : σ} (different : c ≠ c') : (toJson c).render ≠ (toJson c').render
  /-- No directory for traces is not an empty path. -/
  traceDir {c c' : σ} (absent : (shared c).traceDir = none)
    (empty : (shared c').traceDir = some "") : (toJson c).render ≠ (toJson c').render
  keepAlive {c c' : σ} (absent : (shared c).keepAlive = none)
    (zero : (shared c').keepAlive = some 0) : (toJson c).render ≠ (toJson c').render
  initialMtu {c c' : σ} (absent : (shared c).initialMtu = none)
    (zero : (shared c').initialMtu = some 0) : (toJson c).render ≠ (toJson c').render

theorem RoundTrips.of_reads {σ : Type} {shared : σ → Settings} {toJson : σ → Json}
    {ofValue : Json → Except Mismatch σ} (readable : ∀ c, (toJson c).IsReadable)
    (reads : ∀ c, ofValue (toJson c) = .ok c) : RoundTrips shared toJson ofValue := by
  have back (c : σ) : (Json.parse (toJson c).render).map ofValue = some (.ok c) := by
    rw [Json.parse_render (readable c), Option.map_some, reads]
  have apart {c c' : σ} (different : c ≠ c') : (toJson c).render ≠ (toJson c').render := by
    intro same
    have both := back c
    rw [same, back c'] at both
    exact different (Except.ok.inj (Option.some.inj both)).symm
  refine ⟨back, apart, fun absent empty => apart ?_, fun absent zero => apart ?_,
    fun absent zero => apart ?_⟩
  · rintro rfl
    simp [absent] at empty
  · rintro rfl
    simp [absent] at zero
  · rintro rfl
    simp [absent] at zero

/-- Settings of all three kinds are read back from their texts, and of a client also a missing
certificate is told from an empty path. -/
theorem settings_round_trip :
    RoundTrips id Settings.toJson Settings.ofValue ∧
      RoundTrips ClientSettings.shared ClientSettings.toJson ClientSettings.ofValue ∧
      RoundTrips ServerSettings.shared ServerSettings.toJson ServerSettings.ofValue ∧
      ∀ c c' : ClientSettings, c.trustedCertificate = none → c'.trustedCertificate = some "" →
        c.toJson.render ≠ c'.toJson.render := by
  have client : RoundTrips ClientSettings.shared ClientSettings.toJson ClientSettings.ofValue :=
    .of_reads ClientSettings.isReadable_toJson ClientSettings.ofValue_toJson
  refine ⟨.of_reads Settings.isReadable_toJson Settings.ofValue_toJson, client,
    .of_reads ServerSettings.isReadable_toJson ServerSettings.ofValue_toJson, ?_⟩
  intro c c' absent empty
  refine client.apart ?_
  rintro rfl
  simp [absent] at empty

end MessageTunnel
