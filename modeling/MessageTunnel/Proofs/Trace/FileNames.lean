import MessageTunnel.Proofs.Text.Hex
import MessageTunnel.Proofs.Trace.Course
set_option autoImplicit false

namespace MessageTunnel

namespace ConnectionId

theorem toList_hex (id : ConnectionId) : id.hex.toList = Hex.encode id.bytes :=
  String.toList_ofList

/-- So many bytes, the most significant one first, hold the number up to their size. -/
theorem placeValue_places (n places : Nat) :
    Hex.placeValue (Hex.halves ((List.range places).reverse.map fun i =>
      UInt8.ofNat (n / Nat.pow 256 i % 256))) = n % 256 ^ places := by
  induction places with
  | zero => simp [Hex.halves, Hex.placeValue, Nat.mod_one]
  | succ places ih =>
    rw [List.range_succ, List.reverse_append, List.reverse_singleton, List.singleton_append,
      List.map_cons, Hex.placeValue_halves_cons, ih, Nat.mod_pow_succ, Nat.add_comm]
    simp

theorem placeValue_ofNumber (n : UInt64) :
    Hex.placeValue (Hex.halves (ofNumber n).bytes) = n.toNat :=
  (placeValue_places n.toNat 8).trans (Nat.mod_eq_of_lt n.toNat_lt)

theorem hex_lt_hex_iff {id id' : ConnectionId} (same : id.bytes.length = id'.bytes.length) :
    id.hex < id'.hex ↔
      Hex.placeValue (Hex.halves id.bytes) < Hex.placeValue (Hex.halves id'.bytes) := by
  rw [String.lt_iff, toList_hex, toList_hex, Hex.encode_lt_encode_iff same]

structure HasDigits (id : ConnectionId) : Prop where
  length : id.hex.length = 2 * id.bytes.length
  digits : ∀ c ∈ id.hex.toList, c ∈ Hex.lowerDigits
  bytes : ∀ {i : Nat} {b : UInt8}, id.bytes[i]? = some b → ∃ high low,
    id.hex.toList[2 * i]? = some high ∧ id.hex.toList[2 * i + 1]? = some low ∧
      Hex.value high = some (b.toNat / 16) ∧ Hex.value low = some (b.toNat % 16)
  back : ofHex? id.hex = some id

theorem hasDigits (id : ConnectionId) : id.HasDigits where
  length := by rw [← String.length_toList, toList_hex, Hex.length_encode]
  digits := by
    intro c mem
    rw [toList_hex] at mem
    exact Hex.mem_encode mem
  bytes := by
    intro i b there
    have small : b.toNat / 16 < 16 := Nat.div_lt_of_lt_mul b.toNat_lt
    obtain ⟨high, low⟩ := Hex.getElem?_encode there
    rw [toList_hex]
    exact ⟨_, _, high, low, Hex.value_digitChar small, Hex.value_digitChar (by omega)⟩
  back := ofHex?_hex id

/-- The text of a number: it is as long for all, and both its value and its place among the others are
those of the number. -/
structure TellsNumber (n : UInt64) : Prop where
  length : (ofNumber n).hex.length = 16
  value : Hex.number (ofNumber n).hex.toList = some n.toNat
  order : ∀ m, (ofNumber n).hex < (ofNumber m).hex ↔ n < m

theorem tellsNumber (n : UInt64) : TellsNumber n where
  length := (hasDigits (ofNumber n)).length
  value := by rw [toList_hex, Hex.number_encode, placeValue_ofNumber]
  order := by
    intro m
    have same : (ofNumber n).bytes.length = (ofNumber m).bytes.length := rfl
    rw [hex_lt_hex_iff same, placeValue_ofNumber, placeValue_ofNumber, UInt64.lt_iff_toNat_lt]

end ConnectionId

namespace Trace.Registry

variable {id id' : ConnectionId} {number : Nat} {r r' : Registry} {notices : List Notice}

def HasPaths (r : Registry) : Prop :=
  ∀ w ∈ r.writers, ∃ dir, r.dir = some dir ∧ w.path = Path.join dir w.fileName

theorem Turned.hasPaths (turned : r.Turned number notices r') (paths : r.HasPaths) :
    r'.HasPaths := by
  cases turned with
  | missing => exact paths
  | turned stored turns =>
    intro w mem
    obtain old | rfl := List.mem_or_eq_of_mem_set mem
    · exact paths w old
    · rw [turns.path_eq, turns.fileName_eq]
      exact paths _ (List.mem_of_getElem? stored)

theorem HasPaths.perform (paths : r.HasPaths) (c : Command) : (r.perform c).2.HasPaths := by
  cases c with
  | writerFor id now =>
    have refers := r.refers id now
    unfold Registry.perform
    dsimp only
    generalize r.writerFor id now = outcome, r.opening? (.writerFor id now) = opening at refers
    cases refers with
    | disabled | found | blocked => exact paths
    | opened on opens turns =>
      intro w mem
      obtain old | new := List.mem_append.1 mem
      · exact paths w old
      · obtain rfl := List.mem_singleton.1 new
        exact ⟨_, on, by rw [turns.path_eq, turns.fileName_eq]; rfl⟩
  | release id =>
    unfold Registry.perform
    dsimp only
    rw [release_eq]
    cases r.live.lookup id with
    | none => exact paths
    | some number => exact ((r.forget id).turned_close number).hasPaths paths
  | record number now event => exact (r.turned_record number now event).hasPaths paths
  | close number => exact (r.turned_close number).hasPaths paths

theorem hasPaths_course (dir : Option String) (vantage : Vantage) (files : FileSystem)
    (commands : List Command) : (course (.new dir vantage files) commands).registry.HasPaths :=
  course_induction (P := fun _ h => h.registry.HasPaths) _ (by simp [HasPaths, new])
    (fun _ c paths => paths.perform c) commands

/-- Below whatever directories, two connections have their files under different names. -/
theorem last_ne_last (other : id ≠ id') (dir dir' : String) :
    (Path.pieces (Path.join dir (traceName id))).getLast? ≠
      (Path.pieces (Path.join dir' (traceName id'))).getLast? := by
  obtain ⟨names, pieces⟩ := FileSystem.pieces_join dir (slash_notMem_traceName id)
  obtain ⟨names', pieces'⟩ := FileSystem.pieces_join dir' (slash_notMem_traceName id')
  rw [pieces, pieces', List.getLast?_concat, List.getLast?_concat]
  exact fun same => other (traceName_injective (Option.some.inj same))

def KeepsApart (r : Registry) : Prop :=
  ∀ {id id' : ConnectionId} {number number' : Nat}, r.live.lookup id = some number →
    r.live.lookup id' = some number' → id ≠ id' →
      ∃ w w', r.writers[number]? = some w ∧ r.writers[number']? = some w' ∧ w.path ≠ w'.path ∧
        (Path.pieces w.path).getLast? ≠ (Path.pieces w'.path).getLast?

theorem Course.Sound.exists_live {first : Registry} {h : Course} (sound : h.Sound first)
    (paths : h.registry.HasPaths) (live : h.registry.live.lookup id = some number) :
    ∃ dir w, h.registry.writers[number]? = some w ∧ w.path = Path.join dir (traceName id) := by
  obtain ⟨location, at_⟩ := sound.live live
  have named := congrArg (·[number]?) sound.names
  simp only [List.getElem?_map, at_, Option.map_some, Option.map_eq_some_iff] at named
  obtain ⟨w, stored, named⟩ := named
  obtain ⟨dir, -, path⟩ := paths w (List.mem_of_getElem? stored)
  exact ⟨dir, w, stored, by rw [path, named]⟩

end Trace.Registry

/-- Identifiers are told by their text, numbers also in their order, and wherever a course of commands
has led a registry, no two connections share a path in it. -/
theorem names_files_apart :
    (∀ id : ConnectionId, id.HasDigits) ∧ (∀ n, ConnectionId.TellsNumber n) ∧
      ∀ dir vantage files commands,
        (Trace.Registry.course (.new dir vantage files) commands).registry.KeepsApart := by
  refine ⟨ConnectionId.hasDigits, ConnectionId.tellsNumber, fun dir vantage files commands => ?_⟩
  intro id id' number number' live live' other
  have sound := Trace.Registry.sound_course dir vantage files commands
  have paths := Trace.Registry.hasPaths_course dir vantage files commands
  obtain ⟨above, w, stored, path⟩ := sound.exists_live paths live
  obtain ⟨above', w', stored', path'⟩ := sound.exists_live paths live'
  have apart := Trace.Registry.last_ne_last other above above'
  rw [← path, ← path'] at apart
  exact ⟨w, w', stored, stored', fun same => apart (by rw [same]), apart⟩

end MessageTunnel
