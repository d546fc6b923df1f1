import MessageTunnel.Settings.Basic
import MessageTunnel.Settings.Shape
/-!
Settings from the entries of a document. An entry with an unknown key says nothing, and what no
entry says keeps its default. The entries that are an end's own are taken first, and the shared
settings are read from what is left, so of two complaints the one about an own entry is raised.
-/
set_option autoImplicit false

namespace MessageTunnel.Settings

section

variable {α : Type} [Format α]

def wrongType {β : Type} (v : α) (expected : String) : Except Mismatch β :=
  .error (.invalidType (shape v).name expected)

def asBoolean (v : α) : Except Mismatch Bool :=
  match shape v with
  | .boolean b => .ok b
  | _ => wrongType v "a boolean"

def asText (expected : String) (v : α) : Except Mismatch String :=
  match shape v with
  | .text s => .ok s
  | _ => wrongType v expected

def asString (v : α) : Except Mismatch String := asText "a string" v

def asPath (v : α) : Except Mismatch String := asText "path string" v

def asNatural (bound : Nat) (expected : String) (v : α) : Except Mismatch Nat :=
  match shape v with
  | .integer n =>
    if 0 ≤ n ∧ n < bound then .ok n.toNat
    else .error (.invalidValue (shape v).name expected)
  | _ => wrongType v expected

def asUInt64 (v : α) : Except Mismatch UInt64 := UInt64.ofNat <$> asNatural UInt64.size "u64" v

def asUInt16 (v : α) : Except Mismatch UInt16 := UInt16.ofNat <$> asNatural UInt16.size "u16" v

def optional {β : Type} (read : α → Except Mismatch β) (v : α) : Except Mismatch (Option β) :=
  match shape v with
  | .null => .ok none
  | _ => some <$> read v

def ofVariant (name : String) : Except Mismatch CongestionControl :=
  match CongestionControl.ofName? name with
  | some c => .ok c
  | none => .error (.unknownVariant name)

/-- Where shared settings stand: alone, or among the entries of an end. -/
inductive Place where
  | alone
  | amongOthers
  deriving DecidableEq, Repr

/-- A value without content. Among other entries an empty map counts as one. -/
def asUnit (place : Place) (v : α) : Except Mismatch Unit :=
  match place, shape v with
  | _, .null => .ok ()
  | .amongOthers, .map [] => .ok ()
  | _, _ => wrongType v "unit"

/-- A name, or a map with a name as its only key and nothing under it. -/
def asCongestion (place : Place) (v : α) : Except Mismatch CongestionControl :=
  match shape v with
  | .text name => ofVariant name
  | .map [(name, content)] => do
    let c ← ofVariant name
    asUnit place content
    return c
  | .map _ => .error (.invalidValue "map" "map with a single key")
  | _ => wrongType v "string or map"

/-- Takes entries in order. None of the keys may come twice. -/
def takeEach {σ : Type} (keys : List String) (take : σ → String × α → Except Mismatch σ)
    (seen : List String) (s : σ) : List (String × α) → Except Mismatch σ
  | [] => .ok s
  | e :: rest =>
    if e.1 ∈ seen then .error (.duplicateField e.1)
    else do takeEach keys take (if e.1 ∈ keys then e.1 :: seen else seen) (← take s e) rest

def keys : List String :=
  ["enable_datagrams", "qlog_dir", "alpn", "congestion_control", "idle_timeout_ms",
    "keep_alive_ms", "initial_mtu"]

def take (place : Place) (s : Settings) (entry : String × α) : Except Mismatch Settings :=
  match entry with
  | ("enable_datagrams", v) => return { s with datagrams := ← asBoolean v }
  | ("qlog_dir", v) => return { s with traceDir := ← optional asPath v }
  | ("alpn", v) => return { s with alpn := ← asString v }
  | ("congestion_control", v) => return { s with congestion := ← asCongestion place v }
  | ("idle_timeout_ms", v) => return { s with idleTimeout := ← asUInt64 v }
  | ("keep_alive_ms", v) => return { s with keepAlive := ← optional asUInt64 v }
  | ("initial_mtu", v) => return { s with initialMtu := ← optional asUInt16 v }
  | _ => return s

def ofEntries (place : Place) (entries : List (String × α)) : Except Mismatch Settings :=
  takeEach keys (take place) [] {} entries

def sortOut {σ : Type} (take? : σ → String × α → Option (Except Mismatch σ)) :
    σ × List (String × α) → String × α → Except Mismatch (σ × List (String × α))
  | (s, others), entry =>
    match take? s entry with
    | some taken => return (← taken, others)
    | none => return (s, others ++ [entry])

def separate {σ : Type} (own : List String)
    (take? : σ → String × α → Option (Except Mismatch σ)) (start : σ)
    (entries : List (String × α)) : Except Mismatch (σ × List (String × α)) :=
  takeEach own (sortOut take?) [] (start, []) entries

/-- Shared settings alone: a map, or the values of the first keys in order. -/
def ofValue (v : α) : Except Mismatch Settings :=
  match shape v with
  | .map entries => ofEntries .alone entries
  | .sequence items =>
    if items.length ≤ keys.length then ofEntries .alone (keys.zip items) else .error .tooLong
  | _ => wrongType v "a map"

end

end MessageTunnel.Settings

namespace MessageTunnel

def ClientSettings.keys : List String := ["remote", "server_name", "trusted_certificate"]

def ServerSettings.keys : List String := ["bind"]

open Settings in
def ClientSettings.take? {α : Type} [Format α] (s : ClientSettings) (entry : String × α) :
    Option (Except Mismatch ClientSettings) :=
  match entry with
  | ("remote", v) => some do return { s with remote := ← asString v }
  | ("server_name", v) => some do return { s with serverName := ← asString v }
  | ("trusted_certificate", v) => some do
    return { s with trustedCertificate := ← optional asPath v }
  | _ => none

open Settings in
def ClientSettings.ofEntries {α : Type} [Format α] (entries : List (String × α)) :
    Except Mismatch ClientSettings := do
  let (own, others) ← separate ClientSettings.keys ClientSettings.take? {} entries
  return { own with shared := ← Settings.ofEntries .amongOthers others }

open Settings in
def ServerSettings.take? {α : Type} [Format α] (s : ServerSettings) (entry : String × α) :
    Option (Except Mismatch ServerSettings) :=
  match entry with
  | ("bind", v) => some do return { s with bind := ← asString v }
  | _ => none

open Settings in
def ServerSettings.ofEntries {α : Type} [Format α] (entries : List (String × α)) :
    Except Mismatch ServerSettings := do
  let (own, others) ← separate ServerSettings.keys ServerSettings.take? {} entries
  return { own with shared := ← Settings.ofEntries .amongOthers others }

open Settings in
def ClientSettings.ofValue {α : Type} [Format α] (v : α) : Except Mismatch ClientSettings :=
  match shape v with
  | .map entries => ClientSettings.ofEntries entries
  | _ => wrongType v "a map"

open Settings in
def ServerSettings.ofValue {α : Type} [Format α] (v : α) : Except Mismatch ServerSettings :=
  match shape v with
  | .map entries => ServerSettings.ofEntries entries
  | _ => wrongType v "a map"

end MessageTunnel
