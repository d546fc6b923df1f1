import MessageTunnel.Toml.Value
/-!
Adding to tables. Nothing can be defined twice, and what one way of writing has begun cannot be
continued by another: dots do not reach into a table with a header of its own, nor a header into a
table that was made by dots.
-/
set_option autoImplicit false

namespace MessageTunnel.Toml

abbrev Entries := List (String × Toml)

def setEntry (key : String) (value : Toml) (entries : Entries) : Entries :=
  entries.map fun e => if e.1 = key then (key, value) else e

/-- Changes the table that a path leads to. Missing tables on the way are made. In an array of
tables the path goes on in the last one. -/
def within (dots : Bool) (change : Origin → Entries → Option Entries) :
    List String → Origin → Entries → Option Entries
  | [], origin, entries => change origin entries
  | key :: path, _, entries =>
    match entries.lookup key with
    | none => do
      let origin := if dots then Origin.dots else .outerHeader
      let inner ← within dots change path origin []
      return entries ++ [(key, .table origin inner)]
    | some (.table origin inner) =>
      if origin = .braces ∨ dots ∧ origin = .header then none
      else do
        let inner ← within dots change path origin inner
        return setEntry key (.table origin inner) entries
    | some (.tables items) => do
      let inner ← within dots change path .header (← items.getLast?)
      return setEntry key (.tables (items.dropLast ++ [inner])) entries
    | some _ => none

def addEntry (path : List String) (value : Toml) (origin : Origin) (entries : Entries) :
    Option Entries := do
  let key ← path.getLast?
  within true (fun origin entries =>
    if (origin = .dots) = (path.length = 1) ∨ (entries.lookup key).isSome then none
    else some (entries ++ [(key, value)])) path.dropLast origin entries

def ofBraces (pairs : List (List String × Toml)) : Option Toml := do
  let entries ← pairs.foldlM (fun entries (path, value) => addEntry path value .braces entries) []
  return .table .braces entries

inductive Statement where
  | entry (path : List String) (value : Toml)
  | header (path : List String)
  | nextHeader (path : List String)

/-- A document up to some statement: all entries, and the path of the table that is being filled. -/
structure Draft where
  entries : Entries
  here : List String

/-- Begins a table. One that was made for the sake of a table inside it may be begun still. -/
def beginTable (key : String) (entries : Entries) : Option Entries :=
  match entries.lookup key with
  | none => some (entries ++ [(key, .table .header [])])
  | some (.table .outerHeader inner) =>
    some (entries.filter (fun e => e.1 ≠ key) ++ [(key, .table .header inner)])
  | some _ => none

def beginNext (key : String) (entries : Entries) : Option Entries :=
  match entries.lookup key with
  | none => some (entries ++ [(key, .tables [[]])])
  | some (.tables items) => some (setEntry key (.tables (items ++ [[]])) entries)
  | some _ => none

def Draft.add (d : Draft) : Statement → Option Draft
  | .entry path value => do
    let entries ← within false (addEntry path value) d.here .header d.entries
    return { d with entries := entries }
  | .header path => do
    let key ← path.getLast?
    let entries ← within false (fun _ => beginTable key) path.dropLast .header d.entries
    return ⟨entries, path⟩
  | .nextHeader path => do
    let key ← path.getLast?
    let entries ← within false (fun _ => beginNext key) path.dropLast .header d.entries
    return ⟨entries, path⟩

def ofStatements (statements : List Statement) : Option Entries := do
  return (← statements.foldlM Draft.add ⟨[], []⟩).entries

end MessageTunnel.Toml
