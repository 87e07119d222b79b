import Tillbook.Toml

/-!
# Tables in the making

A table of a settings file is made in one of three ways, and the way decides what
may still be added to it.

## Main definitions

* `Toml.Node` — a value while the file is read, with how its tables came to be.
* `Toml.put` — a setting is added at a dotted key.
* `Toml.entriesToToml` — the finished settings.
-/

namespace Tillbook.Toml

/-- How a table came to be: by a header of its own, by that of a table inside it,
or by a dotted key. -/
inductive Origin where
  | headed
  | implied
  | dotted
  deriving DecidableEq, Repr

/-- A value while the file is read. -/
inductive Node where
  /-- A value that is complete, such as a table written within one line. -/
  | leaf (v : Toml)
  | table (origin : Origin) (entries : List (String × Node))
  /-- A list of tables, each with a header. -/
  | tables (items : List (List (String × Node)))

/-- The entries of a table while the file is read. -/
abbrev Entries := List (String × Node)

/-- The entries with the one of a name replaced. -/
def replace (k : String) (node : Node) (entries : Entries) : Entries :=
  entries.map fun e => if e.1 == k then (k, node) else e

/-- The entries with a value at a dotted key.  The table that takes the value is
one that a dotted key made; the key may lead there through every table without a
header of its own, and through the last table of a list. -/
def put (path : List String) (v : Toml) (entries : Entries) : Option Entries :=
  match path with
  | [] => none
  | [k] => if (entries.lookup k).isSome then none else some (entries ++ [(k, .leaf v)])
  | k :: rest =>
    match entries.lookup k with
    | none => (put rest v []).map fun es => entries ++ [(k, .table .dotted es)]
    | some (.table origin inner) =>
      if origin = .dotted ∨ (origin = .implied ∧ 1 < rest.length) then
        (put rest v inner).map fun es => replace k (.table origin es) entries
      else none
    | some (.tables items) =>
      if 1 < rest.length then do
        let es ← put rest v (← items.getLast?)
        return replace k (.tables (items.dropLast ++ [es])) entries
      else none
    | some (.leaf _) => none

mutual

/-- The value that a node stands for. -/
def Node.toToml : Node → Toml
  | .leaf v => v
  | .table _ entries => .table (entriesToToml entries)
  | .tables items => .arr (itemsToToml items)

/-- The entries of a table as values. -/
def entriesToToml : List (String × Node) → List (String × Toml)
  | [] => []
  | (k, node) :: rest => (k, node.toToml) :: entriesToToml rest

/-- The tables of a list as values. -/
def itemsToToml : List (List (String × Node)) → List Toml
  | [] => []
  | entries :: rest => .table (entriesToToml entries) :: itemsToToml rest

end

end Tillbook.Toml
