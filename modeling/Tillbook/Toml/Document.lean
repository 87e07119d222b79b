import Tillbook.Toml.Value

/-!
# Settings files

A settings file is a list of lines: headers, which say in which table the next
settings stand, and settings.  Nothing is said twice.

## Main definitions

* `Toml.Line`, `Toml.Progress` — a line, and the file up to a line.
* `Toml.read?` — the table of a whole file, if it is well formed.
-/

namespace Tillbook.Toml

/-- The entries with the table at a path changed by `f`; tables on the way that are
missing are made. -/
def under (path : List String) (f : Entries → Option Entries) (entries : Entries) :
    Option Entries :=
  match path with
  | [] => f entries
  | k :: rest =>
    match entries.lookup k with
    | none => (under rest f []).map fun es => entries ++ [(k, .table .implied es)]
    | some (.table origin inner) =>
      (under rest f inner).map fun es => replace k (.table origin es) entries
    | some (.tables items) => do
      let es ← under rest f (← items.getLast?)
      return replace k (.tables (items.dropLast ++ [es])) entries
    | some (.leaf _) => none

/-- The entries with a table that gets its header. -/
def openTable (k : String) (entries : Entries) : Option Entries :=
  match entries.lookup k with
  | none => some (entries ++ [(k, .table .headed [])])
  | some (.table .implied es) => some (replace k (.table .headed es) entries)
  | some _ => none

/-- The entries with one more table in a list. -/
def openElement (k : String) (entries : Entries) : Option Entries :=
  match entries.lookup k with
  | none => some (entries ++ [(k, .tables [[]])])
  | some (.tables items) => some (replace k (.tables (items ++ [[]])) entries)
  | some _ => none

/-- A line of a settings file. -/
inductive Line where
  | header (path : List String)
  | element (path : List String)
  | setting (path : List String) (v : Toml)

/-- The file so far, and the table in which the next settings stand. -/
structure Progress where
  root : Entries := []
  current : List String := []

/-- The file with one line more. -/
def Progress.add (p : Progress) : Line → Option Progress
  | .header path => do
    return ⟨← under path.dropLast (openTable (← path.getLast?)) p.root, path⟩
  | .element path => do
    return ⟨← under path.dropLast (openElement (← path.getLast?)) p.root, path⟩
  | .setting path v => do return { p with root := ← under p.current (put path v) p.root }

/-- The line at the front of a text. -/
def line? (cs : List Char) : Option (Line × List Char) :=
  match cs with
  | '[' :: '[' :: r => do
    let (path, r) ← keyPath? r
    match r with
    | ']' :: ']' :: r => return (.element path, r)
    | _ => none
  | '[' :: r => do
    let (path, r) ← keyPath? r
    match r with
    | ']' :: r => return (.header path, r)
    | _ => none
  | cs => do
    let (path, r) ← keyPath? cs
    match r with
    | '=' :: r =>
      let (v, r) ← value? deepest (r.length + 1) (skip r)
      return (.setting path v, r)
    | _ => none

/-- The lines of a text.  Each ends with its line. -/
def lines (fuel : Nat) (p : Progress) (cs : List Char) : Option Progress :=
  match fuel with
  | 0 => none
  | fuel + 1 => do
    match ← skipLines (cs.length + 1) cs with
    | [] => return p
    | cs =>
      let (line, r) ← line? cs
      let p ← p.add line
      match ← skipComment (skip r) with
      | [] => return p
      | r => lines fuel p (← lineEnd? r)

/-- The table of a whole file, if it is well formed. -/
def read? (s : String) : Option Toml :=
  let cs := match s.toList with
    | '\uFEFF' :: r => r
    | cs => cs
  (lines (cs.length + 1) {} cs).map fun p => .table (entriesToToml p.root)

end Tillbook.Toml
