import Tillbook.Toml.Quoted

/-!
# Keys of settings

A key is a name, with quotes or without; points between names lead into tables.

## Main definitions

* `Toml.keyPath?` — a key, which may be dotted.
* `Toml.deepest` — how deep tables and lists are nested at most.
-/

namespace Tillbook.Toml

/-- The characters of a key without quotes. -/
def isKeyChar (c : Char) : Bool := c.isAlphanum || c == '_' || c == '-'

/-- One part of a key. -/
def key? (cs : List Char) : Option (String × List Char) :=
  match cs with
  | '"' :: r => (quoted? (r.length + 1) r).map fun (s, r) => (String.ofList s, r)
  | '\'' :: r => (literal? r).map fun (s, r) => (String.ofList s, r)
  | cs =>
    match cs.takeWhile isKeyChar with
    | [] => none
    | k => some (String.ofList k, cs.drop k.length)

/-- The parts of a key, with points between them. -/
def keyParts? (fuel : Nat) (cs : List Char) : Option (List String × List Char) :=
  match fuel with
  | 0 => none
  | fuel + 1 => do
    let (k, r) ← key? (skip cs)
    match skip r with
    | '.' :: r => (keyParts? fuel r).map fun (ks, r) => (k :: ks, r)
    | r => some ([k], r)

/-- How deep tables and lists are nested at most. -/
def deepest : Nat := 79

/-- A key, which may be dotted. -/
def keyPath? (cs : List Char) : Option (List String × List Char) := do
  let (path, r) ← keyParts? (cs.length + 1) cs
  if path.length ≤ deepest then some (path, r) else none

end Tillbook.Toml
