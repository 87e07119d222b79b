import Tillbook.Word

/-!
# Settings texts

The values of a settings file: texts, numbers, truth values, lists and tables.

## Main definitions

* `Toml` — a value.
* `Toml.fields?` — the settings of a table by name.
-/

namespace Tillbook

/-- A value of a settings file.  No setting is a fraction or a moment, so nothing
is kept of those. -/
inductive Toml where
  | str (s : String)
  | int (n : Int64)
  | bool (b : Bool)
  | fraction
  | moment
  | arr (elements : List Toml)
  | table (entries : List (String × Toml))

namespace Toml

/-- The settings of a table by name; a list gives them in their order.  A moment
stands for a table without any of them. -/
def fields? (names : List String) : Toml → Option (String → Option Toml)
  | .table entries => some fun name => entries.lookup name
  | .arr elements => some fun name => elements[names.idxOf name]?
  | .moment => some fun _ => none
  | _ => none

/-- A setting that may be left out. -/
def orElse (a : α) (f : Toml → Option α) : Option Toml → Option α
  | some v => f v
  | none => some a

/-- A text. -/
def str? : Toml → Option String
  | .str s => some s
  | _ => none

/-- A truth value. -/
def bool? : Toml → Option Bool
  | .bool b => some b
  | _ => none

/-- A whole number from zero to `max`. -/
def nat? (max : Nat) : Toml → Option Nat
  | .int n => if 0 ≤ n.toInt ∧ n.toInt ≤ max then some n.toInt.toNat else none
  | _ => none

end Toml

end Tillbook
