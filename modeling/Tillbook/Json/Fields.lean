import Tillbook.Json
import Tillbook.Word

/-!
# Records on the wire

A record is an object whose members have the names of its fields, in any order,
with any others between them, or an array of the fields in their order.

## Main definitions

* `Json.fields?` — the fields of a record by name.
* `Json.Slot.required`, `Json.Slot.optional`, `Json.Slot.optionalOr`,
  `Json.Slot.orElse` — what a missing field means.
* `Json.ofUnit?` — the cases of an enumeration.
-/

namespace Tillbook.Json

/-- What a record has in the place of a field. -/
inductive Slot where
  | given (j : Json)
  /-- The object has no such member. -/
  | absent
  /-- The array ends before it. -/
  | beyond

namespace Slot

/-- A field that must be there. -/
def required (f : Json → Option α) : Slot → Option α
  | given j => f j
  | _ => none

/-- A value that may be null. -/
def nullable (f : Json → Option α) : Json → Option (Option α)
  | .null => some none
  | j => (f j).map some

/-- A field that may be null, and that an object may leave out. -/
def optional (f : Json → Option α) : Slot → Option (Option α)
  | given j => nullable f j
  | absent => some none
  | beyond => none

/-- A field that may be null or left out. -/
def optionalOr (f : Json → Option α) : Slot → Option (Option α)
  | given j => nullable f j
  | _ => some none

/-- A field that may be left out, but not null. -/
def orElse (a : α) (f : Json → Option α) : Slot → Option α
  | given j => f j
  | _ => some a

end Slot

/-- The fields of a record by name.  A name of a field may not be repeated, and an
array may not have more elements than there are fields. -/
def fields? (names : List String) : Json → Option (String → Slot)
  | .obj members =>
    if members.any (·.1.isNone) ∨ names.any fun n => 1 < members.countP (·.1 == some n) then none
    else some fun name =>
      match members.find? (·.1 == some name) with
      | some m => .given m.2
      | none => .absent
  | .arr elements =>
    if names.length < elements.length then none
    else some fun name =>
      match elements[names.idxOf name]? with
      | some j => .given j
      | none => .beyond
  | _ => none

/-- A whole number between two bounds. -/
def int? (low high : Int) : Json → Option Int
  | .int n => if low ≤ n ∧ n ≤ high then some n else none
  | _ => none

/-- A word. -/
def word? : Json → Option Int64
  | .int n => Word.ofInt? n
  | _ => none

/-- A natural number of 32 bits. -/
def nat32? (j : Json) : Option Nat := (int? 0 (UInt32.size - 1) j).map Int.toNat

/-- A natural number of 64 bits. -/
def nat64? (j : Json) : Option Nat := (int? 0 (UInt64.size - 1) j).map Int.toNat

/-- A truth value. -/
def bool? : Json → Option Bool
  | .bool b => some b
  | _ => none

/-- A text. -/
def str? : Json → Option String
  | .str s => some s
  | _ => none

/-- A list. -/
def list? (f : Json → Option α) : Json → Option (List α)
  | .arr elements => elements.mapM f
  | _ => none

/-- A case of an enumeration: its name, or an object with nothing under its name.
Inside a payment an empty object counts as nothing. -/
def ofUnit? (inPayment : Bool) (cases : List (String × α)) : Json → Option α
  | .str s => cases.lookup s
  | .obj [(some s, .null)] => cases.lookup s
  | .obj [(some s, .obj [])] => if inPayment then cases.lookup s else none
  | _ => none

mutual

/-- The levels of nesting in a value. -/
def depth : Json → Nat
  | .arr elements => elementDepth elements + 1
  | .obj members => memberDepth members + 1
  | _ => 0

/-- The deepest nesting in a list of values. -/
def elementDepth : List Json → Nat
  | [] => 0
  | e :: rest => max e.depth (elementDepth rest)

/-- The deepest nesting in a list of members. -/
def memberDepth : List (Option String × Json) → Nat
  | [] => 0
  | (_, e) :: rest => max e.depth (memberDepth rest)

end

mutual

/-- All texts are texts and all numbers are finite. -/
def isPlain : Json → Bool
  | .decimal isFinite => isFinite
  | .unpaired => false
  | .arr elements => arePlain elements
  | .obj members => areMembersPlain members
  | _ => true

/-- Each value of a list is plain. -/
def arePlain : List Json → Bool
  | [] => true
  | e :: rest => e.isPlain && arePlain rest

/-- Each member of a list has a text for its name and a plain value. -/
def areMembersPlain : List (Option String × Json) → Bool
  | [] => true
  | (name, e) :: rest => name.isSome && e.isPlain && areMembersPlain rest

end

end Tillbook.Json
