import Tillbook.Text.Digits

/-!
# Values on the wire

What is sent and received is a value of a data format with objects, arrays,
strings and numbers.  Members of an object keep their order and are not made
unique: who reads an object decides what a repeated name means.

## Main definitions

* `Json` — a value.
* `Json.text` — its text.
-/

namespace Tillbook

/-- A value.  Numbers are whole numbers of 64 bits, with or without a sign; of any
other number only is known whether it is finite.  A string with half of a
surrogate pair is no text, and neither is a name with one. -/
inductive Json where
  | null
  | bool (b : Bool)
  | int (n : Int)
  | decimal (isFinite : Bool)
  | str (s : String)
  | unpaired
  | arr (elements : List Json)
  | obj (members : List (Option String × Json))

namespace Json

/-- An object with given members. -/
def object (members : List (String × Json)) : Json := .obj (members.map fun m => (some m.1, m.2))

/-- A word as a value. -/
def word (n : Int64) : Json := .int n.toInt

/-- A value, or nothing. -/
def optional (f : α → Json) : Option α → Json
  | some a => f a
  | none => .null

/-- The digit of a number below sixteen. -/
def hexDigit (n : Nat) : Char := if n < 10 then Char.ofNat (48 + n) else Char.ofNat (87 + n)

/-- One character in a string. -/
def charText (c : Char) : List Char :=
  if c = '"' then ['\\', '"']
  else if c = '\\' then ['\\', '\\']
  else if c = '\n' then ['\\', 'n']
  else if c = '\r' then ['\\', 'r']
  else if c = '\t' then ['\\', 't']
  else if c.toNat = 8 then ['\\', 'b']
  else if c.toNat = 12 then ['\\', 'f']
  else if c.toNat < 32 then
    ['\\', 'u', '0', '0', hexDigit (c.toNat / 16), hexDigit (c.toNat % 16)]
  else [c]

/-- A string in quotes. -/
def quote (s : String) : List Char := '"' :: s.toList.flatMap charText ++ ['"']

mutual

/-- The text of a value, without blanks. -/
def chars : Json → List Char
  | .null => ['n', 'u', 'l', 'l']
  | .bool true => ['t', 'r', 'u', 'e']
  | .bool false => ['f', 'a', 'l', 's', 'e']
  | .int n => Text.ofInt n
  | .decimal _ => ['0', '.', '0']
  | .str s => quote s
  | .unpaired => quote ""
  | .arr elements => '[' :: elementChars elements ++ [']']
  | .obj members => '\x7b' :: memberChars members ++ ['\x7d']

/-- The elements of an array, with commas between them. -/
def elementChars : List Json → List Char
  | [] => []
  | [e] => e.chars
  | e :: rest => e.chars ++ ',' :: elementChars rest

/-- The members of an object, with commas between them. -/
def memberChars : List (Option String × Json) → List Char
  | [] => []
  | [(name, e)] => quote (name.getD "") ++ ':' :: e.chars
  | (name, e) :: rest => quote (name.getD "") ++ ':' :: e.chars ++ ',' :: memberChars rest

end

/-- The text of a value. -/
def text (j : Json) : String := String.ofList j.chars

end Json

end Tillbook
