import Tillbook.Double
import Tillbook.Json

/-!
# Reading values

The reader takes the texts of the data format and no others: nothing may follow
the value but blanks.

## Main definitions

* `Json.read?` — the value of a text, if it is one.
-/

namespace Tillbook.Json

/-- The blanks between the parts of a text. -/
def isSpace (c : Char) : Bool := c == ' ' || c == '\n' || c == '\t' || c == '\r'

/-- A text without the blanks at its front. -/
def skip (cs : List Char) : List Char := cs.dropWhile isSpace

/-- The value of four hexadecimal digits. -/
def hexValues? (a b c d : Char) : Option Nat := do
  let ns ← [a, b, c, d].mapM Text.hexValue?
  return ns.foldl (fun n m => 16 * n + m) 0

/-- The character that a letter stands for after a backslash. -/
def escaped? (c : Char) : Option Char :=
  if c = '"' ∨ c = '\\' ∨ c = '/' then some c
  else if c = 'b' then some '\x08'
  else if c = 'f' then some '\x0c'
  else if c = 'n' then some '\n'
  else if c = 'r' then some '\r'
  else if c = 't' then some '\t'
  else none

/-- A part of a string: a character, or half of a surrogate pair. -/
inductive Piece where
  | char (c : Char)
  | half (n : Nat)
  deriving DecidableEq, Repr

/-- What four hexadecimal digits stand for. -/
def Piece.ofNumber (n : Nat) : Piece :=
  if 0xD800 ≤ n ∧ n < 0xE000 then half n else char (Char.ofNat n)

/-- The parts of a string up to its closing quote, and what follows. -/
def pieces? : List Char → Option (List Piece × List Char)
  | [] => none
  | '"' :: r => some ([], r)
  | '\\' :: 'u' :: a :: b :: c :: d :: r => do
    let n ← hexValues? a b c d
    let (ps, r) ← pieces? r
    return (Piece.ofNumber n :: ps, r)
  | '\\' :: c :: r => do
    let c ← escaped? c
    let (ps, r) ← pieces? r
    return (.char c :: ps, r)
  | c :: r =>
    if c.toNat < 32 ∨ c = '\\' then none
    else do
      let (ps, r) ← pieces? r
      return (.char c :: ps, r)

/-- The characters of a string, unless half of a surrogate pair stands alone. -/
def join? : List Piece → Option (List Char)
  | [] => some []
  | .char c :: r => (join? r).map (c :: ·)
  | .half high :: .half low :: r =>
    if high < 0xDC00 ∧ 0xDC00 ≤ low then
      let c := Char.ofNat (0x10000 + 1024 * (high - 0xD800) + (low - 0xDC00))
      (join? r).map (c :: ·)
    else none
  | .half _ :: _ => none

/-- The characters of a string up to its closing quote, and what follows.  There
are none if half of a surrogate pair stands alone. -/
def stringTail (cs : List Char) : Option (Option (List Char) × List Char) :=
  (pieces? cs).map fun (ps, r) => (join? ps, r)

/-- Whole digits that fit into 64 bits, and the number of digits that do not. -/
def absorb (significand : Nat) : List Char → Nat × Nat
  | [] => (significand, 0)
  | c :: r =>
    let next := 10 * significand + Text.digitValue c
    if next < UInt64.size then absorb next r else (significand, r.length + 1)

/-- Whether a number with the given digits before and after the point and the
given exponent is finite, when it is held as a floating number. -/
def isFiniteDecimal (whole fraction : List Char) (exponent : Int) : Bool :=
  let (significand, left) := absorb 0 whole
  let (significand, unused) := absorb significand fraction
  let exponent := exponent + left - (fraction.length - unused : Nat)
  significand == 0 || exponent < 0
    || (exponent ≤ 308 && Double.isFinite
      (Double.nearest significand * Double.nearest (Nat.pow 10 exponent.toNat)).natAbs)

/-- Digits at the front of a text, and what follows. -/
def spanDigits (cs : List Char) : List Char × List Char :=
  (cs.takeWhile Char.isDigit, cs.dropWhile Char.isDigit)

/-- The fraction of a number: empty without a point. -/
def fraction? : List Char → Option (List Char × List Char)
  | '.' :: r =>
    let (ds, r) := spanDigits r
    if ds.isEmpty then none else some (ds, r)
  | r => some ([], r)

/-- The exponent of a number: `none` inside if there is none. -/
def exponent? (cs : List Char) : Option (Option Int × List Char) :=
  match cs with
  | e :: r =>
    if e = 'e' ∨ e = 'E' then
      let (sign, r) : Int × List Char := match r with
        | '-' :: r => (-1, r)
        | '+' :: r => (1, r)
        | r => (1, r)
      let (ds, r) := spanDigits r
      if ds.isEmpty then none else some (some (sign * Text.value ds), r)
    else some (none, cs)
  | [] => some (none, [])

/-- The number at the front of a text.  A whole number of 64 bits is kept; minus
zero is none. -/
def number? (cs : List Char) : Option (Json × List Char) := do
  let (negative, cs) := match cs with
    | '-' :: r => (true, r)
    | r => (false, r)
  let (whole, cs) := spanDigits cs
  if whole.isEmpty ∨ (whole.head? = some '0' ∧ 1 < whole.length) then none
  else
    let (fraction, cs) ← fraction? cs
    let (exponent, cs) ← exponent? cs
    let n := Text.value whole
    if fraction.isEmpty ∧ exponent = none
        ∧ (if negative then 0 < n ∧ 2 * n ≤ UInt64.size else n < UInt64.size) then
      return (.int (if negative then -n else n), cs)
    else return (.decimal (isFiniteDecimal whole fraction (exponent.getD 0)), cs)

/-- The text after a given one, if it begins with that. -/
def after? (start cs : List Char) : Option (List Char) :=
  if start.isPrefixOf cs then some (cs.drop start.length) else none

/-- The value of a string. -/
def ofString : Option (List Char) → Json
  | some cs => .str (String.ofList cs)
  | none => .unpaired

mutual

/-- The value at the front of a text.  Every level of nesting takes one unit of fuel. -/
def value? (fuel : Nat) (cs : List Char) : Option (Json × List Char) :=
  match fuel with
  | 0 => none
  | fuel + 1 =>
    match skip cs with
    | [] => none
    | '"' :: r => (stringTail r).map fun (s, r) => (ofString s, r)
    | '[' :: r =>
      match skip r with
      | ']' :: r => some (.arr [], r)
      | r => (elements? fuel r).map fun (es, r) => (.arr es, r)
    | '\x7b' :: r =>
      match skip r with
      | '\x7d' :: r => some (.obj [], r)
      | r => (members? fuel r).map fun (ms, r) => (.obj ms, r)
    | 'n' :: r => (after? ['u', 'l', 'l'] r).map fun r => (.null, r)
    | 't' :: r => (after? ['r', 'u', 'e'] r).map fun r => (.bool true, r)
    | 'f' :: r => (after? ['a', 'l', 's', 'e'] r).map fun r => (.bool false, r)
    | r => number? r

/-- The elements of an array that has some, up to its end. -/
def elements? (fuel : Nat) (cs : List Char) : Option (List Json × List Char) :=
  match fuel with
  | 0 => none
  | fuel + 1 => do
    let (e, r) ← value? fuel cs
    match skip r with
    | ']' :: r => return ([e], r)
    | ',' :: r => do
      let (es, r) ← elements? fuel r
      return (e :: es, r)
    | _ => none

/-- The members of an object that has some, up to its end. -/
def members? (fuel : Nat) (cs : List Char) : Option (List (Option String × Json) × List Char) :=
  match fuel with
  | 0 => none
  | fuel + 1 =>
    match skip cs with
    | '"' :: r => do
      let (name, r) ← stringTail r
      match skip r with
      | ':' :: r => do
        let (e, r) ← value? fuel r
        let m := (name.map String.ofList, e)
        match skip r with
        | '\x7d' :: r => return ([m], r)
        | ',' :: r => do
          let (ms, r) ← members? fuel r
          return (m :: ms, r)
        | _ => none
      | _ => none
    | _ => none

end

/-- The value of a text, if it is one. -/
def read? (s : String) : Option Json :=
  let cs := s.toList
  match value? (cs.length + 1) cs with
  | some (j, r) => if (skip r).isEmpty then some j else none
  | none => none

end Tillbook.Json
