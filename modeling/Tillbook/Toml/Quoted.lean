import Tillbook.Text.Digits
import Tillbook.Toml.Gap

/-!
# Texts in quotes

A text stands between single or double quotes, on one line between one quote, on
several lines between three.  Only double quotes leave room for escapes.

## Main definitions

* `Toml.escape?` — the character of an escape.
* `Toml.quoted?`, `Toml.literal?`, `Toml.lines?` — the rest of a text after its
  opening quote.
* `Toml.string?` — a text in quotes of any kind.
-/

namespace Tillbook.Toml

/-- The character of a number in hexadecimal digits. -/
def scalar? (ds : List Char) : Option Char := do
  let n ← ds.foldlM (fun n c => (Text.hexValue? c).map (16 * n + ·)) 0
  if n < 0xD800 ∨ (0xE000 ≤ n ∧ n < 0x110000) then some (Char.ofNat n) else none

/-- The character of an escape after its backslash, and the rest. -/
def escape? : List Char → Option (Char × List Char)
  | '"' :: r => some ('"', r)
  | '\\' :: r => some ('\\', r)
  | 'b' :: r => some ('\x08', r)
  | 'f' :: r => some ('\x0c', r)
  | 'n' :: r => some ('\n', r)
  | 'r' :: r => some ('\r', r)
  | 't' :: r => some ('\t', r)
  | 'u' :: r => if 4 ≤ r.length then (scalar? (r.take 4)).map (·, r.drop 4) else none
  | 'U' :: r => if 8 ≤ r.length then (scalar? (r.take 8)).map (·, r.drop 8) else none
  | _ => none

/-- The rest of a text in quotes on one line. -/
def quoted? (fuel : Nat) (cs : List Char) : Option (List Char × List Char) :=
  match fuel with
  | 0 => none
  | fuel + 1 =>
    match cs with
    | '"' :: r => some ([], r)
    | '\\' :: r => do
      let (c, r) ← escape? r
      let (s, r) ← quoted? fuel r
      return (c :: s, r)
    | c :: r =>
      if isControl c then none
      else (quoted? fuel r).map fun (s, r) => (c :: s, r)
    | [] => none

/-- The rest of a text in single quotes on one line, without escapes. -/
def literal? (cs : List Char) : Option (List Char × List Char) :=
  let s := cs.takeWhile (· != '\'')
  match cs.drop s.length with
  | _ :: r => if s.any isControl then none else some (s, r)
  | [] => none

/-- The rest of a text of several lines between three quotes `q`; between double
quotes there are escapes.  Up to two quotes at its end belong to the text. -/
def lines? (q : Char) (fuel : Nat) (cs : List Char) : Option (List Char × List Char) :=
  match fuel with
  | 0 => none
  | fuel + 1 =>
    match cs with
    | [] => none
    | '\r' :: '\n' :: r => (lines? q fuel r).map fun (s, r) => ('\n' :: s, r)
    | '\n' :: r => (lines? q fuel r).map fun (s, r) => ('\n' :: s, r)
    | c :: r =>
      let quotes := cs.takeWhile (· == q)
      if 5 < quotes.length then none
      else if 3 ≤ quotes.length then some (quotes.drop 3, cs.drop quotes.length)
      else if c = '\\' ∧ q = '"' then
        if (lineEnd? (skip r)).isSome then lines? q fuel (skipGap fuel r)
        else do
          let (c, r) ← escape? r
          let (s, r) ← lines? q fuel r
          return (c :: s, r)
      else if isControl c then none
      else (lines? q fuel r).map fun (s, r) => (c :: s, r)

/-- The first line end of a text of several lines does not belong to it. -/
def afterOpening (cs : List Char) : List Char := (lineEnd? cs).getD cs

/-- A text in quotes of any of the four kinds. -/
def string? (cs : List Char) : Option (String × List Char) :=
  let fuel := cs.length + 1
  let chars : Option (List Char × List Char) := match cs with
    | '"' :: '"' :: '"' :: r => lines? '"' fuel (afterOpening r)
    | '\'' :: '\'' :: '\'' :: r => lines? '\'' fuel (afterOpening r)
    | '"' :: r => quoted? fuel r
    | '\'' :: r => literal? r
    | _ => none
  chars.map fun (s, r) => (String.ofList s, r)

end Tillbook.Toml
