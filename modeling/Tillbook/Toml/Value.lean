import Tillbook.Toml.Key
import Tillbook.Toml.Moment
import Tillbook.Toml.Node
import Tillbook.Toml.Number

/-!
# Values of settings

A value is a text, a number, a truth value, a moment, or a list or table of values.

## Main definitions

* `Toml.token?` — a value without quotes or brackets.
* `Toml.value?` — a value.
-/

namespace Tillbook.Toml

/-- The characters of numbers and moments. -/
def isTokenChar (c : Char) : Bool :=
  c.isAlphanum || c == '+' || c == '-' || c == '_' || c == '.' || c == ':'

/-- A number, a truth value or a moment without blanks. -/
def ofToken? (cs : List Char) : Option Toml :=
  match cs with
  | ['t', 'r', 'u', 'e'] => some (.bool true)
  | ['f', 'a', 'l', 's', 'e'] => some (.bool false)
  | '0' :: 'x' :: r => based? 16 r
  | '0' :: 'o' :: r => based? 8 r
  | '0' :: 'b' :: r => based? 2 r
  | _ =>
    decimal? cs <|>
      if isFraction cs then some .fraction else if isMoment cs then some .moment else none

/-- A number, a truth value or a moment.  A blank may stand between a date and a
time of day. -/
def token? (cs : List Char) : Option (Toml × List Char) :=
  let token := cs.takeWhile isTokenChar
  let rest := cs.drop token.length
  match rest with
  | ' ' :: d :: r =>
    if isDate token && d.isDigit then
      let time := (d :: r).takeWhile isTokenChar
      if isZonedTime time then some (.moment, (d :: r).drop time.length) else none
    else (ofToken? token).map (·, rest)
  | rest => (ofToken? token).map (·, rest)

mutual

/-- A value at the front of a text.  Lists and tables may be nested `depth` deep in
it.  Every part takes one unit of fuel. -/
def value? (depth fuel : Nat) (cs : List Char) : Option (Toml × List Char) :=
  match fuel with
  | 0 => none
  | fuel + 1 =>
    match depth, cs with
    | _, '"' :: _ | _, '\'' :: _ => (string? cs).map fun (s, r) => (.str s, r)
    | 0, '[' :: _ | 0, '\x7b' :: _ => none
    | depth + 1, '[' :: r => (elements? depth fuel r).map fun (es, r) => (.arr es, r)
    | depth + 1, '\x7b' :: r =>
      match skip r with
      | '\x7d' :: r => some (.table [], r)
      | r => (entries? depth fuel [] r).map fun (es, r) => (.table (entriesToToml es), r)
    | _, cs => token? cs

/-- The elements of a list up to its end; a comma may follow the last. -/
def elements? (depth fuel : Nat) (cs : List Char) : Option (List Toml × List Char) :=
  match fuel with
  | 0 => none
  | fuel + 1 => do
    match ← skipLines (cs.length + 1) cs with
    | ']' :: r => return ([], r)
    | r =>
      let (e, r) ← value? depth fuel r
      match ← skipLines (r.length + 1) r with
      | ']' :: r => return ([e], r)
      | ',' :: r =>
        let (es, r) ← elements? depth fuel r
        return (e :: es, r)
      | _ => none

/-- The entries of an inline table up to its end. -/
def entries? (depth fuel : Nat) (entries : Entries) (cs : List Char) :
    Option (Entries × List Char) :=
  match fuel with
  | 0 => none
  | fuel + 1 => do
    let (path, r) ← keyPath? cs
    match r with
    | '=' :: r =>
      let (v, r) ← value? depth fuel (skip r)
      let entries ← put path v entries
      match skip r with
      | '\x7d' :: r => return (entries, r)
      | ',' :: r => entries? depth fuel entries r
      | _ => none
    | _ => none

end

end Tillbook.Toml
