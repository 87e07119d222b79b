import Tillbook.Double
import Tillbook.Text.Digits
import Tillbook.Toml

/-!
# Numbers in settings files

A whole number is a word, in decimal digits or in another base.  Of a number with a
fraction only the form matters here, for no setting is one.

## Main definitions

* `Toml.based?` — a whole number in another base.
* `Toml.decimal?` — a whole number in decimal digits.
* `Toml.isFraction` — a number with a fraction, an exponent or both.
-/

namespace Tillbook.Toml

/-- Digits, of which single underscores may separate any two. -/
def isDigitRun (isDigit : Char → Bool) : List Char → Bool
  | [] => false
  | [c] => isDigit c
  | c :: '_' :: r => isDigit c && isDigitRun isDigit r
  | c :: r => isDigit c && isDigitRun isDigit r

/-- Decimal digits without superfluous zeros. -/
def isDecimalRun (ds : List Char) : Bool :=
  isDigitRun Char.isDigit ds && (ds.length == 1 || ds.head? != some '0')

/-- The number of digits in a base, as a word. -/
def based? (base : Nat) (ds : List Char) : Option Toml :=
  let fits (c : Char) := (Text.hexValue? c).any (· < base)
  if isDigitRun fits ds then
    let n := (ds.filter (· != '_')).foldl (fun n c => base * n + (Text.hexValue? c).getD 0) 0
    (Word.ofInt? n).map .int
  else none

/-- A sign and the rest of a number. -/
def splitSign : List Char → Bool × List Char
  | '-' :: r => (true, r)
  | '+' :: r => (false, r)
  | r => (false, r)

/-- The number that digits with a sign and underscores stand for. -/
def signed (cs : List Char) : Int :=
  let (negative, ds) := splitSign cs
  let n := Text.value (ds.filter (· != '_'))
  if negative then -n else n

/-- A number with a fraction, an exponent or both.  A positive one is held as a
floating number that is not infinite. -/
def isFraction (cs : List Char) : Bool :=
  let (negative, cs) := splitSign cs
  if cs == ['i', 'n', 'f'] || cs == ['n', 'a', 'n'] then true
  else
    let isMark (c : Char) := c == 'e' || c == 'E'
    let mantissa := cs.takeWhile fun c => !isMark c
    let exponent := cs.drop mantissa.length
    let whole := mantissa.takeWhile (· != '.')
    let places := mantissa.drop whole.length
    let digits := (whole ++ places.drop 1).filter (· != '_')
    let unit := ((places.drop 1).filter (· != '_')).length
    (!places.isEmpty || !exponent.isEmpty) && isDecimalRun whole
      && (places.isEmpty || isDigitRun Char.isDigit (places.drop 1))
      && (exponent.isEmpty || isDigitRun Char.isDigit (splitSign (exponent.drop 1)).2)
      && (negative
        || Double.isFiniteScaled (Text.value digits) (signed (exponent.drop 1) - unit))

/-- A whole number in decimal digits, with a sign or without. -/
def decimal? (cs : List Char) : Option Toml :=
  if isDecimalRun (splitSign cs).2 then (Word.ofInt? (signed cs)).map .int else none

end Tillbook.Toml
