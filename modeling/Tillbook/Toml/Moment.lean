import Tillbook.Text.Digits
import Tillbook.Timestamp

/-!
# Moments in settings files

A moment is a date, a time of day, or a date and a time of day with a zone or
without.  Only the form matters here, for no setting is a moment.

## Main definitions

* `Toml.isDate`, `Toml.isTime`, `Toml.isZone` — the parts of a moment.
* `Toml.isMoment` — a moment without a blank in it.
-/

namespace Tillbook.Toml

/-- Two digits that stand for a number between two bounds. -/
def isPair (low high : Nat) (cs : List Char) : Bool :=
  cs.length == 2 && cs.all Char.isDigit && low ≤ Text.value cs && Text.value cs ≤ high

/-- A date: the day is one of its month. -/
def isDate (cs : List Char) : Bool :=
  match cs.splitOn '-' with
  | [y, m, d] =>
    y.length == 4 && y.all Char.isDigit && isPair 1 12 m
      && isPair 1 (Timestamp.daysIn (Text.value y) (Text.value m)) d
  | _ => false

/-- A time of day, with or without a fraction. -/
def isTime (cs : List Char) : Bool :=
  match (cs.takeWhile (· != '.')).splitOn ':' with
  | [h, m, s] =>
    let fraction := cs.dropWhile (· != '.')
    isPair 0 23 h && isPair 0 59 m && isPair 0 60 s
      && (fraction.isEmpty || (1 < fraction.length && (fraction.drop 1).all Char.isDigit))
  | _ => false

/-- A zone: a letter, or a sign with hours and minutes.  It may be left out. -/
def isZone : List Char → Bool
  | [] => true
  | ['Z'] | ['z'] => true
  | sign :: distance =>
    (sign == '+' || sign == '-') &&
      match distance.splitOn ':' with
      | [h, m] => isPair 0 23 h && isPair 0 59 m
      | _ => false

/-- A time of day with a zone or without. -/
def isZonedTime (cs : List Char) : Bool :=
  let time := cs.takeWhile fun c => c != 'Z' && c != 'z' && c != '+' && c != '-'
  isTime time && isZone (cs.drop time.length)

/-- A moment without a blank in it: a letter stands between its date and its time
of day. -/
def isMoment (cs : List Char) : Bool :=
  isTime cs || isDate cs
    || (isDate (cs.take 10) && (cs[10]?.any fun c => c == 'T' || c == 't')
      && isZonedTime (cs.drop 11))

end Tillbook.Toml
