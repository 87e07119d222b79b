import Tillbook.Text.Blank
import Tillbook.Timestamp

/-!
# Moments on the wire

A moment on the wire is a date, a separator, a time of day and a zone.  The
reader is lenient about blanks between the parts and about numbers of one digit;
it is strict about ranges.  The zone is `Z`, `UTC` in any case, or a sign, hours
and minutes; the moment is moved to universal time.

## Main definitions

* `Timestamp.read?` — the moment that a text denotes, if it denotes one.
-/

namespace Tillbook.Timestamp

open Text (isBlank trimStart value)

/-- Between one and `width` digits, after blanks. -/
def number (width : Nat) (cs : List Char) : Option (Nat × List Char) :=
  let cs := trimStart cs
  match (cs.take width).takeWhile Char.isDigit with
  | [] => none
  | ds => some (value ds, cs.drop ds.length)

/-- A year: up to four digits, or a sign and any number of digits. -/
def readYear (cs : List Char) : Option (Int × List Char) :=
  match trimStart cs with
  | '-' :: r =>
    match r.takeWhile Char.isDigit with
    | [] => none
    | ds => some (-value ds, r.drop ds.length)
  | '+' :: r =>
    match r.takeWhile Char.isDigit with
    | [] => none
    | ds => some (value ds, r.drop ds.length)
  | r => (number 4 r).map fun (n, r) => (n, r)

/-- One given character, after blanks. -/
def mark (c : Char) (cs : List Char) : Option (List Char) :=
  match trimStart cs with
  | d :: r => if d = c then some r else none
  | [] => none

/-- The fraction of a second, in nanoseconds: digits after the ninth are dropped. -/
def readFraction : List Char → Option (Nat × List Char)
  | '.' :: r =>
    match r.takeWhile Char.isDigit with
    | [] => none
    | ds => some (value ((ds ++ List.replicate 9 '0').take 9), r.drop ds.length)
  | r => some (0, r)

/-- Two digits, without blanks before them. -/
def twoDigits : List Char → Option (Nat × List Char)
  | a :: b :: r => if a.isDigit && b.isDigit then some (value [a, b], r) else none
  | _ => none

/-- The hours and minutes of a zone, as minutes with the sign `sign`.  Colons and
blanks may stand between them. -/
def offsetFrom (sign : Int) (cs : List Char) : Option (Int × List Char) := do
  let (hours, rest) ← twoDigits cs
  let (minutes, rest) ← twoDigits (rest.dropWhile fun c => c == ':' || isBlank c)
  if 60 ≤ minutes ∨ 24 ≤ hours then none
  else some (sign * (60 * hours + minutes), rest)

/-- The distance of a zone from universal time, in minutes. -/
def readZone (cs : List Char) : Option (Int × List Char) :=
  match trimStart cs with
  | 'Z' :: r | 'z' :: r => some (0, r)
  | '+' :: r => offsetFrom 1 r
  | '-' :: r | '−' :: r => offsetFrom (-1) r
  | u :: t :: c :: r =>
    if u.toUpper = 'U' ∧ t.toUpper = 'T' ∧ c.toUpper = 'C' then some (0, r) else none
  | _ => none

/-- Years outside this range have no moments. -/
def validYear (year : Int) : Bool := -262143 ≤ year && year ≤ 262142

/-- The parts of the moment are within their ranges. -/
def inRange (t : Timestamp) : Bool :=
  validYear t.year && 1 ≤ t.month && t.month ≤ 12 && 1 ≤ t.day && t.day ≤ daysIn t.year t.month
    && t.hour < 24 && t.minute < 60 && t.second ≤ 60

/-- The moment of a local time that is `offset` minutes ahead of universal time. -/
def toUniversal (t : Timestamp) (offset : Int) : Timestamp :=
  let minutes : Int := 60 * t.hour + t.minute - offset
  let within (m : Nat) (t : Timestamp) := { t with hour := m / 60, minute := m % 60 }
  if minutes < 0 then within (minutes + 1440).toNat t.previousDay
  else if 1440 ≤ minutes then within (minutes - 1440).toNat t.nextDay
  else within minutes.toNat t

/-- The moment that a text denotes. -/
def readChars (cs : List Char) : Option Timestamp := do
  let (year, cs) ← readYear cs
  let (month, cs) ← number 2 (← mark '-' cs)
  let (day, cs) ← number 2 (← mark '-' cs)
  let cs ← match cs with
    | 't' :: r | 'T' :: r | ' ' :: r => some r
    | _ => none
  let (hour, cs) ← number 2 cs
  let (minute, cs) ← number 2 (← mark ':' cs)
  let (second, cs) ← number 2 (← mark ':' cs)
  let (nano, cs) ← readFraction cs
  let (offset, cs) ← readZone cs
  let civil : Timestamp := ⟨year, month, day, hour, minute, second, nano⟩
  let moment := toUniversal civil offset
  if (trimStart cs).isEmpty ∧ inRange civil ∧ validYear moment.year then some moment else none

/-- The moment that a text denotes, if it denotes one. -/
def read? (s : String) : Option Timestamp := readChars s.toList

end Tillbook.Timestamp
