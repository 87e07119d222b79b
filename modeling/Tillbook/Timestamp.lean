import Tillbook.Text.Digits

/-!
# Moments

A moment is a date and a time of day in universal time, to the nanosecond.  The
sixtieth second of a minute is allowed, so that a leap second has a moment of
its own.  Moments are written in three ways: with the letter `Z` on the wire,
with the offset `+00:00` in the store, and without fraction and zone on an
invoice.

## Main definitions

* `Timestamp` — a moment.
* `Timestamp.wire`, `Timestamp.stored`, `Timestamp.plain` — its three texts.
* `Timestamp.nextDay`, `Timestamp.previousDay` — moving by whole days, for zones.
-/

namespace Tillbook

/-- A moment in universal time. -/
structure Timestamp where
  year : Int
  month : Nat
  day : Nat
  hour : Nat
  minute : Nat
  second : Nat
  nano : Nat
  deriving DecidableEq, Repr

namespace Timestamp

/-- Every fourth year is a leap year, except the centuries that 400 does not divide. -/
def isLeap (year : Int) : Bool :=
  year % 4 == 0 && (year % 100 != 0 || year % 400 == 0)

/-- The number of days of a month. -/
def daysIn (year : Int) (month : Nat) : Nat :=
  if month = 2 then if isLeap year then 29 else 28
  else if month = 4 ∨ month = 6 ∨ month = 9 ∨ month = 11 then 30
  else 31

/-- The same time of the next day. -/
def nextDay (t : Timestamp) : Timestamp :=
  if t.day < daysIn t.year t.month then { t with day := t.day + 1 }
  else if t.month < 12 then { t with month := t.month + 1, day := 1 }
  else { t with year := t.year + 1, month := 1, day := 1 }

/-- The same time of the day before. -/
def previousDay (t : Timestamp) : Timestamp :=
  if 1 < t.day then { t with day := t.day - 1 }
  else if 1 < t.month then
    { t with month := t.month - 1, day := daysIn t.year (t.month - 1) }
  else { t with year := t.year - 1, month := 12, day := 31 }

/-- A year has four digits; one that needs more, or is negative, has a sign too. -/
def yearText (year : Int) : List Char :=
  if 0 ≤ year ∧ year ≤ 9999 then Text.padded 4 year.natAbs
  else (if year < 0 then '-' else '+') :: Text.padded 4 year.natAbs

/-- The date and the time to the second, with the letter `T` between them. -/
def plainChars (t : Timestamp) : List Char :=
  yearText t.year ++ '-' :: Text.padded 2 t.month ++ '-' :: Text.padded 2 t.day
    ++ 'T' :: Text.padded 2 t.hour ++ ':' :: Text.padded 2 t.minute
    ++ ':' :: Text.padded 2 t.second

/-- The fraction of the second in none, three, six or nine digits: the fewest
that keep it. -/
def fraction (nano : Nat) : List Char :=
  if nano = 0 then []
  else if nano % 1000000 = 0 then '.' :: Text.padded 3 (nano / 1000000)
  else if nano % 1000 = 0 then '.' :: Text.padded 6 (nano / 1000)
  else '.' :: Text.padded 9 nano

/-- The text on an invoice: no fraction, no zone. -/
def plain (t : Timestamp) : String := String.ofList t.plainChars

/-- The text on the wire, in the zone `Z`. -/
def wire (t : Timestamp) : String :=
  String.ofList (t.plainChars ++ fraction t.nano ++ ['Z'])

/-- The text in the store.  Moments are ordered there by this text. -/
def stored (t : Timestamp) : String :=
  String.ofList (t.plainChars ++ fraction t.nano ++ ['+', '0', '0', ':', '0', '0'])

end Timestamp

end Tillbook
