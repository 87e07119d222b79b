import Tillbook.Word

/-!
# Labels in letters, digits and hyphens

A label with other characters is sent in a form that has none.  The form begins with
the characters that need no change, as they are, and a hyphen.  Numbers follow; each
says how many steps there are from one insertion of a character to the next, where a
step goes from one place of the label to the next, and after its last place to the
following character.

## Main definitions

* `Punycode.Decoding` — a label while it is read.
* `Punycode.decode?` — the label that such a form stands for.
-/

namespace Tillbook.Punycode

/-- The value of a digit in base 36: letters come before digits. -/
def digit? (c : Char) : Option Nat :=
  if 'a' ≤ c ∧ c ≤ 'z' then some (c.toNat - 97)
  else if '0' ≤ c ∧ c ≤ '9' then some (c.toNat - 22)
  else none

/-- The digits below this number end a number at a place of it. -/
def threshold (place bias : Nat) : Nat :=
  if place ≤ bias then 1 else if bias + 26 ≤ place then 26 else place - bias

/-- How often a number is divided by 35 until it is small, as the sum of the places
that it takes, and the number that is left. -/
def reduce (n places : Nat) : Nat × Nat :=
  if 455 < n then reduce (n / 35) (places + 36) else (n, places)
termination_by n
decreasing_by exact Nat.div_lt_self (by omega) (by decide)

/-- The bias after a number: the next one is expected to be about as large. -/
def adapt (n length : Nat) (isFirst : Bool) : Nat :=
  let n := if isFirst then n / 700 else n / 2
  let (n, places) := reduce (n + n / length) 0
  places + 36 * n / (n + 38)

/-- A label while it is read. -/
structure Decoding where
  text : List Char
  /-- The number of the character that was inserted last. -/
  code : Nat := 128
  /-- The place behind it. -/
  start : Nat := 0
  bias : Nat := 72
  /-- The place of the next insertion, as far as its number is read. -/
  index : Nat := 0
  /-- The place of the next digit in its number, in steps of 36. -/
  place : Nat := 36
  weight : Nat := 1

namespace Decoding

/-- The label with a character inserted, when the number of steps to it is read. -/
def insert? (s : Decoding) (index : Nat) : Option Decoding :=
  let length := s.text.length + 1
  let code := s.code + index / length
  let place := index % length
  if code < 0xD800 ∨ (0xE000 ≤ code ∧ code < 0x110000) then
    some {
      text := s.text.insertIdx place (Char.ofNat code)
      code
      start := place + 1
      bias := adapt (index - s.start) length (s.start == 0)
      index := place + 1 }
  else none

/-- The label after one digit more.  Numbers are words of 32 bits. -/
def add? (s : Decoding) (c : Char) : Option Decoding := do
  let d ← digit? c
  let t := threshold s.place s.bias
  let index := s.index + d * s.weight
  let weight := s.weight * (36 - t)
  if UInt32.size ≤ index then none
  else if d < t then s.insert? index
  else if UInt32.size ≤ weight then none
  else return { s with index, weight, place := s.place + 36 }

end Decoding

/-- The label that a form in letters, digits and hyphens stands for.  The last number
has to be complete. -/
def decode? (cs : List Char) : Option (List Char) := do
  let numbers := (cs.reverse.takeWhile (· != '-')).reverse
  let kept := (cs.take (cs.length - numbers.length)).dropLast
  let s ← (if kept.isEmpty then cs else numbers).foldlM Decoding.add? { text := kept }
  if s.place = 36 then some s.text else none

end Tillbook.Punycode
