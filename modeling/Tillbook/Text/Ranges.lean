import Tillbook.Text.Digits

/-!
# Ranges of characters

A property of characters that no short rule gives is kept as a table of ranges of
their numbers.  A table is written in words with blanks or line ends between them;
a word is a hexadecimal number, or the first and the last number of a range with a
dash between them.

## Main definitions

* `Ranges` — ranges of characters.
* `Ranges.ofText` — the ranges of a written table.
* `Ranges.covers` — whether a character is in one of the ranges.
* `sections` — the parts of a written table, each with its heading.
-/

namespace Tillbook.Text

/-- The words of a text, with blanks or line ends between them. -/
def words (s : String) : List (List Char) :=
  (s.toList.splitOnP fun c => c == ' ' || c == '\n').filter (!·.isEmpty)

/-- The number that a run of hexadecimal digits denotes. -/
def hexNumber (cs : List Char) : Nat :=
  cs.foldl (fun n c => 16 * n + (hexValue? c).getD 0) 0

/-- Ranges of characters, each by its first and its last number. -/
abbrev Ranges := List (Nat × Nat)

namespace Ranges

/-- The range that a word stands for. -/
def ofWord (w : List Char) : Nat × Nat :=
  match (w.splitOn '-').map hexNumber with
  | [first, last] => (first, last)
  | ns => (ns.headD 0, ns.headD 0)

/-- The ranges of a written table. -/
def ofText (s : String) : Ranges := (words s).map ofWord

/-- Whether a character is in one of the ranges. -/
def covers (rs : Ranges) (c : Char) : Bool :=
  rs.any fun r => r.1 ≤ c.toNat && c.toNat ≤ r.2

end Ranges

/-- The words of a table by headings: a heading is a word that ends in a colon, and
the words up to the next one belong to it. -/
def sections (s : String) : List (List Char × List (List Char)) :=
  ((words s).foldr
    (fun w (pending, parts) =>
      if w.getLast? = some ':' then ([], (w.dropLast, pending) :: parts)
      else (w :: pending, parts))
    ([], [])).2

end Tillbook.Text
