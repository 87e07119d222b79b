import Tillbook.Text.Mark
import Tillbook.Text.Unassigned

/-!
# Quoted names

A name between double quotes, for diagnostic text.  Quotes, backslashes and line
breaks are escaped by a letter; a character without a shape of its own — a
control, a format mark, a space other than U+0020, a mark that extends the character
before it, a private or unassigned one — by its number in hexadecimal.

## Main definitions

* `shapeless`, `extending` — the characters that are written by number.
* `quoted` — a name between double quotes.
-/

namespace Tillbook.Text

/-- Characters without a shape: controls, format marks, separators other than the
blank, letters that only fill room, and private use. -/
def shapeless : Ranges := .ofText "
0-1f 7f-a0 ad 600-605 61c 6dd 70f 890-891 8e2 115f-1160 1680 180e 2000-200f 2028-202f 205f-2064
2066-206f 3000 3164 e000-f8ff feff ffa0 fff9-fffb 110bd 110cd 13430-1343f 1bca0-1bca3
1d173-1d17a e0001 e0020-e007f f0000-ffffd 100000-10fffd"

/-- Characters that extend the one before them without being nonspacing marks. -/
def extending : Ranges := .ofText "
9be 9d7 b3e b57 bbe bd7 cc0 cc2 cc7-cc8 cca-ccb cd5-cd6 d3e d57 dcf ddf 1715 1734 1b35 1b3b 1b3d
1b43-1b44 1baa 1bf2-1bf3 200c 302e-302f a953 a9c0 ff9e-ff9f 111c0 11235 1133e 1134d 11357 113b8
113c2 113c5 113c7-113c9 113cf 114b0 114bd 115af 116b6 11930 1193d 11f41 16ff0-16ff1 1d165-1d166
1d16d-1d172 e0020-e007f"

/-- A character has a shape of its own. -/
def hasShape (c : Char) : Bool :=
  (' ' ≤ c && c ≤ '~')
    || !(shapeless.covers c || isUnassigned c || isNonspacing c || extending.covers c)

/-- The hexadecimal digits of a number, without superfluous zeros. -/
def hexDigits (n : Nat) : List Char := Nat.toDigits 16 n

/-- One character inside double quotes. -/
def quotedChar (c : Char) : List Char :=
  if c = '"' then ['\\', '"']
  else if c = '\\' then ['\\', '\\']
  else if c = '\n' then ['\\', 'n']
  else if c = '\r' then ['\\', 'r']
  else if c = '\t' then ['\\', 't']
  else if c = '\x00' then ['\\', '0']
  else if hasShape c then [c]
  else ['\\', 'u', '\x7b'] ++ hexDigits c.toNat ++ ['\x7d']

/-- A name between double quotes. -/
def quoted (s : String) : String :=
  String.ofList ('"' :: s.toList.flatMap quotedChar ++ ['"'])

end Tillbook.Text
