import Tillbook.Text.Mark

/-!
# Directions in domain names

Some scripts are written from right to left.  A domain name with characters of such
a script has to be read in one way only, whatever stands around it; so every label
of it keeps to one direction, begins with a letter, and ends in a letter or a digit.
The tables are the bidirectional classes of Unicode 17.0; no domain name has the
blanks and line ends, and they are not listed.

## Main definitions

* `direction` — the direction of a character.
* `keepsDirection` — whether the labels of a domain name have one direction each.
-/

namespace Tillbook.DomainName

open Text (Ranges)

/-- The direction of a character. -/
inductive Direction where
  | left
  | right
  | europeanNumber
  | arabicNumber
  /-- Signs that go with what stands around them. -/
  | neutral
  /-- Marks, which go with the character before them. -/
  | mark
  deriving DecidableEq, Repr

/-- Letters that are written from right to left. -/
def rightward : Ranges := .ofText "
5be 5c0 5c3 5c6 5d0-5f4 608 60b 60d 61b-64a 66d-66f 671-6d5 6e5-6e6 6ee-6ef 6fa-710 712-72f
74d-7a5 7b1-7ea 7f4-7f5 7fa 7fe-815 81a 824 828 830-858 85e-88f 8a0-8c9 200f fb1d fb1f-fb28
fb2a-fbc2 fbd3-fd3d fd50-fd8f fd92-fdc7 fdf0-fdfc fe70-fefc 10800-1091b 10920-10a00 10a10-10a35
10a40-10ae4 10aeb-10b35 10b40-10d23 10d4a-10d65 10d6f-10d85 10e80-10ea9 10ead-10ec7 10f00-10f45
10f51-10f81 10f86-10ff6 1e800-1e8cf 1e900-1e943 1e94b-1eebb"

/-- Digits that are written from left to right in every text. -/
def europeanNumbers : Ranges := .ofText "
30-39 b2-b3 b9 6f0-6f9 2070 2074-2079 2080-2089 2488-249b ff10-ff19 102e1-102fb 1d7ce-1d7ff
1f100-1f10a 1fbf0-1fbf9"

/-- Digits of the scripts that are written from right to left. -/
def arabicNumbers : Ranges := .ofText "
600-605 660-669 66b-66c 6dd 890-891 8e2 10d30-10d49 10e60-10e7e"

/-- Signs without a direction. -/
def neutrals : Ranges := .ofText "
0-8 e-1b 21-2f 3a-40 5b-60 7b-84 86-a9 ab-b1 b4 b6-b8 bb-bf d7 f7 2b9-2ba 2c2-2cf 2d2-2df
2e5-2ed 2ef-2ff 374-375 37e 384-385 387 3f6 58a-58f 606-607 609-60a 60c 60e-60f 66a 6de 6e9
7f6-7f9 9f2-9f3 9fb af1 bf3-bfa c78-c7e e3f f3a-f3d 1390-1399 1400 169b-169c 17db 17f0-180a 180e
1940-1945 19de-19ff 1fbd 1fbf-1fc1 1fcd-1fcf 1fdd-1fdf 1fed-1fef 1ffd-1ffe 200b-200d 2010-2027
202f-205e 2060-2064 206a-206f 207a-207e 208a-208e 20a0-20c1 2100-2101 2103-2106 2108-2109 2114
2116-2118 211e-2123 2125 2127 2129 212e 213a-213b 2140-2144 214a-214d 2150-215f 2189-2335
237b-2394 2396-2487 24ea-26ab 26ad-27ff 2900-2bff 2ce5-2cea 2cf9-2cff 2e00-2fff 3001-3004
3008-3020 3030 3036-3037 303d-303f 309b-309c 30a0 30fb 31c0-31ef 321d-321e 3250-325f 327c-327e
32b1-32bf 32cc-32cf 3377-337a 33de-33df 33ff 4dc0-4dff a490-a4c6 a60d-a60f a673 a67e-a67f
a700-a721 a788 a828-a82b a838-a839 a874-a877 ab6a-ab6b fb29 fbc3-fbd2 fd3e-fd4f fd90-fd91
fdc8-fdcf fdfd-fdff fe10-fe19 fe30-fe6b feff-ff0f ff1a-ff20 ff3b-ff40 ff5b-ff65 ffe0-fffd 10101
10140-1018c 10190-101a0 1091f 10b39-10b3f 10d6e 10d8e-10d8f 10ed0-10ed8 11052-11065 11660-1166c
11fd5-11ff1 16fe2 1bca0-1bca3 1cc00-1ccef 1ccfa-1cef0 1d173-1d17a 1d1e9-1d241 1d245 1d300-1d356
1d6db 1d715 1d74f 1d789 1d7c3 1e2ff 1eef0-1f0f5 1f10b-1f10f 1f12f 1f16a-1f16f 1f1ad 1f260-1fbef
1fbfa e0001-e007f"

/-- Nonspacing marks that are written from left to right like letters. -/
def leftwardMarks : Ranges := .ofText "cbf cc6 11a07-11a08 11c3f"

/-- The direction of a character. -/
def direction (c : Char) : Direction :=
  if rightward.covers c then .right
  else if europeanNumbers.covers c then .europeanNumber
  else if arabicNumbers.covers c then .arabicNumber
  else if neutrals.covers c then .neutral
  else if (Text.isNonspacing c && !leftwardMarks.covers c) || c.toNat == 0x1171E then .mark
  else .left

/-- The directions of a label in a domain name that has characters from right to
left.  The marks at its end are not looked at. -/
def isDirected (ds : List Direction) : Bool :=
  let last? := ds.reverse.find? (· != .mark)
  match ds.head?, last? with
  | some .left, some last =>
    !ds.contains .right && !ds.contains .arabicNumber
      && (last == .left || last == .europeanNumber)
  | some .right, some last =>
    !ds.contains .left && last != .neutral
      && !(ds.contains .europeanNumber && ds.contains .arabicNumber)
  | none, _ => true
  | _, _ => false

/-- A character that is written from right to left, or a digit of such a script; the
first is U+0590. -/
def isRightward (c : Char) : Bool :=
  0x590 ≤ c.toNat && (rightward.covers c || arabicNumbers.covers c)

/-- The labels have one direction each, if there are characters from right to left
in any of them. -/
def keepsDirection (labels : List (List Char)) : Bool :=
  !(labels.any fun label => label.any isRightward)
    || labels.all fun label => isDirected (label.map direction)

end Tillbook.DomainName
