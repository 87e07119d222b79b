import Tillbook.DomainName.Direction
import Tillbook.DomainName.Joiner
import Tillbook.DomainName.Mapping
import Tillbook.DomainName.Punycode

/-!
# Domain names

A domain name is a list of labels with points between them.  It may be written in
any script; a label of other characters than letters, digits and hyphens can also be
written in the form that begins with `xn--`.

## Main definitions

* `DomainName.label?` — a label in its own script.
* `DomainName.read?` — a domain name in small letters and in its own script, if it
  is one.
-/

namespace Tillbook.DomainName

/-- Characters that no domain name has: controls, the blank, and signs with a meaning
in an address. -/
def isForbidden (c : Char) : Bool :=
  c.toNat ≤ 32 || c.toNat == 127
    || ['#', '%', '/', ':', '<', '>', '?', '@', '[', '\\', ']', '^', '|'].contains c

/-- A text without other characters than those of the first 128 numbers. -/
def isPlain (cs : List Char) : Bool := cs.all fun c => c.toNat < 128

/-- What a text becomes in a domain name, in composed form. -/
def normal? (cs : List Char) : Option (List Char) :=
  if isPlain cs then some (cs.map Char.toLower) else (mapped? cs).map Text.composed

/-- The marker of a label that is written in letters, digits and hyphens. -/
def marker : List Char := ['x', 'n', '-', '-']

/-- A label in its own script.  The form with the marker stands for a label that
needs it, and in which no character is replaced. -/
def label? (cs : List Char) : Option (List Char) :=
  if marker.isPrefixOf cs then do
    let form := cs.drop marker.length
    if form.isEmpty ∨ form.getLast? = some '-' ∨ !isPlain form ∨ 2000 < form.length then none
    else
      let label ← Punycode.decode? form
      if normal? label = some label then some label else none
  else some cs

/-- A label that can be told apart from others: no mark begins it, and its joiners
make a difference.  One that is not plain has at most a thousand characters. -/
def isDistinct (label : List Char) : Bool :=
  isPlain label
    || (!label.head?.any Text.isMark && joinersStand [] label && label.length ≤ 1000)

/-- A domain name in small letters and in its own script, if it is one. -/
def read? (cs : List Char) : Option (List Char) := do
  let text ← normal? cs
  if text.any isForbidden then none
  else
    let labels ← (text.splitOn '.').mapM label?
    if labels.all isDistinct && keepsDirection labels then some (['.'].intercalate labels)
    else none

end Tillbook.DomainName
