import Tillbook.DomainName
import Tillbook.WebAddress.Fault

/-!
# Hosts

A host is eight groups of hexadecimal digits between brackets, four numbers, or a
domain name.  In the schemes of the web it may be written with percent notation,
and numbers in other bases than ten.

## Main definitions

* `WebAddress.isGroups` — groups of hexadecimal digits.
* `WebAddress.isNumbers` — four numbers, or fewer of which the last is larger.
* `WebAddress.hostFault?` — the first fault of a host in the schemes of the web.
* `WebAddress.opaqueHostFault?` — the first fault of a host in any other scheme.
-/

namespace Tillbook.WebAddress

/-- A hexadecimal digit. -/
def isHex (c : Char) : Bool := (Text.hexValue? c).isSome

/-- A number from zero to 255 without superfluous zeros. -/
def isOctet (cs : List Char) : Bool :=
  !cs.isEmpty && cs.all Char.isDigit && cs.length ≤ 3 && Text.value cs ≤ 255
    && (cs.length == 1 || cs.head? != some '0')

/-- The number of groups that the parts of an address with colons stand for: the
last part of all may be four numbers, which are two groups. -/
def groups? (isLast : Bool) : List (List Char) → Option Nat
  | [] => some 0
  | [p] =>
    if !p.isEmpty && p.length ≤ 4 && p.all isHex then some 1
    else if isLast && (p.splitOn '.').length == 4 && (p.splitOn '.').all isOctet then some 2
    else none
  | p :: rest =>
    if !p.isEmpty && p.length ≤ 4 && p.all isHex then (groups? isLast rest).map (· + 1) else none

/-- The text before and after the first pair of colons. -/
def splitPair : List Char → Option (List Char × List Char)
  | ':' :: ':' :: r => some ([], r)
  | c :: r => (splitPair r).map fun (a, b) => (c :: a, b)
  | [] => none

/-- The parts between colons; no parts in an empty text. -/
def parts (cs : List Char) : List (List Char) := if cs.isEmpty then [] else cs.splitOn ':'

/-- Eight groups of hexadecimal digits, or fewer around one pair of colons. -/
def isGroups (cs : List Char) : Bool :=
  match splitPair cs with
  | none => groups? true (parts cs) == some 8
  | some (left, right) =>
    match groups? false (parts left), groups? true (parts right) with
    | some m, some n => m + n ≤ 7
    | _, _ => false

/-- The bytes of a text, with those in percent notation put in their places. -/
def decodePercent (cs : List Char) : List UInt8 :=
  match cs with
  | '%' :: a :: b :: r =>
    match Text.hexValue? a, Text.hexValue? b with
    | some m, some n => UInt8.ofNat (16 * m + n) :: decodePercent r
    | _, _ => 37 :: decodePercent (a :: b :: r)
  | c :: r => String.utf8EncodeChar c ++ decodePercent r
  | [] => []

/-- The text that a host stands for, without percent notation. -/
def text? (host : List Char) : Option (List Char) :=
  (String.fromUTF8? ⟨(decodePercent host).toArray⟩).map String.toList

/-- The number of a part of a domain, in base sixteen, eight or ten. -/
def part? (cs : List Char) : Option Nat :=
  let digits (base : Nat) (ds : List Char) : Option Nat :=
    ds.foldlM
      (fun n c => do
        let d ← Text.hexValue? c
        if d < base then some (base * n + d) else none)
      0
  match cs with
  | [] => none
  | '0' :: 'x' :: ds => digits 16 ds
  | '0' :: d :: ds => digits 8 (d :: ds)
  | ds => digits 10 ds

/-- The labels of a domain, without an empty one at the end. -/
def labels (cs : List Char) : List (List Char) :=
  let ls := cs.splitOn '.'
  if 1 < ls.length ∧ ls.getLast? = some [] then ls.dropLast else ls

/-- The last label is a number, so that the whole has to be four numbers. -/
def endsInNumber (cs : List Char) : Bool :=
  match (labels cs).getLast? with
  | some l => (!l.isEmpty && l.all Char.isDigit) || (part? l).isSome
  | none => false

/-- Up to four numbers, the last of which fills what the others leave. -/
def isNumbers (cs : List Char) : Bool :=
  let ls := labels cs
  match ls.mapM part? with
  | some ns =>
    ls.length ≤ 4 && ns.dropLast.all (· ≤ 255)
      && (ns.getLast?.all fun n => n < Nat.pow 256 (5 - ns.length))
  | none => false

/-- The first fault of a host in the schemes of the web. -/
def hostFault? (host : List Char) : Option Fault :=
  match host with
  | [] => some .emptyHost
  | '[' :: r =>
    if r.getLast? = some ']' ∧ isGroups r.dropLast then none else some .badGroups
  | _ =>
    match (text? host).bind DomainName.read? with
    | none => some .badDomain
    | some [] => some .emptyHost
    | some domain =>
      if endsInNumber domain && !isNumbers domain then some .badNumbers else none

/-- The first fault of a host in any other scheme. -/
def opaqueHostFault? (host : List Char) : Option Fault :=
  match host with
  | '[' :: _ => hostFault? host
  | _ =>
    if host.any fun c => c.toNat == 0 || (c != '%' && c.toNat == 32)
        || ['#', '/', ':', '<', '>', '?', '@', '[', '\\', ']', '^', '|'].contains c then
      some .badCharacter
    else none

end Tillbook.WebAddress
