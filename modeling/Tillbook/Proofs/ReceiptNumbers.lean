import Tillbook.Proofs.Digits
import Tillbook.ReceiptNumber
import Tillbook.Word

/-!
# Receipt numbers are different

A receipt number ends in digits, so its last hyphen parts the station from the counter.
The name of the station may have hyphens and digits of its own.

## Main definitions

* `Text.splitLast?` — what stands before and after the last of some characters.
* `ReceiptNumber.read?` — the station and the counter of a receipt number.

## Main statements

* `Text.splitLast?_eq_some_iff` — a text is parted at the last of the characters and nowhere else.
* `ReceiptNumber.format_reads_back` — the text gives back the station and the counter.
-/

namespace Tillbook

namespace Text

/-- What stands before and after the last `c`, if there is one. -/
def splitLast? (c : Char) : List Char → Option (List Char × List Char)
  | [] => none
  | d :: rest =>
    match splitLast? c rest with
    | some (front, back) => some (d :: front, back)
    | none => if d = c then some ([], rest) else none

variable {c : Char} {cs front back : List Char}

theorem splitLast?_eq_none_iff : splitLast? c cs = none ↔ c ∉ cs := by
  induction cs with
  | nil => simp [splitLast?]
  | cons d rest ih =>
    rw [splitLast?, List.mem_cons, not_or, ← ih]
    cases splitLast? c rest with
    | some parts => simp
    | none => simp [eq_comm]

/-- Behind a last `c` there is none. -/
theorem splitLast?_append (h : c ∉ back) :
    splitLast? c (front ++ c :: back) = some (front, back) := by
  induction front with
  | nil => simp [splitLast?, splitLast?_eq_none_iff.2 h]
  | cons d front ih => simp [splitLast?, ih]

/-- A text is parted at the last `c` and nowhere else. -/
theorem splitLast?_eq_some_iff :
    splitLast? c cs = some (front, back) ↔ cs = front ++ c :: back ∧ c ∉ back := by
  refine ⟨fun h => ?_, fun ⟨parts, last⟩ => parts ▸ splitLast?_append last⟩
  induction cs generalizing front with
  | nil => nomatch h
  | cons d rest ih =>
    rw [splitLast?] at h
    split at h
    · next later parted =>
      cases h
      obtain ⟨parts, last⟩ := ih parted
      exact ⟨congrArg (d :: ·) parts, last⟩
    · next none =>
      split at h
      · next own =>
        cases h
        exact ⟨congrArg (· :: back) own, splitLast?_eq_none_iff.1 none⟩
      · nomatch h

theorem hyphen_notMem_padded (width n : Nat) : '-' ∉ padded width n := fun h =>
  absurd ((areDigits_iff.1 (areDigits_padded width n)).2 '-' h) (by decide)

end Text

namespace ReceiptNumber

/-- The station and the counter of a receipt number.  They stand before and after its last hyphen,
and the counter is a word. -/
def read? (text : String) : Option (String × Int64) := do
  let (station, counter) ← Text.splitLast? '-' text.toList
  if Text.areDigits counter then
    let n ← Word.ofInt? (Text.value counter)
    return (String.ofList station, n)
  else none

variable {station station' : String} {n n' : Int64}

theorem toList_format (hn : 0 ≤ n.toInt) :
    (format station n).toList = station.toList ++ '-' :: Text.padded 5 n.toInt.natAbs := by
  simp [format, Text.paddedInt, Int.not_lt.2 hn]

/-- The text gives back the station and the counter. -/
theorem read?_format (hn : 0 ≤ n.toInt) : read? (format station n) = some (station, n) := by
  have parted : Text.splitLast? '-' (format station n).toList =
      some (station.toList, Text.padded 5 n.toInt.natAbs) :=
    Text.splitLast?_eq_some_iff.2 ⟨toList_format hn, Text.hyphen_notMem_padded 5 _⟩
  have counter : Word.ofInt? (n.toInt.natAbs : Int) = some n :=
    Word.ofInt?_eq_some_iff.2 (Int.natAbs_of_nonneg hn).symm
  simp only [read?, parted, Option.bind_eq_bind, Option.bind_some, Text.value_padded, counter,
    String.ofList_toList]
  exact if_pos (Text.areDigits_padded 5 _)

/-- Different stations and different counters have different numbers. -/
theorem format_inj (hn : 0 ≤ n.toInt) (hn' : 0 ≤ n'.toInt)
    (h : format station n = format station' n') : station = station' ∧ n = n' := by
  have read := congrArg read? h
  rwa [read?_format hn, read?_format hn', Option.some.injEq, Prod.mk.injEq] at read

/-- Whatever the station is called, its receipt numbers are told from all others, and its name and
the counter are read off them at the last hyphen. -/
theorem format_reads_back (station : String) (hn : 0 ≤ n.toInt) :
    read? (format station n) = some (station, n) ∧
      ∀ (station' : String) (n' : Int64), 0 ≤ n'.toInt →
        format station n = format station' n' → station = station' ∧ n = n' :=
  ⟨read?_format hn, fun _ _ hn' h => format_inj hn hn' h⟩

/-- A station that is called like a receipt. -/
theorem format_reads_back_of_receipt :
    0 ≤ (100000 : Int64).toInt ∧ 0 ≤ (1 : Int64).toInt ∧
      read? (format "POS-01-00001" 100000) = some ("POS-01-00001", 100000) ∧
      format "POS-01-00001" 100000 ≠ format "POS-01" 1 := by
  have hn : 0 ≤ (100000 : Int64).toInt := by decide
  have hn' : 0 ≤ (1 : Int64).toInt := by decide
  obtain ⟨back, apart⟩ := format_reads_back "POS-01-00001" hn
  exact ⟨hn, hn', back, fun same => absurd (apart "POS-01" 1 hn' same).1 (by decide)⟩

end ReceiptNumber

end Tillbook
