import Mathlib.Algebra.Field.Rat
import Mathlib.Data.Rat.Cast.Defs
import Mathlib.Tactic.Ring
import Tillbook.Proofs.Digits
import Tillbook.Proofs.Shillings

/-!
# Texts of an amount

An amount is written in two ways, as a decimal number and with the currency for people.  The
first takes the magnitude of the cents apart, the second writes the shillings and the cents that
were cut apart before.  A reader that knows nothing of either is given here; it takes the decimal
number for the amount, so both texts tell amounts apart.

## Main definitions

* `Text.decimal?` — the number that a decimal text denotes.
* `Text.HasTwoPlaces` — a magnitude as it is written.
* `Money.magnitude` — what both texts have in common.

## Main statements

* `Money.decimal_eq`, `Money.display_eq` — the texts differ by the currency.
* `Money.decimal?_decimal` — the decimal text denotes the amount.
* `Money.texts_exact` — the form of both texts, and that neither is that of another amount.
-/

namespace Tillbook

namespace Text

/-! ## Decimal texts -/

/-- The number that digits, a point and more digits denote. -/
def unsigned? (cs : List Char) : Option ℚ :=
  match cs.dropWhile (·.isDigit) with
  | '.' :: places =>
    if areDigits (cs.takeWhile (·.isDigit)) && areDigits places then
      some ((value (cs.takeWhile (·.isDigit)) : ℚ) + value places / 10 ^ places.length)
    else none
  | _ => none

/-- The number that a decimal text denotes; a hyphen in front makes it negative. -/
def decimal? (cs : List Char) : Option ℚ :=
  if cs.head? = some '-' then (unsigned? cs.tail).map (-·) else unsigned? cs

/-- A magnitude as it is written: a whole part without superfluous zeros, a point and two digits. -/
structure HasTwoPlaces (cs whole places : List Char) : Prop where
  parts : cs = whole ++ '.' :: places
  wholeDigits : areDigits whole = true
  short : whole.head? = some '0' → whole = ['0']
  placeDigits : areDigits places = true
  size : places.length = 2

namespace HasTwoPlaces

variable {cs whole places : List Char}

theorem unsigned?_eq (h : HasTwoPlaces cs whole places) :
    unsigned? cs = some ((value whole : ℚ) + value places / 100) := by
  have digits := (areDigits_iff.1 h.wholeDigits).2
  have left : (whole ++ '.' :: places).dropWhile (·.isDigit) = '.' :: places :=
    List.dropWhile_append_of_pos digits
  have taken : (whole ++ '.' :: places).takeWhile (·.isDigit) = whole := by
    rw [List.takeWhile_append_of_pos digits]
    exact List.append_nil whole
  rw [unsigned?, h.parts, left, taken]
  change (if areDigits whole && areDigits places then _ else _) = _
  rw [h.wholeDigits, h.placeDigits, h.size]
  norm_num

/-- There is no sign in front of the digits. -/
theorem head?_ne (h : HasTwoPlaces cs whole places) : cs.head? ≠ some '-' := by
  obtain ⟨filled, digits⟩ := areDigits_iff.1 h.wholeDigits
  obtain ⟨d, rest, first⟩ := List.exists_cons_of_ne_nil filled
  rw [h.parts, first]
  intro sign
  have digit := digits d (by simp [first])
  rw [Option.some.inj sign] at digit
  exact absurd digit (by decide)

end HasTwoPlaces

end Text

namespace Money

/-! ## The two texts -/

/-- What both texts of an amount have in common. -/
def magnitude (m : Money) : List Char :=
  Text.digits (m.toInt.natAbs / 100) ++ '.' :: Text.padded 2 (m.toInt.natAbs % 100)

theorem decimal_eq (m : Money) : m.decimal = String.ofList (m.signChars ++ m.magnitude) := by
  rw [decimal, magnitude, List.append_assoc]

theorem display_eq (m : Money) :
    m.display = String.ofList (m.signChars ++ ("KSh ".toList ++ m.magnitude)) := by
  rw [display, magnitude, natAbs_shillings, natAbs_centsPart, List.append_assoc, List.append_assoc]
  rfl

theorem hasTwoPlaces_magnitude (m : Money) :
    Text.HasTwoPlaces m.magnitude (Text.digits (m.toInt.natAbs / 100))
      (Text.padded 2 (m.toInt.natAbs % 100)) where
  parts := rfl
  wholeDigits := Text.areDigits_digits _
  short := fun zero => by
    rw [Text.head?_digits_eq_zero zero, Text.digits]
    rfl
  placeDigits := Text.areDigits_padded 2 _
  size := Text.length_padded (by decide) (Nat.mod_lt _ (by decide))

/-- The magnitude denotes the hundredth part of the cents. -/
theorem unsigned?_magnitude (m : Money) :
    Text.unsigned? m.magnitude = some ((m.toInt.natAbs : ℚ) / 100) := by
  have whole : (m.toInt.natAbs : ℚ) =
      100 * (m.toInt.natAbs / 100 : Nat) + (m.toInt.natAbs % 100 : Nat) := by
    exact_mod_cast (Nat.div_add_mod m.toInt.natAbs 100).symm
  rw [m.hasTwoPlaces_magnitude.unsigned?_eq, Text.value_digits, Text.value_padded, whole]
  congr 1
  ring

/-- The decimal text denotes the amount. -/
theorem decimal?_decimal (m : Money) :
    Text.decimal? m.decimal.toList = some ((m.toInt : ℚ) / 100) := by
  rw [decimal_eq, String.toList_ofList, signChars]
  by_cases negative : m.toInt < 0
  · have size : (m.toInt.natAbs : ℚ) = -m.toInt := by
      rw [← Int.cast_natCast, Int.ofNat_natAbs_of_nonpos negative.le, Int.cast_neg]
    rw [if_pos negative, Text.decimal?]
    change (Text.unsigned? m.magnitude).map (-·) = _
    rw [unsigned?_magnitude, Option.map_some, size]
    congr 1
    ring
  · have size : (m.toInt.natAbs : ℚ) = m.toInt := by
      rw [← Int.cast_natCast, Int.natAbs_of_nonneg (not_lt.1 negative)]
    rw [if_neg negative, List.nil_append, Text.decimal?, if_neg m.hasTwoPlaces_magnitude.head?_ne,
      unsigned?_magnitude, size]

theorem decimal_inj {m m' : Money} : m.decimal = m'.decimal ↔ m = m' := by
  refine ⟨fun same => ?_, congrArg decimal⟩
  have read := congrArg (fun text : String => Text.decimal? text.toList) same
  simp only [decimal?_decimal, Option.some.injEq] at read
  rw [div_left_inj' (by norm_num), Int.cast_inj] at read
  exact Int64.toInt_inj.1 read

theorem signChars_eq (m : Money) : m.signChars = ['-'] ∨ m.signChars = [] := by
  unfold signChars
  split
  · exact .inl rfl
  · exact .inr rfl

/-- The texts with the currency agree only where those without it do: a sign on one side only would
stand where the other has the currency. -/
theorem decimal_eq_of_display_eq {m m' : Money} (same : m.display = m'.display) :
    m.decimal = m'.decimal := by
  rw [display_eq, display_eq, String.ofList_inj] at same
  rw [decimal_eq, decimal_eq]
  rcases m.signChars_eq with sign | sign <;> rcases m'.signChars_eq with sign' | sign' <;>
    rw [sign, sign'] at same ⊢
  · rw [List.append_cancel_left (List.append_cancel_left same)]
  · exact absurd (List.cons.inj same).1 (by decide)
  · exact absurd (List.cons.inj same).1 (by decide)
  · rw [List.append_cancel_left (List.append_cancel_left same)]

theorem display_inj {m m' : Money} : m.display = m'.display ↔ m = m' :=
  ⟨fun same => decimal_inj.1 (decimal_eq_of_display_eq same), congrArg display⟩

/-- The decimal text is a sign if the amount is below zero, a whole part without superfluous zeros,
a point and two digits; the text for people has the currency behind the sign, and the magnitude
that it is made of is there for the least amount too.  Read as a number the first is the hundredth
part of the cents, so neither text is that of another amount. -/
theorem texts_exact (m : Money) :
    (∃ magnitude whole places, Text.HasTwoPlaces magnitude whole places ∧
      m.decimal = String.ofList ((if m.toInt < 0 then ['-'] else []) ++ magnitude) ∧
      m.display =
        String.ofList ((if m.toInt < 0 then ['-'] else []) ++ ("KSh ".toList ++ magnitude))) ∧
    (∃ w, Word.abs m.shillings = .ok w) ∧
    (∃ n, Text.decimal? m.decimal.toList = some n ∧ n * 100 = m.toInt) ∧
    ∀ m' : Money, (m.decimal = m'.decimal ↔ m = m') ∧ (m.display = m'.display ↔ m = m') := by
  refine ⟨⟨_, _, _, m.hasTwoPlaces_magnitude, m.decimal_eq, m.display_eq⟩, ?_, ?_, ?_⟩
  · obtain ⟨w, magnitude, -⟩ := m.exists_abs_shillings
    exact ⟨w, magnitude⟩
  · exact ⟨_, m.decimal?_decimal, div_mul_cancel₀ _ (by norm_num)⟩
  · exact fun m' => ⟨decimal_inj, display_inj⟩

end Money

end Tillbook
