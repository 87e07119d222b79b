import Tillbook.Money
import Tillbook.Proofs.Outcomes

/-!
# Shillings and cents

An amount is taken apart into shillings and cents, and an amount is put together from them.  Of
the two parts only the shillings have a sign.  A debt of less than one shilling has no shillings
that could carry it, so there are no parts for such a debt, and those that are taken from it stand
for the opposite.  Every other amount comes back from its parts.

## Main definitions

* `Money.composed` — the cents that shillings and cents stand for.

## Main statements

* `Money.ofShillings_eq_ok_iff` — parts are put together if what they stand for is a word.
* `Money.parts_of_ofShillings` — an amount has the parts that it was put together from.
* `Money.exists_ofShillings_iff` — which amounts can be put together from parts.
* `Money.ofShillings_shillings_centsPart` — what comes back from the parts of an amount.
-/

namespace Tillbook

namespace Money

variable {m : Money} {major minor : Int64}

/-! ## The parts of an amount -/

theorem toInt_shillings (m : Money) : m.shillings.toInt = m.toInt.tdiv 100 := by
  have least := m.minValue_le_toInt
  have most := m.toInt_le
  have size : (m.toInt.tdiv 100).natAbs = m.toInt.natAbs / 100 := Int.natAbs_tdiv ..
  simp only [Int64.toInt_minValue, Int64.toInt_maxValue] at least most
  apply Int64.toInt_ofInt_of_le <;> omega

theorem natAbs_shillings (m : Money) : m.shillings.toInt.natAbs = m.toInt.natAbs / 100 := by
  rw [toInt_shillings]
  exact Int.natAbs_tdiv ..

/-- The shillings are below zero from a debt of one shilling on. -/
theorem shillings_neg_iff (m : Money) : m.shillings.toInt < 0 ↔ m.toInt ≤ -100 := by
  have parts := Int.mul_tdiv_add_tmod m.toInt 100
  have rest : (m.toInt.tmod 100).natAbs = m.toInt.natAbs % 100 := Int.natAbs_tmod ..
  have size := natAbs_shillings m
  rw [toInt_shillings] at size ⊢
  omega

/-- The shillings have a magnitude, also those of the least amount. -/
theorem exists_abs_shillings (m : Money) :
    ∃ w, Word.abs m.shillings = .ok w ∧ w.toInt = m.shillings.toInt.natAbs := by
  have least := m.minValue_le_toInt
  have most := m.toInt_le
  have size := natAbs_shillings m
  simp only [Int64.toInt_minValue, Int64.toInt_maxValue] at least most
  obtain ⟨w, hw⟩ : ∃ w : Int64, w.toInt = m.shillings.toInt.natAbs := by
    apply Word.exists_toInt_eq
    · rw [Int64.toInt_minValue]
      omega
    · rw [Int64.toInt_maxValue]
      omega
  exact ⟨w, Word.abs_eq_ok_iff.2 hw, hw⟩

theorem toInt_centsPart (m : Money) : m.centsPart.toInt = (m.toInt.tmod 100).natAbs := by
  have size : (m.toInt.tmod 100).natAbs = m.toInt.natAbs % 100 := Int.natAbs_tmod ..
  apply Int64.toInt_ofInt_of_le <;> omega

theorem natAbs_centsPart (m : Money) : m.centsPart.toInt.natAbs = m.toInt.natAbs % 100 := by
  rw [toInt_centsPart, Int.natAbs_natCast]
  exact Int.natAbs_tmod ..

theorem centsPart_bounds (m : Money) : 0 ≤ m.centsPart.toInt ∧ m.centsPart.toInt ≤ 99 := by
  have cents := natAbs_centsPart m
  rw [toInt_centsPart] at cents ⊢
  omega

/-- What is left beside the shillings is a word, and so is its magnitude. -/
theorem exists_abs_eq_centsPart (m : Money) :
    ∃ rest : Int64, rest.toInt = m.toInt.tmod 100 ∧ Word.abs rest = .ok m.centsPart := by
  have size : (m.toInt.tmod 100).natAbs = m.toInt.natAbs % 100 := Int.natAbs_tmod ..
  obtain ⟨rest, exact⟩ : ∃ rest : Int64, rest.toInt = m.toInt.tmod 100 := by
    apply Word.exists_toInt_eq
    · rw [Int64.toInt_minValue]
      omega
    · rw [Int64.toInt_maxValue]
      omega
  refine ⟨rest, exact, Word.abs_eq_ok_iff.2 ?_⟩
  rw [exact, toInt_centsPart]

/-! ## Amounts that are put together -/

/-- The cents that shillings and cents stand for: the cents lie beyond the shillings. -/
def composed (major minor : Int) : Int :=
  if major < 0 then major * 100 - minor else major * 100 + minor

/-- Parts are put together exactly if what they stand for is a word. -/
theorem ofShillings_eq_ok_iff (cents : 0 ≤ minor.toInt) :
    ofShillings major minor = .ok m ↔ m.toInt = composed major.toInt minor.toInt := by
  have last (whole : Int64) (exact : whole.toInt = major.toInt * 100) :
      (if major.toInt < 0 then Word.sub whole minor else Word.add whole minor) = .ok m ↔
        m.toInt = composed major.toInt minor.toInt := by
    unfold composed
    split
    · rw [Word.sub_eq_ok_iff, exact]
    · rw [Word.add_eq_ok_iff, exact]
  simp only [ofShillings, bind_eq_ok_iff, Word.mul_eq_ok_iff]
  constructor
  · rintro ⟨whole, exact, amount⟩
    exact (last whole exact).1 amount
  · intro amount
    -- The shillings alone are nearer to zero than the amount, so they are a word too.
    obtain ⟨whole, exact⟩ : ∃ whole : Int64, whole.toInt = major.toInt * 100 := by
      have least := m.minValue_le_toInt
      have most := m.toInt_le
      unfold composed at amount
      apply Word.exists_toInt_eq
      · rw [Int64.toInt_minValue] at least ⊢
        omega
      · rw [Int64.toInt_maxValue] at most ⊢
        omega
    exact ⟨whole, exact, (last whole exact).2 amount⟩

/-- An amount has the parts that it was put together from. -/
theorem parts_of_ofShillings (low : 0 ≤ minor.toInt) (high : minor.toInt ≤ 99)
    (h : ofShillings major minor = .ok m) : m.shillings = major ∧ m.centsPart = minor := by
  have amount := (ofShillings_eq_ok_iff low).1 h
  have size := natAbs_shillings m
  have cents := natAbs_centsPart m
  have bounds := centsPart_bounds m
  have sign := shillings_neg_iff m
  unfold composed at amount
  rw [← Int64.toInt_inj, ← Int64.toInt_inj]
  omega

/-- The parts of an amount stand for it, unless they have lost its sign. -/
theorem composed_parts (m : Money) :
    composed m.shillings.toInt m.centsPart.toInt =
      if -100 < m.toInt ∧ m.toInt < 0 then -m.toInt else m.toInt := by
  have size := natAbs_shillings m
  have cents := natAbs_centsPart m
  have bounds := centsPart_bounds m
  have sign := shillings_neg_iff m
  unfold composed
  omega

/-- There are parts for every amount but the debts of less than one shilling. -/
theorem exists_ofShillings_iff (m : Money) :
    (∃ major minor : Int64, (0 ≤ minor.toInt ∧ minor.toInt ≤ 99) ∧
      ofShillings major minor = .ok m) ↔ m.toInt ≤ -100 ∨ 0 ≤ m.toInt := by
  constructor
  · rintro ⟨major, minor, ⟨low, high⟩, h⟩
    have amount := (ofShillings_eq_ok_iff low).1 h
    unfold composed at amount
    omega
  · intro shown
    have bounds := centsPart_bounds m
    refine ⟨m.shillings, m.centsPart, bounds, (ofShillings_eq_ok_iff bounds.1).2 ?_⟩
    rw [composed_parts, if_neg (by omega)]

/-- An amount is taken apart and put together without leaving the range of a word, the least
amount too, and its cents are between 0 and 99.  What comes back is the amount, or its opposite
where that is a debt of less than one shilling. -/
theorem ofShillings_shillings_centsPart (m : Money) :
    m.shillings.toInt = m.toInt.tdiv 100 ∧
    (∃ rest : Int64, rest.toInt = m.toInt.tmod 100 ∧ Word.abs rest = .ok m.centsPart) ∧
    (0 ≤ m.centsPart ∧ m.centsPart ≤ 99) ∧
    ofShillings m.shillings m.centsPart = .ok (if -100 < m ∧ m < 0 then -m else m) := by
  have bounds := centsPart_bounds m
  refine ⟨toInt_shillings m, exists_abs_eq_centsPart m, ?_, ?_⟩
  · exact ⟨Int64.le_iff_toInt_le.2 bounds.1, Int64.le_iff_toInt_le.2 bounds.2⟩
  · have small : -100 < m ∧ m < 0 ↔ -100 < m.toInt ∧ m.toInt < 0 := by
      rw [Int64.lt_iff_toInt_lt, Int64.lt_iff_toInt_lt]
      rfl
    rw [ofShillings_eq_ok_iff bounds.1, composed_parts]
    simp only [small]
    split
    · rw [Int64.toInt_neg]
      exact Int.bmod_eq_of_le (by omega) (by omega)
    · rfl

/-- A debt of half a shilling comes back as half a shilling. -/
theorem ofShillings_of_half_shilling :
    let debt : Money := -50
    ofShillings debt.shillings debt.centsPart = .ok 50 ∧
      ofShillings debt.shillings debt.centsPart ≠ .ok debt := by
  intro debt
  have back : ofShillings debt.shillings debt.centsPart = .ok 50 :=
    (ofShillings_eq_ok_iff (centsPart_bounds debt).1).2 (by decide)
  exact ⟨back, fun same => absurd (Except.ok.inj (back.symm.trans same)) (by decide)⟩

end Money

end Tillbook
