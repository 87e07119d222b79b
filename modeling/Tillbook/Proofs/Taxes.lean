import Mathlib.Tactic.FieldSimp
import Mathlib.Tactic.Ring
import Tillbook.Money
import Tillbook.Proofs.Rounding

/-!
# Taxes in whole cents

A tax is a share of an amount, and the share is seldom a whole number of cents.  The tax contained
in a gross amount is the nearest number of cents, whatever the sign.  The tax to add to a net
amount adds half a cent and cuts off the rest.  Above zero this rounds half up; below zero the
rest is cut off towards zero, and the tax comes out too high, also where the share is whole.

## Main definitions

* `Money.exclusiveShare`, `Money.inclusiveShare` — the two taxes before they are rounded.

## Main statements

* `Money.inclusiveTax_rounds` — the tax contained is rounded, and what follows from it.
* `Money.inclusiveTax_add_exclusiveTax` — the tax that was added is the tax contained.
* `Money.exclusiveTax_half_up_iff` — where the tax to add is rounded half up.
-/

namespace Tillbook

namespace Money

variable {m : Money} {rate : TaxRate}

/-! ## The tax contained in an amount -/

/-- The tax contained in a gross amount, before it is rounded. -/
def inclusiveShare (m : Money) (rate : TaxRate) : Rat :=
  m.toInt * rate.bps.toNat / (10000 + rate.bps.toNat)

theorem inclusiveShare_eq (m : Money) (rate : TaxRate) :
    m.inclusiveShare rate =
      ((m.toInt * rate.bps.toNat : Int) : Rat) / ((10000 + rate.bps.toNat : Int) : Rat) := by
  unfold inclusiveShare
  push_cast
  rfl

theorem inclusiveShare_mono {more : Money} (rate : TaxRate) (order : m.toInt ≤ more.toInt) :
    m.inclusiveShare rate ≤ more.inclusiveShare rate := by
  have order : (m.toInt : Rat) ≤ more.toInt := Int.cast_le.2 order
  unfold inclusiveShare
  gcongr

theorem inclusiveShare_mono_rate {higher : TaxRate} (amount : 0 ≤ m.toInt)
    (order : rate.bps.toNat ≤ higher.bps.toNat) :
    m.inclusiveShare rate ≤ m.inclusiveShare higher := by
  have amount : (0 : Rat) ≤ m.toInt := Int.cast_nonneg amount
  have order : (rate.bps.toNat : Rat) ≤ higher.bps.toNat := Nat.cast_le.2 order
  unfold inclusiveShare
  rw [div_le_div_iff₀ (by positivity) (by positivity)]
  -- The product of the two rates stands on both sides.
  linarith [mul_le_mul_of_nonneg_left order amount]

theorem inclusiveShare_neg {w : Money} (opposite : w.toInt = -m.toInt) (rate : TaxRate) :
    w.inclusiveShare rate = -m.inclusiveShare rate := by
  rw [inclusiveShare, inclusiveShare, opposite, Int.cast_neg, neg_mul, neg_div]

/-- The tax is a part of the amount. -/
theorem inclusiveShare_bounds (m : Money) (rate : TaxRate) :
    (min m.toInt 0 : Int) ≤ m.inclusiveShare rate ∧
      m.inclusiveShare rate ≤ (max m.toInt 0 : Int) := by
  have least : 0 ≤ (rate.bps.toNat : Rat) / (10000 + rate.bps.toNat) := by positivity
  have most : (rate.bps.toNat : Rat) / (10000 + rate.bps.toNat) ≤ 1 := by
    rw [div_le_one (by positivity)]
    linarith
  rw [inclusiveShare, mul_div_assoc, Int.cast_min, Int.cast_max, Int.cast_zero]
  rcases le_total (m.toInt : Rat) 0 with below | above
  · rw [min_eq_left below, max_eq_right below]
    exact ⟨le_mul_of_le_one_right below most, mul_nonpos_of_nonpos_of_nonneg below least⟩
  · rw [min_eq_right above, max_eq_left above]
    exact ⟨mul_nonneg above least, mul_le_of_le_one_right above most⟩

theorem exists_roundsTo_inclusiveShare (m : Money) (rate : TaxRate) :
    ∃ n, RoundsTo (m.inclusiveShare rate) n ∧ m.inclusiveTax rate = Int64.ofInt n := by
  have divisor : (0 : Int) < 10000 + rate.bps.toNat := by omega
  unfold inclusiveTax
  rw [inclusiveShare_eq]
  split
  · next free =>
    refine ⟨0, ?_, rfl⟩
    rw [free]
    simpa using RoundsTo.intCast 0
  · dsimp only
    split
    · next above => exact ⟨_, roundsTo_tdiv_of_nonneg above divisor, rfl⟩
    · next below => exact ⟨_, roundsTo_tdiv_of_nonpos (not_le.1 below).le divisor, rfl⟩

/-- The tax contained is the rounded share, which is between nothing and the amount. -/
theorem roundsTo_inclusiveTax (m : Money) (rate : TaxRate) :
    RoundsTo (m.inclusiveShare rate) (m.inclusiveTax rate).toInt ∧
      min m.toInt 0 ≤ (m.inclusiveTax rate).toInt ∧
      (m.inclusiveTax rate).toInt ≤ max m.toInt 0 := by
  obtain ⟨n, rounded, cents⟩ := exists_roundsTo_inclusiveShare m rate
  obtain ⟨low, high⟩ := inclusiveShare_bounds m rate
  have least : min m.toInt 0 ≤ n := (RoundsTo.intCast _).le_of_le rounded low
  have most : n ≤ max m.toInt 0 := rounded.le_of_le (.intCast _) high
  have word : (Int64.ofInt n).toInt = n := by
    have bottom := m.le_toInt
    have top := m.toInt_lt
    exact Int64.toInt_ofInt_of_le (by omega) (by omega)
  rw [cents, word]
  exact ⟨rounded, least, most⟩

/-- The tax contained in an amount is its share rounded to the nearest cent, a half away from
zero; nothing is lost in the word.  So it has the sign of the amount and is no larger, it grows
with the amount and, on what is not below zero, with the rate, and a return mirrors its sale. -/
theorem inclusiveTax_rounds (m : Money) (rate : TaxRate) :
    (∀ n, RoundsTo (m.inclusiveShare rate) n ↔ (m.inclusiveTax rate).toInt = n) ∧
    |(m.inclusiveTax rate).toInt| ≤ |m.toInt| ∧
    (0 ≤ m → 0 ≤ m.inclusiveTax rate) ∧ (m ≤ 0 → m.inclusiveTax rate ≤ 0) ∧
    (∀ more : Money, m ≤ more → m.inclusiveTax rate ≤ more.inclusiveTax rate) ∧
    (0 ≤ m → ∀ higher : TaxRate, rate.bps ≤ higher.bps →
      m.inclusiveTax rate ≤ m.inclusiveTax higher) ∧
    (m ≠ Int64.minValue → ∃ back : Money, Word.neg m = .ok back ∧
      Word.neg (m.inclusiveTax rate) = .ok (back.inclusiveTax rate)) := by
  obtain ⟨rounded, low, high⟩ := roundsTo_inclusiveTax m rate
  simp only [Int64.le_iff_toInt_le, Int64.toInt_zero, UInt32.le_iff_toNat_le]
  refine ⟨fun n => ⟨rounded.unique, fun same => same ▸ rounded⟩, ?_, fun above => ?_,
    fun below => ?_, fun more order => ?_, fun amount higher order => ?_, fun signed => ?_⟩
  · rw [Int.abs_eq_natAbs, Int.abs_eq_natAbs]
    omega
  · omega
  · omega
  · exact rounded.le_of_le (roundsTo_inclusiveTax more rate).1 (inclusiveShare_mono rate order)
  · exact rounded.le_of_le (roundsTo_inclusiveTax m higher).1
      (inclusiveShare_mono_rate amount order)
  · obtain ⟨back, opposite⟩ : ∃ back : Money, Word.neg m = .ok back :=
      Word.exists_neg_iff.2 signed
    have share := inclusiveShare_neg (Word.neg_eq_ok_iff.1 opposite) rate
    refine ⟨back, opposite, Word.neg_eq_ok_iff.2 ?_⟩
    exact (roundsTo_inclusiveTax back rate).1.unique (share ▸ rounded.neg)

/-- The tax contained in 400.00 at the standard rate is 55.17, and the same is returned. -/
theorem inclusiveTax_rounds_of_four_hundred :
    let gross : Money := 40000
    RoundsTo (gross.inclusiveShare .standard) 5517 ∧ gross ≠ Int64.minValue ∧
      Word.neg gross = .ok (-40000) ∧ inclusiveTax (-40000) .standard = -5517 := by
  intro gross
  obtain ⟨rounded, -, -, -, -, -, mirrored⟩ := inclusiveTax_rounds gross .standard
  have signed : gross ≠ Int64.minValue := by decide
  have opposite : Word.neg gross = .ok (-40000) := by decide
  obtain ⟨back, same, tax⟩ := mirrored signed
  obtain rfl : -40000 = back := Except.ok.inj (opposite.symm.trans same)
  refine ⟨(rounded 5517).2 (by decide), signed, opposite, ?_⟩
  rw [← Int64.toInt_inj, Word.neg_eq_ok_iff.1 tax]
  decide

/-! ## The tax to add to an amount -/

/-- The tax to add to a net amount, before it is rounded. -/
def exclusiveShare (m : Money) (rate : TaxRate) : Rat := m.toInt * rate.bps.toNat / 10000

theorem exclusiveShare_add_half (m : Money) (rate : TaxRate) :
    m.exclusiveShare rate + 1 / 2 = ((m.toInt * rate.bps.toNat + 5000 : Int) : Rat) / 10000 := by
  unfold exclusiveShare
  push_cast
  ring

theorem exclusiveShare_nonneg (amount : 0 ≤ m.toInt) (rate : TaxRate) :
    0 ≤ m.exclusiveShare rate := by
  have amount : (0 : Rat) ≤ m.toInt := Int.cast_nonneg amount
  unfold exclusiveShare
  positivity

/-- Half a cent is added and the rest is cut off.  With the rounded share this is a word too, as it
is that or, below zero, one cent nearer to zero. -/
theorem toInt_exclusiveTax {rounded : Money}
    (fits : rounded.toInt = ⌊m.exclusiveShare rate + 1 / 2⌋) :
    (m.exclusiveTax rate).toInt =
      if 0 ≤ m.exclusiveShare rate + 1 / 2 then ⌊m.exclusiveShare rate + 1 / 2⌋
      else ⌈m.exclusiveShare rate + 1 / 2⌉ := by
  have bottom := rounded.le_toInt
  have top := rounded.toInt_lt
  rw [fits] at bottom top
  have cut := tdiv_natCast_eq (m.toInt * rate.bps.toNat + 5000) (d := 10000) (by decide)
  simp only [Nat.cast_ofNat, ← exclusiveShare_add_half] at cut
  generalize m.exclusiveShare rate + 1 / 2 = x at *
  have bounds : ⌊x⌋ ≤ (if 0 ≤ x then ⌊x⌋ else ⌈x⌉) ∧ (if 0 ≤ x then ⌊x⌋ else ⌈x⌉) ≤ max ⌊x⌋ 0 := by
    split
    · exact ⟨le_rfl, le_max_left _ _⟩
    · next below =>
      exact ⟨Int.floor_le_ceil x, le_max_of_le_right (Int.ceil_nonpos.2 (not_le.1 below).le)⟩
  rw [← cut] at bounds ⊢
  exact Int64.toInt_ofInt_of_le (by omega) (by omega)

/-- What the rounded tax misses is spread over a larger divisor in the gross amount. -/
theorem inclusiveShare_sub {net tax gross : Money} (total : gross.toInt = net.toInt + tax.toInt)
    (rate : TaxRate) :
    gross.inclusiveShare rate - tax.toInt =
      (net.exclusiveShare rate - tax.toInt) * (10000 / (10000 + rate.bps.toNat)) := by
  unfold inclusiveShare exclusiveShare
  rw [total]
  push_cast
  field_simp
  ring

theorem abs_inclusiveShare_sub_lt {net tax gross : Money}
    (total : gross.toInt = net.toInt + tax.toInt)
    (exact : tax.toInt = round (net.exclusiveShare rate)) :
    |gross.inclusiveShare rate - tax.toInt| < 1 / 2 := by
  rcases Nat.eq_zero_or_pos rate.bps.toNat with free | taxed
  · have nothing : net.exclusiveShare rate = 0 := by simp [exclusiveShare, free]
    rw [inclusiveShare_sub total, exact, nothing, round_zero]
    norm_num
  · have taxed : (0 : Rat) < rate.bps.toNat := Nat.cast_pos.2 taxed
    have positive : (0 : Rat) ≤ 10000 / (10000 + rate.bps.toNat) := by positivity
    have smaller : (10000 : Rat) / (10000 + rate.bps.toNat) < 1 := by
      rw [div_lt_one (by positivity)]
      linarith
    have half : |net.exclusiveShare rate - tax.toInt| ≤ 1 / 2 := by
      rw [exact]
      exact abs_sub_round _
    rw [inclusiveShare_sub total, abs_mul, abs_of_nonneg positive]
    calc |net.exclusiveShare rate - tax.toInt| * (10000 / (10000 + rate.bps.toNat))
        ≤ 1 / 2 * (10000 / (10000 + rate.bps.toNat)) := by gcongr
      _ < 1 / 2 := by linarith

/-- The tax that is added to a net amount is the tax that the gross amount contains, whatever the
rate, as long as both amounts are words. -/
theorem inclusiveTax_add_exclusiveTax (net tax gross : Money) (rate : TaxRate) (amount : 0 ≤ net)
    (fits : Word.ofInt? ⌊net.exclusiveShare rate + 1 / 2⌋ = some tax)
    (sum : Word.add net tax = .ok gross) :
    net.exclusiveTax rate = tax ∧ gross.inclusiveTax rate = tax := by
  rw [Int64.le_iff_toInt_le, Int64.toInt_zero] at amount
  have exact := Word.ofInt?_eq_some_iff.1 fits
  have share := exclusiveShare_nonneg amount rate
  constructor
  · rw [← Int64.toInt_inj, toInt_exclusiveTax exact, if_pos (by linarith), exact]
  · have contained := (roundsTo_inclusiveTax gross rate).1
    have nearest : tax.toInt = round (net.exclusiveShare rate) := by rw [round_eq, exact]
    have near := abs_inclusiveShare_sub_lt (Word.add_eq_ok_iff.1 sum) nearest
    exact Int64.toInt_inj.1 (contained.unique (.of_abs_sub_lt near))

/-- Of a net amount of 344.83 the standard tax is 55.17, and so it is of the 400.00 in all. -/
theorem inclusiveTax_add_exclusiveTax_of_four_hundred :
    let net : Money := 34483
    (0 ≤ net ∧ Word.ofInt? ⌊net.exclusiveShare .standard + 1 / 2⌋ = some 5517 ∧
      Word.add net 5517 = .ok 40000) ∧
    net.exclusiveTax .standard = 5517 ∧ inclusiveTax 40000 .standard = 5517 := by
  intro net
  have fits : Word.ofInt? ⌊net.exclusiveShare .standard + 1 / 2⌋ = some 5517 := by decide +kernel
  have sum : Word.add net 5517 = .ok 40000 := by decide
  exact ⟨⟨by decide, fits, sum⟩,
    inclusiveTax_add_exclusiveTax net 5517 40000 .standard (by decide) fits sum⟩

/-- The tax to add to an amount is rounded half up from half a cent below zero on, and so for every
amount that is not below zero: then it misses the share by half a cent at most, and a share in
whole cents not at all.  Further below zero half a cent is added and the rest is cut off upwards.
This is rounding half up on a tie only, and a share in whole cents is missed by one. -/
theorem exclusiveTax_half_up_iff (m : Money) (rate : TaxRate) (rounded : Money)
    (fits : Word.ofInt? ⌊m.exclusiveShare rate + 1 / 2⌋ = some rounded) :
    let share := m.exclusiveShare rate
    let tax := m.exclusiveTax rate
    (tax = rounded ↔ -1 / 2 ≤ share ∨ ∃ n : Int, share + 1 / 2 = n) ∧
    (0 ≤ m → -1 / 2 ≤ share) ∧
    (-1 / 2 ≤ share → |share - tax.toInt| ≤ 1 / 2 ∧ ∀ n : Int, share = n → tax.toInt = n) ∧
    (share < -1 / 2 →
      tax.toInt = ⌈share + 1 / 2⌉ ∧ ∀ n : Int, share = n → tax.toInt = n + 1) := by
  intro share tax
  have exact : rounded.toInt = ⌊share + 1 / 2⌋ := Word.ofInt?_eq_some_iff.1 fits
  have cut : tax.toInt = if 0 ≤ share + 1 / 2 then ⌊share + 1 / 2⌋ else ⌈share + 1 / 2⌉ :=
    toInt_exclusiveTax exact
  have sign : -1 / 2 ≤ share ↔ 0 ≤ share + 1 / 2 := by constructor <;> intro <;> linarith
  refine ⟨?_, fun amount => ?_, fun above => ?_, fun below => ?_⟩
  · rw [← Int64.toInt_inj, exact, cut, sign]
    split
    · next above => simp only [above, true_or]
    · next below => simp only [below, false_or, ceil_eq_floor_iff]
  · have share_nonneg : 0 ≤ share := exclusiveShare_nonneg (Int64.le_iff_toInt_le.1 amount) rate
    linarith
  · rw [if_pos (sign.1 above), ← round_eq] at cut
    rw [cut]
    refine ⟨abs_sub_round share, fun n whole => ?_⟩
    rw [whole, round_intCast]
  · rw [if_neg (sign.not.1 (not_le.2 below))] at cut
    refine ⟨cut, fun n whole => ?_⟩
    rw [cut, whole, Int.ceil_eq_iff]
    push_cast
    constructor <;> linarith

/-- The standard tax on 8.25 is 1.32. -/
theorem exclusiveTax_half_up_iff_of_sale :
    let sale : Money := 825
    Word.ofInt? ⌊sale.exclusiveShare .standard + 1 / 2⌋ = some 132 ∧
      sale.exclusiveTax .standard = 132 := by
  intro sale
  have fits : Word.ofInt? ⌊sale.exclusiveShare .standard + 1 / 2⌋ = some 132 := by decide +kernel
  obtain ⟨half_up, amount, -⟩ := exclusiveTax_half_up_iff sale .standard 132 fits
  exact ⟨fits, half_up.2 (.inl (amount (by decide)))⟩

/-- The standard tax on -1.00 is -0.16 and needs no rounding, but it comes out at -0.15. -/
theorem exclusiveTax_of_refund :
    let refund : Money := -100
    refund.exclusiveShare .standard = -16 ∧
      ⌊refund.exclusiveShare .standard + 1 / 2⌋ = -16 ∧
      (refund.exclusiveTax .standard).toInt = -15 := by
  decide +kernel

end Money

end Tillbook
