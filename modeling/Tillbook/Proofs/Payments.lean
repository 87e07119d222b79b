import Mathlib.Algebra.Order.BigOperators.Group.List
import Mathlib.Algebra.Order.Group.Int
import Mathlib.Algebra.Ring.Int.Defs
import Tillbook.Proofs.Outcomes
import Tillbook.Validation

/-!
# Payments in form

What the checks of a request let pass, and the money of a payment in exact
integers: the tenders of a payment in form carry its total, and what is billed is
the sum of the tenders on credit.

## Main definitions

* `Tender.creditSum` — the amount of the tenders on credit.

## Main statements

* `Validation.commit_eq_ok_iff` — what a request in form is.
* `Payment.sum_tenders` — the tenders of a payment add up to its total.
* `Payment.toInt_creditPortion` — nothing billed is clamped.
* `Payment.coherent` — all that is read off a payment tells of the same money.
-/

namespace Tillbook

namespace Validation

theorem orRefuse_eq_ok_iff {α : Type} {check : Except Invalid α} {a : α} :
    orRefuse check = .ok a ↔ check = .ok a :=
  mapError_eq_ok_iff

/-- A name in form is not blank. -/
theorem present_eq_ok_iff {field value : String} :
    present field value = .ok () ↔ ¬Text.Blank value := by
  unfold present
  split
  · next blank => simp [blank]
  · next named => simp [named]

theorem amount_eq_ok_iff {field : String} {m : Money} :
    amount field m = .ok () ↔ 0 ≤ m.toInt ∧ m.toInt ≤ maxAmount.toInt := by
  rw [amount, bind_unit_eq_ok_iff, nonNegative, ite_error_eq_ok_iff, ite_error_eq_ok_iff,
    Int64.not_lt, Int64.not_lt, Int64.le_iff_toInt_le, Int64.le_iff_toInt_le]
  exact and_congr (and_iff_left rfl) (and_iff_left rfl)

theorem positive_eq_ok_iff {field : String} {m : Money} :
    positive field m = .ok () ↔ 0 < m.toInt := by
  rw [positive, ite_error_eq_ok_iff, Int64.not_le, Int64.lt_iff_toInt_lt]
  exact and_iff_left rfl

/-- A tender of a split is an amount above zero, and only a mobile one has a subtype. -/
theorem tender_eq_ok_iff {t : Tender} :
    tender t = .ok () ↔
      0 < t.amount.toInt ∧ t.amount.toInt ≤ maxAmount.toInt ∧
        ¬(t.method ≠ .mobile ∧ t.subtype.isSome) := by
  unfold tender
  by_cases nothing : t.amount ≤ 0
  · have below : t.amount.toInt ≤ 0 := Int64.le_iff_toInt_le.1 nothing
    simp only [nothing, if_true, bind, Except.bind, reduceCtorEq, false_iff]
    omega
  · have above : 0 < t.amount.toInt := Int64.lt_iff_toInt_lt.1 (Int64.not_le.1 nothing)
    rw [if_neg nothing, bind_unit_eq_ok_iff, orRefuse_eq_ok_iff, amount_eq_ok_iff]
    by_cases foreign : t.method ≠ .mobile ∧ t.subtype.isSome
    · simp [foreign]
    · simp only [foreign, if_false, pure, Except.pure, and_true, not_false_eq_true]
      omega

/-- The tenders of a split are in form and add up to the total. -/
theorem payment_split_eq_ok_iff {ts : List Tender} {total : Money} :
    payment (.split ts) total = .ok () ↔
      ts ≠ [] ∧ (∀ t ∈ ts, tender t = .ok ()) ∧ Money.sum (ts.map (·.amount)) = .ok total := by
  unfold payment
  cases ts with
  | nil => simp [bind, Except.bind]
  | cons first rest =>
    simp only [List.isEmpty_cons, Bool.false_eq_true, if_false, bind_unit_eq_ok_iff,
      forM_eq_ok_iff, ne_eq, reduceCtorEq, not_false_eq_true, true_and]
    apply and_congr_right
    intro _
    cases Money.sum ((first :: rest).map (·.amount)) with
    | error why => simp
    | ok sum => by_cases same : sum = total <;> simp [same]

theorem quantity_eq_ok_iff {n : Int64} :
    quantity n = .ok () ↔ 0 < n.toInt ∧ n.toInt ≤ maxQuantity.toInt := by
  rw [quantity, ite_error_eq_ok_iff, ite_error_eq_ok_iff, Int64.not_le, Int64.not_lt,
    Int64.lt_iff_toInt_lt, Int64.le_iff_toInt_le]
  exact and_congr_right fun _ => and_iff_left rfl

/-- A line in form names a product, and its quantity and agreed price are in form. -/
theorem cartLine_eq_ok_iff {line : CartLine} :
    cartLine line = .ok () ↔
      present "product_id" line.productId = .ok () ∧ quantity line.quantity = .ok () ∧
        ∀ price, line.unitPrice = some price → amount "unit price" price = .ok () := by
  simp only [cartLine, bind_unit_eq_ok_iff]
  cases line.unitPrice <;> simp

/-- A cart in form is not empty, not too long, and all of its lines are in form. -/
theorem cart_eq_ok_iff {items : List CartLine} :
    cart items = .ok () ↔
      items ≠ [] ∧ items.length ≤ maxCartItems ∧ ∀ line ∈ items, cartLine line = .ok () := by
  unfold cart
  cases items with
  | nil => simp [bind, Except.bind]
  | cons first rest =>
    simp only [List.isEmpty_cons, Bool.false_eq_true, if_false, ne_eq, reduceCtorEq,
      not_false_eq_true, true_and]
    by_cases long : maxCartItems < (first :: rest).length
    · simp only [long, if_true, bind, Except.bind, reduceCtorEq, false_iff, not_and]
      omega
    · rw [if_neg long, ← forM_eq_ok_iff]
      simp only [Nat.not_lt.1 long, true_and]

/-- The name of a station is not empty, not too long, and of letters, digits and hyphens. -/
theorem station_eq_ok_iff {name : String} :
    station name = .ok () ↔
      name.isEmpty = false ∧ name.utf8ByteSize ≤ 16 ∧
        ∀ c ∈ name.toList, isStationChar c = true := by
  unfold station
  by_cases empty : name.isEmpty = true
  · simp [empty]
  · by_cases long : 16 < name.utf8ByteSize
    · rw [if_neg empty, if_pos long]
      exact ⟨nofun, fun form => absurd form.2.1 (Nat.not_le.2 long)⟩
    · simp [empty, long, Nat.not_lt.1 long]

/-- A request in form names its staff, and its cart, total, payment, customer and
station are in form. -/
theorem commit_eq_ok_iff {r : CommitRequest} :
    commit r = .ok () ↔
      present "staff_id" r.staffId = .ok () ∧ cart r.items = .ok () ∧
        amount "total" r.total = .ok () ∧ payment r.payment r.total = .ok () ∧
        ¬(r.payment.involvesCredit ∧ r.customerId = none) ∧
        ∀ name, r.originStation = some name → station name = .ok () := by
  simp only [commit, bind_unit_eq_ok_iff, orRefuse_eq_ok_iff]
  by_cases unnamed : r.payment.involvesCredit ∧ r.customerId = none
  · simp [unnamed, bind, Except.bind]
  · simp only [unnamed, if_false, not_false_eq_true, true_and]
    cases r.originStation with
    | none => simp
    | some name => simp [orRefuse_eq_ok_iff]

end Validation

/-! ## Exact sums -/

theorem Money.toInt_of_sum {ms : List Money} {total : Money} (h : Money.sum ms = .ok total) :
    total.toInt = (ms.map (·.toInt)).sum := by
  -- The fold starts anywhere, so the start is carried along.
  suffices general : ∀ (ms : List Money) (start : Money),
      ms.foldlM Word.add start = .ok total → total.toInt = start.toInt + (ms.map (·.toInt)).sum by
    simpa using general ms 0 h
  intro ms
  induction ms with
  | nil =>
    intro start h
    cases h
    simp
  | cons m rest ih =>
    intro start h
    rw [List.foldlM_cons, bind_eq_ok_iff] at h
    obtain ⟨next, first, later⟩ := h
    rw [ih next later, Word.add_eq_ok_iff.1 first, List.map_cons, List.sum_cons]
    omega

/-- Amounts that are not below zero add up to a word if their exact sum is that word: no sum on the
way is larger. -/
theorem Money.sum_eq_ok_iff {ms : List Money} (amounts : ∀ m ∈ ms, 0 ≤ m.toInt) {total : Money} :
    Money.sum ms = .ok total ↔ (ms.map (·.toInt)).sum = total.toInt := by
  refine ⟨fun h => (toInt_of_sum h).symm, fun exact => ?_⟩
  suffices general : ∀ (ms : List Money) (start : Money), (∀ m ∈ ms, 0 ≤ m.toInt) →
      0 ≤ start.toInt → start.toInt + (ms.map (·.toInt)).sum = total.toInt →
      ms.foldlM Word.add start = .ok total by
    exact general ms 0 amounts (le_refl (0 : Money).toInt) (by simpa using exact)
  intro ms
  induction ms with
  | nil =>
    intro start _ _ sum
    rw [List.map_nil, List.sum_nil, add_zero, Int64.toInt_inj] at sum
    rw [sum]
    rfl
  | cons m rest ih =>
    intro start amounts nonnegative sum
    rw [List.forall_mem_cons] at amounts
    rw [List.map_cons, List.sum_cons] at sum
    have later : 0 ≤ (rest.map (·.toInt)).sum := List.sum_nonneg (by simpa using amounts.2)
    have most := total.toInt_le
    have low : Int64.minValue.toInt ≤ 0 := by decide
    obtain ⟨next, hnext⟩ : ∃ next : Money, next.toInt = start.toInt + m.toInt :=
      Word.exists_toInt_eq (by omega) (by omega)
    rw [List.foldlM_cons, bind_eq_ok_iff]
    exact ⟨next, Word.add_eq_ok_iff.2 hnext, ih next amounts.2 (by omega) (by omega)⟩

/-- A clamped sum of amounts is exact as long as it is a word. -/
theorem Money.toInt_foldl_addClamped {ms : List Money} (amounts : ∀ m ∈ ms, 0 ≤ m.toInt)
    {start : Money} (nonnegative : 0 ≤ start.toInt)
    (bound : start.toInt + (ms.map (·.toInt)).sum ≤ Int64.maxValue.toInt) :
    (ms.foldl Word.addClamped start).toInt = start.toInt + (ms.map (·.toInt)).sum := by
  induction ms generalizing start with
  | nil => simp
  | cons m rest ih =>
    rw [List.forall_mem_cons] at amounts
    rw [List.map_cons, List.sum_cons] at bound ⊢
    have later : 0 ≤ (rest.map (·.toInt)).sum := List.sum_nonneg (by simpa using amounts.2)
    have exact : (Word.addClamped start m).toInt = start.toInt + m.toInt := by
      rw [Word.addClamped, Word.toInt_clamp]
      have := Int64.toInt_minValue
      omega
    rw [List.foldl_cons, ih amounts.2 (by omega) (by omega), exact]
    omega

/-- The amount of the tenders on credit. -/
def Tender.creditSum (ts : List Tender) : Int :=
  ((ts.filter (·.method == .credit)).map (·.amount.toInt)).sum

namespace Tender

theorem amounts_nonneg {ts : List Tender} (form : ∀ t ∈ ts, Validation.tender t = .ok ()) :
    ∀ m ∈ ts.map (·.amount), 0 ≤ m.toInt := by
  intro m hm
  obtain ⟨t, ht, rfl⟩ := List.mem_map.1 hm
  exact (Validation.tender_eq_ok_iff.1 (form t ht)).1.le

/-- No more is billed than is paid. -/
theorem creditSum_le_sum {ts : List Tender} (amounts : ∀ m ∈ ts.map (·.amount), 0 ≤ m.toInt) :
    creditSum ts ≤ (ts.map (·.amount.toInt)).sum := by
  have part : ((ts.filter (·.method == .credit)).map (·.amount.toInt)).Sublist
      (ts.map (·.amount.toInt)) := List.filter_sublist.map _
  exact part.sum_le_sum (by simpa using amounts)

theorem creditSum_nonneg {ts : List Tender} (h : ∀ t ∈ ts, 0 ≤ t.amount) : 0 ≤ creditSum ts := by
  apply List.sum_nonneg
  intro n hn
  obtain ⟨t, ht, rfl⟩ := List.mem_map.1 hn
  exact Int64.le_iff_toInt_le.1 (h t (List.mem_of_mem_filter ht))

/-- Each tender on credit is billed. -/
theorem amount_le_creditSum {ts : List Tender} (amounts : ∀ t ∈ ts, 0 ≤ t.amount.toInt)
    {t : Tender} (ht : t ∈ ts) (credit : t.method = .credit) : t.amount.toInt ≤ creditSum ts := by
  apply List.single_le_sum
  · intro n hn
    obtain ⟨u, hu, rfl⟩ := List.mem_map.1 hn
    exact amounts u (List.mem_of_mem_filter hu)
  · exact List.mem_map_of_mem (List.mem_filter.2 ⟨ht, beq_iff_eq.2 credit⟩)

end Tender

/-! ## A payment and its tenders -/

namespace Payment

variable {p : Payment} {total : Money}

theorem tenders_ne_nil (form : Validation.payment p total = .ok ()) : p.tenders total ≠ [] := by
  cases p with
  | split ts => exact (Validation.payment_split_eq_ok_iff.1 form).1
  | cash | mobile | credit => exact List.cons_ne_nil _ _

/-- The tenders of a payment add up to its total. -/
theorem sum_tenders (form : Validation.payment p total = .ok ()) :
    ((p.tenders total).map (·.amount.toInt)).sum = total.toInt := by
  cases p with
  | split ts =>
    rw [Money.toInt_of_sum (Validation.payment_split_eq_ok_iff.1 form).2.2, List.map_map]
    rfl
  | cash | mobile | credit => simp [tenders, Tender.plain]

/-- The tenders of a payment of an amount are not below zero. -/
theorem tenders_nonneg (form : Validation.payment p total = .ok ()) (amount : 0 ≤ total.toInt) :
    ∀ t ∈ p.tenders total, 0 ≤ t.amount.toInt := by
  cases p with
  | split ts =>
    intro t ht
    have each := (Validation.payment_split_eq_ok_iff.1 form).2.1 t ht
    exact (Validation.tender_eq_ok_iff.1 each).1.le
  | cash | mobile | credit => simpa [tenders, Tender.plain] using amount

/-- What is billed is the sum of the tenders on credit; nothing is clamped. -/
theorem toInt_creditPortion (form : Validation.payment p total = .ok ()) :
    (p.creditPortion total).toInt = Tender.creditSum (p.tenders total) := by
  cases p with
  | cash => simp [creditPortion, tenders, Tender.creditSum, Tender.plain]
  | mobile s => simp [creditPortion, tenders, Tender.creditSum]
  | credit => simp [creditPortion, tenders, Tender.creditSum, Tender.plain]
  | split ts =>
    obtain ⟨-, each, -⟩ := Validation.payment_split_eq_ok_iff.1 form
    have amounts := Tender.amounts_nonneg each
    have carried : (ts.map (·.amount.toInt)).sum = total.toInt := sum_tenders form
    have most : Tender.creditSum ts ≤ Int64.maxValue.toInt :=
      (Tender.creditSum_le_sum amounts).trans (carried ▸ total.toInt_le)
    have billed : ∀ m ∈ (ts.filter (·.method == .credit)).map (·.amount), 0 ≤ m.toInt :=
      fun m hm => amounts m ((List.filter_sublist.map _).subset hm)
    have exact := Money.toInt_foldl_addClamped billed (le_refl (0 : Money).toInt)
      (by simpa [Tender.creditSum, Function.comp_def] using most)
    simpa [creditPortion, tenders, Tender.creditSum, List.foldl_map, Function.comp_def] using exact

/-- The tenders on credit can be added up, and come to what is billed. -/
theorem sum_onCredit (form : Validation.payment p total = .ok ()) (amount : 0 ≤ total.toInt) :
    Money.sum (((p.tenders total).filter (·.method == .credit)).map (·.amount)) =
      .ok (p.creditPortion total) := by
  have each := tenders_nonneg form amount
  rw [Money.sum_eq_ok_iff, toInt_creditPortion form, List.map_map]
  · rfl
  · intro m hm
    obtain ⟨t, ht, rfl⟩ := List.mem_map.1 hm
    exact each t (List.mem_of_mem_filter ht)

/-- What is billed is between nothing and the total. -/
theorem creditPortion_within (form : Validation.payment p total = .ok ())
    (amount : 0 ≤ total.toInt) :
    0 ≤ (p.creditPortion total).toInt ∧ (p.creditPortion total).toInt ≤ total.toInt := by
  have each := tenders_nonneg form amount
  have most : Tender.creditSum (p.tenders total) ≤ total.toInt := by
    rw [← sum_tenders form]
    exact Tender.creditSum_le_sum (by simpa using each)
  rw [toInt_creditPortion form]
  exact ⟨Tender.creditSum_nonneg fun t ht => Int64.le_iff_toInt_le.2 (each t ht), most⟩

/-- A split bills something as soon as one of its tenders is on credit. -/
theorem creditPortion_split_pos {ts : List Tender}
    (form : Validation.payment (.split ts) total = .ok ())
    (credit : (split ts).involvesCredit = true) : 0 < ((split ts).creditPortion total).toInt := by
  obtain ⟨-, each, -⟩ := Validation.payment_split_eq_ok_iff.1 form
  obtain ⟨t, ht, method⟩ := List.any_eq_true.1 credit
  have above : ∀ u ∈ ts, 0 < u.amount.toInt :=
    fun u hu => (Validation.tender_eq_ok_iff.1 (each u hu)).1
  rw [toInt_creditPortion form]
  calc 0 < t.amount.toInt := above t ht
    _ ≤ Tender.creditSum ts :=
      Tender.amount_le_creditSum (fun u hu => (above u hu).le) ht (beq_iff_eq.1 method)

/-- Where credit is involved, nothing is billed only if there is nothing to pay. -/
theorem eq_zero_of_creditPortion_eq_zero (form : Validation.payment p total = .ok ())
    (credit : p.involvesCredit = true) (nothing : p.creditPortion total = 0) : total = 0 := by
  cases p with
  | cash | mobile => nomatch credit
  | credit => exact nothing
  | split ts =>
    have above := creditPortion_split_pos form credit
    rw [nothing, Int64.toInt_zero] at above
    exact absurd above (lt_irrefl 0)

/-- All that is read off a payment tells of the same money.  The store gives the payment back, and
credit shows in the tenders.  The tenders of a payment in form add up to the total, and those on
credit to what is billed, without a sum that leaves the words.  That is between nothing and the
total, and where credit is involved it is nothing only if there is nothing to pay. -/
theorem coherent (p : Payment) {total : Money} (amount : 0 ≤ total.toInt) :
    ofStored p.kind p.subtype (p.tenders total) = p ∧
      (p.involvesCredit = true ↔ ∃ t ∈ p.tenders total, t.method = .credit) ∧
      (Validation.payment p total = .ok () →
        ((p.tenders total).map (·.amount.toInt)).sum = total.toInt ∧
          Money.sum (((p.tenders total).filter (·.method == .credit)).map (·.amount)) =
            .ok (p.creditPortion total) ∧
          (p.creditPortion total).toInt =
            (((p.tenders total).filter (·.method == .credit)).map (·.amount.toInt)).sum ∧
          (0 ≤ (p.creditPortion total).toInt ∧ (p.creditPortion total).toInt ≤ total.toInt) ∧
          (p.involvesCredit = true → p.creditPortion total = 0 → total = 0)) := by
  refine ⟨ofStored_tenders p total, ?_, fun form => ?_⟩
  · simp [involvesCredit_eq_any p total]
  · exact ⟨sum_tenders form, sum_onCredit form amount, toInt_creditPortion form,
      creditPortion_within form amount, eq_zero_of_creditPortion_eq_zero form⟩

/-- Five shillings, of which three are billed in two tenders. -/
theorem coherent_of_split :
    0 ≤ (500 : Money).toInt ∧
      Validation.payment (.split [⟨.credit, 100, none⟩, ⟨.mobile, 200, some "MPESA"⟩,
        ⟨.credit, 200, none⟩]) 500 = .ok () ∧
      Money.sum [100, 200] = .ok (Payment.creditPortion (.split [⟨.credit, 100, none⟩,
        ⟨.mobile, 200, some "MPESA"⟩, ⟨.credit, 200, none⟩]) 500) := by
  have amount : 0 ≤ (500 : Money).toInt := by decide
  have form : Validation.payment (.split [⟨.credit, 100, none⟩, ⟨.mobile, 200, some "MPESA"⟩,
      ⟨.credit, 200, none⟩]) 500 = .ok () := by decide
  exact ⟨amount, form, ((coherent _ amount).2.2 form).2.1⟩

end Payment

end Tillbook
