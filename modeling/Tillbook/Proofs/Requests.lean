import Mathlib.Data.List.TakeWhile
import Tillbook.Proofs.Payments

/-!
# Requests in form

The checks of a request stop at the first fault.  Together they let pass what is said here of the
request as a whole, in exact integers and without the order in which they look: however many
tenders a split has, they are added up as if there were no end of the words.

## Main definitions

* `CommitRequest.InForm` — a request to commit a receipt that has no fault.

## Main statements

* `Text.trim_eq_empty_iff` — a text of blanks is one that trimming leaves nothing of.
* `Validation.commit_iff_inForm` — the checks let pass the requests in form and no others.
-/

namespace Tillbook

namespace Text

/-! ## Blank names -/

theorem trimStart_eq_nil_iff {cs : List Char} :
    trimStart cs = [] ↔ ∀ c ∈ cs, isBlank c = true :=
  List.dropWhile_eq_nil_iff

/-- What is left at the front is blank throughout only if nothing is left. -/
theorem forall_mem_trimStart_iff {cs : List Char} :
    (∀ c ∈ trimStart cs, isBlank c = true) ↔ ∀ c ∈ cs, isBlank c = true := by
  constructor
  · intro blank c hc
    rw [← List.takeWhile_append_dropWhile (p := isBlank) (l := cs), List.mem_append] at hc
    exact hc.elim List.mem_takeWhile_imp (blank c)
  · intro blank c hc
    exact blank c (List.dropWhile_subset isBlank hc)

/-- A text of blanks is one that trimming leaves nothing of. -/
theorem trim_eq_empty_iff {s : String} : trim s = "" ↔ Blank s := by
  unfold trim trimChars Blank
  rw [String.ofList_eq_empty_iff, List.reverse_eq_nil_iff, trimStart_eq_nil_iff]
  simp only [List.mem_reverse]
  exact forall_mem_trimStart_iff

theorem not_blank_iff {s : String} : ¬Blank s ↔ ∃ c ∈ s.toList, isBlank c = false := by
  simp [Blank]

end Text

/-! ## The form of a request -/

/-- A line that has no fault. -/
structure CartLine.InForm (l : CartLine) : Prop where
  product : ∃ c ∈ l.productId.toList, Text.isBlank c = false
  quantity : 1 ≤ l.quantity.toInt ∧ l.quantity.toInt ≤ 999
  unitPrice : ∀ price, l.unitPrice = some price →
    0 ≤ price.toInt ∧ price.toInt ≤ Validation.maxAmount.toInt

/-- A tender of a split that has no fault. -/
structure Tender.InForm (t : Tender) : Prop where
  amount : 1 ≤ t.amount.toInt ∧ t.amount.toInt ≤ Validation.maxAmount.toInt
  subtype : t.method = .cash ∨ t.method = .credit → t.subtype = none

/-- The tenders of a split that has no fault.  Their sum is that of the exact integers. -/
structure Tender.Cover (ts : List Tender) (total : Money) : Prop where
  size : 1 ≤ ts.length
  each : ∀ t ∈ ts, t.InForm
  sum : (ts.map (·.amount.toInt)).sum = total.toInt

/-- The name of a station that has no fault. -/
structure Station.InForm (name : String) : Prop where
  size : 1 ≤ name.utf8ByteSize ∧ name.utf8ByteSize ≤ 16
  chars : ∀ c ∈ name.toList,
    ('A' ≤ c ∧ c ≤ 'Z') ∨ ('a' ≤ c ∧ c ≤ 'z') ∨ ('0' ≤ c ∧ c ≤ '9') ∨ c = '-'

/-- A request to commit a receipt that has no fault. -/
structure CommitRequest.InForm (r : CommitRequest) : Prop where
  staff : ∃ c ∈ r.staffId.toList, Text.isBlank c = false
  size : 1 ≤ r.items.length ∧ r.items.length ≤ 100
  lines : ∀ line ∈ r.items, line.InForm
  total : 0 ≤ r.total.toInt ∧ r.total.toInt ≤ Validation.maxAmount.toInt
  split : ∀ ts, r.payment = .split ts → Tender.Cover ts r.total
  customer : (r.payment = .credit ∨ ∃ ts, r.payment = .split ts ∧ ∃ t ∈ ts, t.method = .credit) →
    ∃ id, r.customerId = some id
  station : ∀ name, r.originStation = some name → Station.InForm name

namespace Validation

/-! ## What the checks let pass -/

theorem cartLine_iff_inForm {line : CartLine} : cartLine line = .ok () ↔ line.InForm := by
  have most : maxQuantity.toInt = 999 := by decide
  simp only [cartLine_eq_ok_iff, present_eq_ok_iff, Text.not_blank_iff, quantity_eq_ok_iff, most,
    amount_eq_ok_iff]
  exact ⟨fun ⟨product, quantity, unitPrice⟩ => ⟨product, quantity, unitPrice⟩,
    fun form => ⟨form.product, form.quantity, form.unitPrice⟩⟩

theorem tender_iff_inForm {t : Tender} : tender t = .ok () ↔ t.InForm := by
  have plain : ¬(t.method ≠ .mobile ∧ t.subtype.isSome) ↔
      (t.method = .cash ∨ t.method = .credit → t.subtype = none) := by
    cases t.method <;> simp
  rw [tender_eq_ok_iff, plain]
  exact ⟨fun ⟨least, most, subtype⟩ => ⟨⟨least, most⟩, subtype⟩,
    fun form => ⟨form.amount.1, form.amount.2, form.subtype⟩⟩

/-- Only a split can have a fault.  No sum of its tenders leaves the words on the way to a total
that is one. -/
theorem payment_iff_cover {p : Payment} {total : Money} :
    payment p total = .ok () ↔ ∀ ts, p = .split ts → Tender.Cover ts total := by
  cases p with
  | cash | mobile | credit => simp [payment]
  | split ts =>
    simp only [payment_split_eq_ok_iff, Payment.split.injEq, forall_eq']
    constructor
    · rintro ⟨some, each, sum⟩
      refine ⟨List.length_pos_iff.2 some, fun t ht => tender_iff_inForm.1 (each t ht), ?_⟩
      rw [Money.toInt_of_sum sum, List.map_map]
      rfl
    · intro cover
      have each : ∀ t ∈ ts, tender t = .ok () := fun t ht => tender_iff_inForm.2 (cover.each t ht)
      refine ⟨List.length_pos_iff.1 cover.size, each, ?_⟩
      rw [Money.sum_eq_ok_iff (Tender.amounts_nonneg each), List.map_map]
      exact cover.sum

theorem isStationChar_iff {c : Char} :
    isStationChar c = true ↔
      ('A' ≤ c ∧ c ≤ 'Z') ∨ ('a' ≤ c ∧ c ≤ 'z') ∨ ('0' ≤ c ∧ c ≤ '9') ∨ c = '-' := by
  have upper : c.isUpper = true ↔ 'A' ≤ c ∧ c ≤ 'Z' := decide_eq_true_iff
  have lower : c.isLower = true ↔ 'a' ≤ c ∧ c ≤ 'z' :=
    Bool.and_eq_true_iff.trans (and_congr decide_eq_true_iff decide_eq_true_iff)
  have digit : c.isDigit = true ↔ '0' ≤ c ∧ c ≤ '9' :=
    Bool.and_eq_true_iff.trans (and_congr decide_eq_true_iff decide_eq_true_iff)
  have letter : c.isAlpha = true ↔ c.isUpper = true ∨ c.isLower = true := Bool.or_eq_true_iff
  have either : c.isAlphanum = true ↔ c.isAlpha = true ∨ c.isDigit = true := Bool.or_eq_true_iff
  rw [isStationChar, Bool.or_eq_true, either, letter, upper, lower, digit, beq_iff_eq, or_assoc,
    or_assoc]

theorem station_iff_inForm {name : String} : station name = .ok () ↔ Station.InForm name := by
  have some : name.isEmpty = false ↔ 1 ≤ name.utf8ByteSize := by
    simp [String.isEmpty, Nat.one_le_iff_ne_zero]
  simp only [station_eq_ok_iff, some, isStationChar_iff]
  exact ⟨fun ⟨least, most, chars⟩ => ⟨⟨least, most⟩, chars⟩,
    fun form => ⟨form.size.1, form.size.2, form.chars⟩⟩

theorem involvesCredit_iff {p : Payment} :
    p.involvesCredit = true ↔ p = .credit ∨ ∃ ts, p = .split ts ∧ ∃ t ∈ ts, t.method = .credit := by
  cases p <;> simp [Payment.involvesCredit]

/-- The checks let pass the requests in form and no others. -/
theorem commit_iff_inForm (r : CommitRequest) : commit r = .ok () ↔ r.InForm := by
  have most : maxCartItems = 100 := rfl
  simp only [commit_eq_ok_iff, present_eq_ok_iff, Text.not_blank_iff, cart_eq_ok_iff, most,
    cartLine_iff_inForm, amount_eq_ok_iff, payment_iff_cover, not_and, involvesCredit_iff,
    ← ne_eq, Option.ne_none_iff_exists', station_iff_inForm]
  constructor
  · rintro ⟨staff, ⟨some, few, lines⟩, total, split, customer, station⟩
    exact ⟨staff, ⟨List.length_pos_iff.2 some, few⟩, lines, total, split, customer, station⟩
  · intro form
    have some := List.length_pos_iff.1 form.size.1
    exact ⟨form.staff, ⟨some, form.size.2, form.lines⟩, form.total, form.split, form.customer,
      form.station⟩

end Validation

end Tillbook
