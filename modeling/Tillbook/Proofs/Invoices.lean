import Tillbook.Proofs.Products
import Tillbook.Proofs.ShiftTotals
import Tillbook.Tax.Invoice

/-!
# Amounts after a commit

A receipt that is committed has a total with a sign, its lines have amounts, and it has an
invoice, as long as these amounts are words.  The total and the prices that the till agrees are
bounded when the request is checked, so that they are.  The prices of the catalog are not
bounded: of a product that is dear enough two units can be sold, but their amount cannot be told
any more, and there is no invoice of the receipt.

## Main definitions

* `CartLine.AmountFits` — the amount of a line is a word.
* `ProductRow.Capped` — the prices are not above the largest amount.

## Main statements

* `TaxInvoice.exists_ofCommitted_iff` — an invoice needs the amounts of the lines alone.
* `Commit.Booked.exists_lineTotals_iff` — the amounts that can be told.
* `History.capped` — the prices of the catalog are those of the products that were added.
* `History.invoice_iff_amounts_fit` — the amounts of every run.
-/

namespace Tillbook

variable {s s' : Store}

/-! ## Lines and invoices -/

/-- The amount of a line can be told if it is a word. -/
theorem SaleItem.exists_lineTotal_iff {i : SaleItem} (quantity : 0 < i.quantity)
    (unitPrice : 0 ≤ i.unitPrice) :
    (∃ m, i.lineTotal = .ok m) ↔
      i.unitPrice.toInt * i.quantity.toInt ≤ Int64.maxValue.toInt := by
  have positive := Int64.lt_iff_toInt_lt.1 quantity
  have nonnegative := Int64.le_iff_toInt_le.1 unitPrice
  rw [Int64.toInt_zero] at positive nonnegative
  have least := Int.mul_nonneg nonnegative positive.le
  simp only [lineTotal, Money.times, Word.mul_eq_ok_iff]
  constructor
  · rintro ⟨m, exact⟩
    exact exact ▸ m.toInt_le
  · intro most
    have low : Int64.minValue.toInt ≤ 0 := by decide
    exact Word.exists_toInt_eq (low.trans least) most

/-- There is an invoice if the amount of each line can be told. -/
theorem TaxInvoice.exists_ofCommitted_iff {c : Committed} {sellerPin : String}
    {buyerPin : Option String} {rate : TaxRate} :
    (∃ invoice, ofCommitted c sellerPin buyerPin rate = .ok invoice) ↔
      ∀ i ∈ c.items, ∃ m, i.lineTotal = .ok m := by
  have line (i : SaleItem) :
      (∃ l, InvoiceLine.ofItem rate i = .ok l) ↔ ∃ m, i.lineTotal = .ok m :=
    exists_bind_pure_eq_ok_iff
  refine exists_bind_pure_eq_ok_iff.trans ?_
  simp only [exists_mapM_eq_ok_iff, line]

/-! ## What a commit bounds -/

/-- At the price of the catalog the amount of the line is a word, unless a price is agreed at the
till. -/
def CartLine.AmountFits (line : CartLine) (s : Store) : Prop :=
  line.unitPrice = none → ∀ row, s.product? line.productId = some row →
    (row.toProductCard.priceFor line.quantity).toInt * line.quantity.toInt ≤
      Int64.maxValue.toInt

/-- No quantity in form makes an amount out of the words of a price that is one in form. -/
theorem Validation.mul_le_of_quantity {price : Money} {n : Int64}
    (most : price.toInt ≤ maxAmount.toInt) (form : quantity n = .ok ()) :
    price.toInt * n.toInt ≤ Int64.maxValue.toInt := by
  obtain ⟨positive, few⟩ := quantity_eq_ok_iff.1 form
  calc price.toInt * n.toInt
      ≤ maxAmount.toInt * n.toInt := Int.mul_le_mul_of_nonneg_right most positive.le
    _ ≤ maxAmount.toInt * maxQuantity.toInt := Int.mul_le_mul_of_nonneg_left few (by decide)
    _ ≤ Int64.maxValue.toInt := by decide

namespace Commit

variable {station : String} {stamp : Stamp} {request : CommitRequest} {c : Committed}

/-- The amount of a line at an agreed price can be told, and one at the price of the catalog if
it fits. -/
theorem exists_lineTotal_itemOf_iff {position : Nat} {line : CartLine} {row : ProductRow}
    (form : Validation.cartLine line = .ok ()) (found : s.product? line.productId = some row)
    (quantity : 0 < line.quantity)
    (unitPrice : 0 ≤ line.unitPrice.getD (row.toProductCard.priceFor line.quantity)) :
    (∃ m, (itemOf request stamp position line row.toProductCard).lineTotal = .ok m) ↔
      line.AmountFits s := by
  obtain ⟨-, few, agreed⟩ := Validation.cartLine_eq_ok_iff.1 form
  refine (SaleItem.exists_lineTotal_iff quantity unitPrice).trans ?_
  change (line.unitPrice.getD _).toInt * line.quantity.toInt ≤ _ ↔ _
  cases price : line.unitPrice with
  | none => simp [CartLine.AmountFits, price, found]
  | some price' =>
    have most := (Validation.amount_eq_ok_iff.1 (agreed price' price)).2
    simp [CartLine.AmountFits, price, Validation.mul_le_of_quantity most few]

theorem Priced.exists_lineTotals_iff {position : Nat} {lines : List CartLine}
    {items : List SaleItem} (h : Priced request stamp s position lines items)
    (form : ∀ line ∈ lines, Validation.cartLine line = .ok ())
    (signs : ∀ i ∈ items, 0 < i.quantity ∧ 0 ≤ i.unitPrice) :
    (∀ i ∈ items, ∃ m, i.lineTotal = .ok m) ↔ ∀ line ∈ lines, line.AmountFits s := by
  induction h with
  | nil => simp
  | cons found stock rest ih =>
    rw [List.forall_mem_cons] at form signs
    rw [List.forall_mem_cons, List.forall_mem_cons, ih form.2 signs.2]
    exact and_congr_left' (exists_lineTotal_itemOf_iff form.1 found signs.1.1 signs.1.2)

namespace Booked

/-- The amounts of the lines can be told if those at the prices of the catalog fit. -/
theorem exists_lineTotals_iff (h : Booked station stamp request s c s') :
    (∀ i ∈ c.items, ∃ m, i.lineTotal = .ok m) ↔ ∀ line ∈ request.items, line.AmountFits s := by
  obtain ⟨-, cart, -⟩ := Validation.commit_eq_ok_iff.1 h.form
  obtain ⟨t, written⟩ := h.written
  exact h.lines.exists_lineTotals_iff (Validation.cart_eq_ok_iff.1 cart).2.2
    fun i hi => written.of_mem hi

/-- The total has a sign of either kind. -/
theorem exists_signedTotal (h : Booked station stamp request s c s') :
    ∃ m, c.receipt.signedTotal = .ok m := by
  obtain ⟨-, -, total, -⟩ := Validation.commit_eq_ok_iff.1 h.form
  obtain ⟨n, -, receipt⟩ := h.number
  obtain ⟨m, signed, -⟩ :=
    Money.exists_signed (Validation.amount_eq_ok_iff.1 total).1 request.isReturn
  refine ⟨m, ?_⟩
  rw [receipt]
  exact signed

end Booked

end Commit

/-! ## The prices of the catalog -/

/-- The prices are not above the largest amount. -/
structure ProductRow.Capped (row : ProductRow) : Prop where
  sellingPrice : row.sellingPrice.toInt ≤ Validation.maxAmount.toInt
  wholesalePrice : ∀ price, row.wholesalePrice = some price →
    price.toInt ≤ Validation.maxAmount.toInt

namespace ProductRow.Capped

variable {row : ProductRow}

theorem priceFor_le (h : row.Capped) (quantity : Int64) :
    (row.toProductCard.priceFor quantity).toInt ≤ Validation.maxAmount.toInt := by
  rcases row.toProductCard.priceFor_cases quantity with retail | wholesale
  · exact retail ▸ h.sellingPrice
  · exact h.wholesalePrice _ wholesale

theorem moved (h : row.Capped) (now : Timestamp) (id : String) (delta : Int64) :
    (row.moved now id delta).Capped := by
  unfold ProductRow.moved
  split
  · exact ⟨h.sellingPrice, h.wholesalePrice⟩
  · exact h

end ProductRow.Capped

/-- The price of a line in form of capped products is not out of the words. -/
theorem CartLine.amountFits_of_capped {line : CartLine}
    (form : Validation.cartLine line = .ok ()) (capped : ∀ row ∈ s.products, row.Capped) :
    line.AmountFits s := by
  intro _ row found
  obtain ⟨-, few, -⟩ := Validation.cartLine_eq_ok_iff.1 form
  have row_capped := capped row (List.mem_of_find?_eq_some found)
  exact Validation.mul_le_of_quantity (row_capped.priceFor_le line.quantity) few

namespace History

/-- The prices of the catalog are those of the products that were added. -/
theorem capped {calls : List Call}
    (added : ∀ call ∈ calls, ∀ p, call.operation = .addProduct p → p.row.Capped) :
    ∀ row ∈ (of calls).store.products, row.Capped := by
  induction calls using List.reverseRecOn with
  | nil => exact List.forall_mem_nil _
  | append_singleton calls call ih =>
    rw [List.forall_mem_append] at added
    rw [of_append_singleton]
    exact (call.effect (of calls).store).forall_products
      (fun p op _ => added.2 call (List.mem_singleton.2 rfl) p op)
      (fun _ now id delta capped => capped.moved now id delta) (ih added.1)

/-- The total of a receipt that is committed has a sign.  The amounts of its lines can be told,
and there is an invoice for any buyer and rate, if the amounts at the prices of the catalog are
words.  This they are if no product was added at a price above the largest amount. -/
theorem invoice_iff_amounts_fit (calls : List Call) (call : Call) (request : CommitRequest)
    (c : Committed) (deliveries : List Delivery) (op : call.operation = .commit request)
    (done : (call.run (of calls).store).1 = .ok (.committed c deliveries)) :
    let s := (of calls).store
    (∃ m, c.receipt.signedTotal = .ok m) ∧
    ((∀ i ∈ c.items, ∃ m, i.lineTotal = .ok m) ↔ ∀ line ∈ request.items, line.AmountFits s) ∧
    (∀ sellerPin buyerPin rate,
      (∃ invoice, TaxInvoice.ofCommitted c sellerPin buyerPin rate = .ok invoice) ↔
        ∀ line ∈ request.items, line.AmountFits s) ∧
    ((∀ earlier ∈ calls, ∀ p, earlier.operation = .addProduct p → p.row.Capped) →
      ∀ line ∈ request.items, line.AmountFits s) := by
  intro s
  have booked := Call.booked_of_committed op done
  refine ⟨booked.exists_signedTotal, booked.exists_lineTotals_iff, fun sellerPin buyerPin rate =>
    TaxInvoice.exists_ofCommitted_iff.trans booked.exists_lineTotals_iff,
    fun added line hline => ?_⟩
  obtain ⟨-, cart, -⟩ := Validation.commit_eq_ok_iff.1 booked.form
  exact CartLine.amountFits_of_capped ((Validation.cart_eq_ok_iff.1 cart).2.2 line hline)
    (capped added)

/-- Two units are returned for cash, and there is a credit note. -/
theorem invoice_iff_amounts_fit_of_return :
    let back := { Day.purchase .cash 2 400 with isReturn := true }
    let call := Day.ask "r1" (.commit back)
    let s := (of Day.opening).store
    ∃ c, (call.run s).1 = .ok (.committed c []) ∧ c.receipt.isReturn = true ∧
      (∃ m, c.receipt.signedTotal = .ok m) ∧ (∀ i ∈ c.items, ∃ m, i.lineTotal = .ok m) ∧
      ∀ sellerPin buyerPin rate,
        ∃ invoice, TaxInvoice.ofCommitted c sellerPin buyerPin rate = .ok invoice := by
  intro back call s
  let receipt : Receipt :=
    ⟨⟨"r1", "POS-01-00001", Day.moment, none, "amina", some "otieno", 400, .completed, none,
      none, true, "POS-01"⟩, .cash⟩
  let line : SaleItem :=
    ⟨"r1", "r1", "sugar", "amina", "Sugar 1kg", 2, 200, true, none, Day.moment⟩
  have done : (call.run s).1 = .ok (.committed ⟨receipt, [line], []⟩ []) := by decide +kernel
  obtain ⟨signed, amounts, invoice, fits⟩ :=
    invoice_iff_amounts_fit Day.opening call back _ [] rfl done
  have added : ∀ earlier ∈ Day.opening, ∀ p, earlier.operation = .addProduct p →
      p.row.Capped := by
    intro earlier hearlier p op
    simp only [Day.opening, List.mem_cons, List.not_mem_nil, or_false] at hearlier
    rcases hearlier with rfl | rfl | rfl
    · nomatch op
    · obtain rfl := Operation.addProduct.inj op
      exact ⟨by decide, nofun⟩
    · nomatch op
  exact ⟨_, done, rfl, signed, amounts.2 (fits added),
    fun sellerPin buyerPin rate => (invoice sellerPin buyerPin rate).2 (fits added)⟩

/-- The catalog has the dearest sugar there can be.  Two units are sold, but the amount of the
line is out of the words, and there is no invoice. -/
theorem no_invoice_of_dear_product :
    let dear := { Day.sugar with sellingPrice := Int64.maxValue }
    let calls := Day.opening.set 1 (Day.ask "sugar" (.addProduct dear))
    let call := Day.ask "r1" (.commit (Day.purchase .cash 2 400))
    let receipt : Receipt :=
      ⟨⟨"r1", "POS-01-00001", Day.moment, none, "amina", some "otieno", 400, .completed, none,
        none, false, "POS-01"⟩, .cash⟩
    let line : SaleItem :=
      ⟨"r1", "r1", "sugar", "amina", "Sugar 1kg", 2, Int64.maxValue, false, none, Day.moment⟩
    (call.run (of calls).store).1 = .ok (.committed ⟨receipt, [line], []⟩ []) ∧
      line.lineTotal = .error .multiplying ∧
      TaxInvoice.ofCommitted ⟨receipt, [line], []⟩ "P051" none .standard =
        .error .multiplying := by
  decide +kernel

end History

end Tillbook
