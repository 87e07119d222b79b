import Tillbook.Proofs.CommitChecks
import Tillbook.Proofs.Numbering
import Tillbook.Proofs.Shifts

/-!
# When a commit succeeds

Once the checks are passed, only the name under which the gateway confirms a payment can be
in the way: the number and the identities of a receipt are new, its rows keep the rules of
the tables, and no stock comes near the ends of its range.

## Main definitions

* `Stamp.Fresh` — the identities were never given out before.
* `Store.Moderate` — no stored number is anywhere near the ends of its range.
* `Commit.Listed` — the tables take the lines from some place on.
* `Commit.Slack` — the stocks have room for some more lines.
* `Commit.Checked` — what the checks before the writing found.
* `Commit.Allowed` — nothing stands in the way of a request.

## Main statements

* `Commit.Listed.step`, `Commit.Slack.step`, `Commit.exists_run_writeItems` — each line can be
  written, and so all.
* `Commit.answers_run` — a commit answers with the first fault.
* `Commit.fault?_eq_none_iff` — without one the request is allowed.
* `History.commit_iff_allowed` — the commits of every run.
-/

namespace Tillbook

/-- The identities that an operation was given are new in the store. -/
structure Stamp.Fresh (stamp : Stamp) (s : Store) : Prop where
  id : ∀ row ∈ s.receipts, row.id ≠ stamp.id
  itemId : ∀ item ∈ s.items, ∀ position, item.id ≠ stamp.itemId position
  tenderId : ∀ t ∈ s.tenders, ∀ position, t.id ≠ stamp.tenderId position
  itemsApart : Function.Injective stamp.itemId
  tendersApart : Function.Injective stamp.tenderId

/-- No stock, balance or counter is anywhere near the ends of its range. -/
structure Store.Moderate (s : Store) : Prop where
  stocks : ∀ row ∈ s.products, row.stock.value.natAbs < 2 ^ 62
  balances : ∀ row ∈ s.customers, row.balance.value.natAbs < 2 ^ 62
  counters : ∀ c ∈ s.counters, c.last.value.natAbs < 2 ^ 62

namespace Store.Moderate

variable {s : Store}

theorem exists_stock (h : s.Moderate) (products : s.SoundProducts) :
    ∀ row ∈ s.products, ∃ w, row.stock = .exact w ∧ w.toInt.natAbs < 2 ^ 62 := by
  intro row hrow
  have small := h.stocks row hrow
  obtain ⟨w, hw⟩ := (products row hrow).stock.exact_of_lt small
  exact ⟨w, hw, by simpa [hw] using small⟩

theorem exists_balance (h : s.Moderate) (sound : s.Sound) :
    ∀ row ∈ s.customers, ∃ w, row.balance = .exact w ∧ w.toInt.natAbs < 2 ^ 62 := by
  intro row hrow
  obtain ⟨w, hw⟩ := (sound.accounts row hrow).balance
  exact ⟨w, hw, by simpa [hw] using h.balances row hrow⟩

/-- Every station has a next number. -/
theorem exists_number (h : s.Moderate) (numbered : s.Numbered) (station : String) :
    ∃ n, (s.lastNumber station).add 1 = .exact n := by
  have small : ∀ c ∈ s.counters, c.last.value < 2 ^ 62 := by
    intro c hc
    have bound := h.counters c hc
    omega
  exact numbered.exists_next ((Store.lastNumber_lt (by decide) small station).trans (by decide))

end Store.Moderate

/-- No receipt has the next number of a station. -/
theorem Store.Numbered.number_ne {s : Store} (numbered : s.Numbered) {station : String} {n : Int64}
    (next : (s.lastNumber station).add 1 = .exact n) :
    ∀ row ∈ s.receipts, row.number ≠ ReceiptNumber.format station n := by
  intro row hrow same
  obtain ⟨m, number, nonnegative, most⟩ := numbered.receipts row hrow
  obtain ⟨last, hlast, last_nonneg⟩ := numbered.counters station
  rw [hlast, Tally.add_exact_eq_exact_iff, Int64.toInt_one] at next
  have both := ReceiptNumber.format_inj nonnegative (by omega) (number.symm.trans same)
  rw [both.1, both.2, hlast, Tally.value_exact] at most
  omega

namespace Commit

variable {acc : Access} {s t : Store} {request : CommitRequest} {stamp : Stamp}

/-! ## The receipt -/

theorem checkoutFault?_eq_none_iff :
    checkoutFault? request s = none ↔
      ∀ id, request.checkoutId = some id → ∀ row ∈ s.receipts, row.checkoutId ≠ some id := by
  unfold checkoutFault?
  cases request.checkoutId with
  | none => simp
  | some id => simp [List.any_eq_true]

/-- With new identities the table takes the tenders of the receipt: it has none of this receipt
yet, since every tender in it belongs to a receipt in the store. -/
theorem allFit_of_fresh (form : Validation.commit request = .ok ()) (sound : s.Sound)
    (fresh : stamp.Fresh s) (station number : String) :
    let r := receiptOf request stamp station number
    TenderRow.AllFit (r.tenderRows stamp.tenderId)
      { s with receipts := s.receipts ++ [r.row] } := by
  intro r
  obtain ⟨-, -, total, payment, -⟩ := Validation.commit_eq_ok_iff.1 form
  rw [Validation.amount_eq_ok_iff] at total
  refine allFit_tenderRows (fun t ht => ?_) ⟨r.row, List.mem_append_right _ List.mem_cons_self, rfl⟩
    (fun t ht own => ?_) fresh.tenderId fresh.tendersApart
  · exact Int64.le_iff_toInt_le.2 (Payment.tenders_nonneg payment total.1 t ht)
  · obtain ⟨row, hrow, same⟩ := List.mem_map.1 (sound.tenders t ht)
    exact fresh.id row hrow (same.trans own)

theorem answers_insert {station number : String} (writable : acc.Writable)
    (form : Validation.commit request = .ok ()) :
    let r := receiptOf request stamp station number
    (checkoutFault? request s = none → r.Fits s) →
      TenderRow.AllFit (r.tenderRows stamp.tenderId)
        { s with receipts := s.receipts ++ [r.row] } →
      (Receipts.insert r stamp.tenderId).Answers acc s (checkoutFault? request s) := by
  intro r fits tenders
  obtain ⟨-, -, total, -⟩ := Validation.commit_eq_ok_iff.1 form
  rw [Validation.amount_eq_ok_iff] at total
  cases fault : checkoutFault? request s with
  | none =>
    have run : (Receipts.insert r stamp.tenderId).run acc s = (.ok (), _) :=
      Receipts.run_insert_eq_ok_iff.2 ⟨writable, fits fault, tenders, rfl⟩
    exact ⟨(), congrArg Prod.fst run⟩
  | some e =>
    obtain ⟨id, named, taken⟩ := Option.bind_eq_some_iff.1 fault
    split at taken
    · next listed =>
      obtain rfl := Option.some.inj taken
      have nonnegative : ¬request.total < 0 := by
        rw [Int64.not_lt, Int64.le_iff_toInt_le]
        exact total.1
      have given : request.checkoutId.isSome ∧
          s.receipts.any (·.checkoutId == request.checkoutId) = true := by
        rw [named]
        exact ⟨rfl, listed⟩
      have broken : Receipts.addHead r s = .error (.taken "receipts.checkout_request_id") :=
        (if_neg nonnegative).trans (if_pos given)
      have none_added : (do return ((), ← Receipts.addHead r s) :
          Except StoreError (Unit × Store)) = .error (.taken "receipts.checkout_request_id") := by
        rw [broken]
        rfl
      exact congrArg Prod.fst
        (Action.run_bind_of_error (Action.run_put_of_error writable none_added))
    · nomatch taken

/-! ## The lines -/

/-- The line of a request at a place, with a quantity and a price in form. -/
structure LineAt (request : CommitRequest) (stamp : Stamp) (position : Nat) (i : SaleItem) :
    Prop where
  id : i.id = stamp.itemId position
  receiptId : i.receiptId = stamp.id
  staffId : i.staffId = request.staffId
  quantity : 0 < i.quantity.toInt ∧ i.quantity.toInt ≤ Validation.maxQuantity.toInt
  unitPrice : 0 ≤ i.unitPrice

/-- A line in form of the cart and a sound product make a line of the receipt in form. -/
theorem lineAt_itemOf {position : Nat} {line : CartLine} {row : ProductRow}
    (form : Validation.cartLine line = .ok ()) (sound : row.Sound) :
    LineAt request stamp position (itemOf request stamp position line row.toProductCard) := by
  obtain ⟨-, quantity, price⟩ := Validation.cartLine_eq_ok_iff.1 form
  refine ⟨rfl, rfl, rfl, Validation.quantity_eq_ok_iff.1 quantity, ?_⟩
  change 0 ≤ line.unitPrice.getD (row.toProductCard.priceFor line.quantity)
  cases agreed : line.unitPrice with
  | none => exact sound.priceFor_nonneg line.quantity
  | some amount =>
    exact Int64.le_iff_toInt_le.2 (Validation.amount_eq_ok_iff.1 (price amount agreed)).1

/-- The tables take the lines of a receipt from a place on, whatever becomes of the stocks. -/
structure Listed (request : CommitRequest) (stamp : Stamp) (t : Store) (position : Nat) : Prop where
  receipt : ∃ row ∈ t.receipts, row.id = stamp.id
  staff : (t.staffMember? request.staffId).isSome
  items : ∀ item ∈ t.items, ∀ j, position ≤ j → item.id ≠ stamp.itemId j

namespace Listed

variable {position : Nat} {i : SaleItem} {row : ProductRow}

theorem fits (h : Listed request stamp t position) (line : LineAt request stamp position i)
    (found : t.product? i.productId = some row) : i.Fits t where
  quantity := Int64.lt_iff_toInt_lt.2 line.quantity.1
  unitPrice := line.unitPrice
  id := fun item hitem => line.id ▸ h.items item hitem position (Nat.le_refl _)
  receipt := line.receiptId ▸ h.receipt
  product := by rw [found]; rfl
  staff := line.staffId ▸ h.staff

/-- After a line is written and a stock has moved, the tables take the rest. -/
theorem step (h : Listed request stamp t position) (apart : Function.Injective stamp.itemId)
    (line : LineAt request stamp position i) (now : Timestamp) (id : String) (delta : Int64) :
    Listed request stamp (Catalog.moveStock now id delta { t with items := t.items ++ [i] })
      (position + 1) where
  receipt := h.receipt
  staff := h.staff
  items := by
    intro item hitem j later
    rcases List.mem_append.1 hitem with before | new
    · exact h.items item before j (by omega)
    · rw [List.mem_singleton.1 new, line.id]
      intro same
      have here := apart same
      omega

end Listed

/-- All lines can be written, one after another, if some `Room` for those that are left lets the
stock of each move within the words, and is there for the rest after the move. -/
theorem exists_run_writeItems (Room : List SaleItem → Store → Prop) {now : Timestamp}
    (move : ∀ {position i rest t row}, LineAt request stamp position i → i.Fits t →
      t.product? i.productId = some row → Room (i :: rest) t →
      ∃ sum, row.stock.add (Int64.ofInt i.units) = .exact sum ∧ Room rest
        (Catalog.moveStock now i.productId (Int64.ofInt i.units)
          { t with items := t.items ++ [i] }))
    (writable : acc.Writable) (apart : Function.Injective stamp.itemId)
    (products : s.SoundProducts) {position : Nat} {lines : List CartLine} {items : List SaleItem}
    (priced : Priced request stamp s position lines items)
    (form : ∀ line ∈ lines, Validation.cartLine line = .ok ())
    (listed : Listed request stamp t position) (room : Room items t)
    (known : ∀ id, (s.product? id).isSome → (t.product? id).isSome)
    (report : List OversoldProduct) :
    ∃ report' t', (writeItems now report items).run acc t = (.ok report', t') := by
  induction priced generalizing t report with
  | nil => exact ⟨report, t, rfl⟩
  | @cons position line lines items row w found stock rest ih =>
    rw [List.forall_mem_cons] at form
    have at_place : LineAt request stamp position _ :=
      lineAt_itemOf form.1 (products row (List.mem_of_find?_eq_some found))
    have own : row.id = line.productId := Store.id_of_product? found
    obtain ⟨there, hthere⟩ : ∃ there, t.product? row.id = some there :=
      Option.isSome_iff_exists.1 (known row.id (by rw [own, found]; rfl))
    have fits := listed.fits at_place hthere
    obtain ⟨sum, added, left⟩ := move at_place fits hthere room
    have next := listed.step apart at_place now row.id
      (Int64.ofInt (itemOf request stamp position line row.toProductCard).units)
    obtain ⟨report', t', later⟩ := ih form.2 next left (fun id hid => by
      rw [Catalog.product?_moveStock, Option.isSome_map]
      exact known id hid) (noteOversold report row.id sum)
    refine ⟨report', t', ?_⟩
    simp only [writeItems, Action.run_bind_eq_ok_iff, Receipts.run_insertItem_eq_ok_iff,
      Action.run_ofOverflow_eq_ok_iff, Catalog.run_adjust_eq_ok_iff]
    exact ⟨(), _, ⟨writable, fits, rfl⟩, _, _,
      ⟨SaleItem.stockDelta_eq_ok_iff.2 fits.toInt_units, rfl⟩, sum, _,
      ⟨writable, there, hthere, added, rfl⟩, later⟩

/-- Every stock is far enough from the ends of its range for some more lines. -/
def Slack (lines : Nat) (t : Store) : Prop :=
  ∀ id row, t.product? id = some row →
    ∃ w, row.stock = .exact w ∧ w.toInt.natAbs + 999 * lines < 2 ^ 63

/-- After a line there is slack for one line less. -/
theorem Slack.step {position lines : Nat} {i : SaleItem} {row : ProductRow}
    (h : Slack (lines + 1) t) (line : LineAt request stamp position i) (fits : i.Fits t)
    (found : t.product? i.productId = some row) (now : Timestamp) :
    ∃ sum, row.stock.add (Int64.ofInt i.units) = .exact sum ∧ Slack lines
      (Catalog.moveStock now i.productId (Int64.ofInt i.units)
        { t with items := t.items ++ [i] }) := by
  have units := fits.toInt_units
  have small : i.units.natAbs ≤ 999 := by
    have most : Validation.maxQuantity.toInt = 999 := by decide
    have bounds := line.quantity
    unfold SaleItem.units
    split <;> omega
  have moved : ∀ w : Int64, w.toInt.natAbs + 999 * (lines + 1) < 2 ^ 63 →
      ∃ sum : Int64, (Tally.exact w).add (Int64.ofInt i.units) = .exact sum ∧
        sum.toInt.natAbs + 999 * lines < 2 ^ 63 := by
    intro w within
    obtain ⟨sum, hsum⟩ : ∃ sum : Int64, sum.toInt = w.toInt + i.units := by
      apply Word.exists_toInt_eq
      · rw [Int64.toInt_minValue]
        omega
      · rw [Int64.toInt_maxValue]
        omega
    exact ⟨sum, Tally.add_exact (by rw [hsum, units]), by omega⟩
  obtain ⟨w, stock, within⟩ := h i.productId row found
  obtain ⟨sum, added, -⟩ := moved w within
  refine ⟨sum, by rw [stock, added], ?_⟩
  intro id row' found'
  rw [Catalog.product?_moveStock] at found'
  obtain ⟨before, hbefore, rfl⟩ := Option.map_eq_some_iff.1 found'
  obtain ⟨w', stock', within'⟩ := h id before hbefore
  unfold ProductRow.moved
  split
  · obtain ⟨sum', added', within⟩ := moved w' within'
    exact ⟨sum', by rw [stock', added'], within⟩
  · exact ⟨w', stock', by omega⟩

/-! ## The balance -/

/-- What was found within the limit can be booked. -/
theorem exists_run_applyCredit (writable : acc.Writable) {move : Option CreditMove}
    (billed : Billed request s move) (same : t.customers = s.customers) (now : Timestamp) :
    ∃ t', (applyCreditOr overLimit now move).run acc t = (.ok (), t') := by
  cases billed with
  | unnamed | nothing => exact ⟨t, rfl⟩
  | @something id row w delta sum named found balance portion move limit =>
    have own : row.id = id := Store.id_of_customer? found
    obtain ⟨total, within⟩ := Credit.checkLimit_eq_ok_iff.1 limit
    rw [Int64.lt_iff_toInt_lt (y := sum)] at within
    have found' : t.customer? row.id = some row := by
      rw [own, Store.customer?, same]
      exact found
    have exact : row.balance.add delta = .exact sum := by
      rw [balance]
      exact Tally.add_exact total
    have moved : (Accounts.moveBalance now row.id delta).run acc t = (.ok (some sum), _) :=
      Accounts.run_moveBalance_eq_ok_iff.2 ⟨writable, row, found', exact, within, rfl⟩
    exact ⟨_, Action.run_bind_of_ok moved⟩

/-! ## The whole commit -/

theorem answers_form :
    (Action.ofRefusal (Validation.commit request)).Answers acc s (formFault? request) := by
  unfold formFault?
  cases Validation.commit request with
  | ok _ => exact Action.answers_pure _
  | error why => exact Action.answers_refuse why

/-- A request that has passed the checks, with what is billed for it. -/
structure Checked (request : CommitRequest) (s : Store) (move : Option CreditMove) : Prop where
  form : Validation.commit request = .ok ()
  staff : ∃ member, s.staffMember? request.staffId = some member ∧ member.isActive = true
  shift : ∀ id, request.shiftId = some id → ∃ shift, s.shift? id = some shift ∧ shift.isOpen = true
  billed : Billed request s move

namespace Checked

variable {station : String} {n : Int64} {move : Option CreditMove} {items : List SaleItem}

/-- The table of receipts takes the receipt, unless the name is taken under which the gateway
should confirm it. -/
theorem fits (h : Checked request s move) (fresh : stamp.Fresh s) (numbered : s.Numbered)
    (next : (s.lastNumber station).add 1 = .exact n) (free : checkoutFault? request s = none) :
    (receiptOf request stamp station (ReceiptNumber.format station n)).Fits s where
  total := by
    have total := (Validation.commit_eq_ok_iff.1 h.form).2.2.1
    exact Int64.le_iff_toInt_le.2 (Validation.amount_eq_ok_iff.1 total).1
  checkout := checkoutFault?_eq_none_iff.1 free
  number := numbered.number_ne next
  id := fresh.id
  shift := fun id named => by
    obtain ⟨shift, found, -⟩ := h.shift id named
    exact Option.isSome_of_mem found
  staff := by
    obtain ⟨member, found, -⟩ := h.staff
    exact Option.isSome_of_mem found
  customer := fun id named => by
    change request.customerId = some id at named
    cases h.billed with
    | unnamed none => rw [none] at named; nomatch named
    | nothing named' found | something named' found =>
      obtain rfl := Option.some.inj (named.symm.trans named')
      exact Option.isSome_of_mem found

/-- Once the receipt is in, the tables take its lines. -/
theorem listed (h : Checked request s move) (fresh : stamp.Fresh s) (station number : String) :
    Listed request stamp
      (withReceipt station stamp.tenderId (receiptOf request stamp station number) s) 0 where
  receipt := ⟨_, List.mem_append_right _ List.mem_cons_self, rfl⟩
  staff := by
    obtain ⟨member, found, -⟩ := h.staff
    exact Option.isSome_of_mem found
  items := fun item hitem j _ => fresh.itemId item hitem j

/-- After the checks a commit answers as the table of receipts does, if all of its lines can be
written. -/
theorem answers_record (h : Checked request s move) (writable : acc.Writable) (sound : s.Sound)
    (numbered : s.Numbered) (fresh : stamp.Fresh s)
    (next : (s.lastNumber station).add 1 = .exact n)
    (writing : ∃ oversold t, (writeItems stamp.now [] items).run acc
      (withReceipt station stamp.tenderId
        (receiptOf request stamp station (ReceiptNumber.format station n)) s) =
        (.ok oversold, t)) :
    (recordOr overLimit station stamp request move items).Answers acc (Counters.ensured station s)
      (checkoutFault? request s) := by
  have numbering : (Counters.nextReceiptNumber station).run acc (Counters.ensured station s) =
      (.ok (ReceiptNumber.format station n), _) :=
    Counters.run_nextReceiptNumber_eq_ok_iff.2
      ⟨writable, n, by rw [Counters.lastNumber_ensured]; exact next, rfl, rfl⟩
  refine .bind_of_ok numbering ?_
  rw [Counters.issued_ensured, Counters.issued_eq]
  have inserting : (Receipts.insert
      (receiptOf request stamp station (ReceiptNumber.format station n)) stamp.tenderId).Answers acc
        { s with counters := (Counters.issued station s).counters } (checkoutFault? request s) :=
    answers_insert writable h.form
      (fun free => (h.fits fresh numbered next free).of_counters _)
      ((allFit_of_fresh h.form sound fresh ..).of_counters _)
  refine inserting.bind_none fun _ t inserted => ?_
  obtain ⟨-, -, -, rfl⟩ := Receipts.run_insert_eq_ok_iff.1 inserted
  obtain ⟨oversold, t, writing⟩ := writing
  refine .bind_of_ok writing ?_
  have kept : t.customers = s.customers := by
    rw [(written_of_run_writeItems writing).store_eq]
    rfl
  obtain ⟨t', booking⟩ := exists_run_applyCredit writable h.billed kept stamp.now
  exact .bind_of_ok booking (Action.answers_pure _)

/-- With moderate numbers all lines can be written, and only the name can be in the way under which
the gateway should confirm the payment. -/
theorem answers_record_of_moderate (h : Checked request s move) (writable : acc.Writable)
    (sound : s.Sound) (products : s.SoundProducts) (numbered : s.Numbered) (moderate : s.Moderate)
    (fresh : stamp.Fresh s) (priced : Priced request stamp s 0 request.items items) :
    (recordOr overLimit station stamp request move items).Answers acc (Counters.ensured station s)
      (checkoutFault? request s) := by
  obtain ⟨n, next⟩ := moderate.exists_number numbered station
  obtain ⟨-, short, form⟩ :=
    Validation.cart_eq_ok_iff.1 (Validation.commit_eq_ok_iff.1 h.form).2.1
  have slack : Slack items.length (withReceipt station stamp.tenderId
      (receiptOf request stamp station (ReceiptNumber.format station n)) s) := by
    intro id row found
    obtain ⟨w, hw, small⟩ := moderate.exists_stock products row (List.mem_of_find?_eq_some found)
    have length := priced.length_eq
    unfold Validation.maxCartItems at short
    exact ⟨w, hw, by omega⟩
  exact h.answers_record writable sound numbered fresh next
    (exists_run_writeItems (fun items t => Slack items.length t)
      (fun line fits found slack => slack.step line fits found stamp.now) writable
      fresh.itemsApart products priced form (h.listed fresh station _) slack (fun _ known => known)
      [])

end Checked

/-- A commit answers with the first fault, and succeeds without one. -/
theorem answers_run (writable : acc.Writable) (sound : s.Sound) (products : s.SoundProducts)
    (numbered : s.Numbered) (moderate : s.Moderate) (fresh : stamp.Fresh s) (station : String) :
    (run station stamp request).Answers acc s (fault? request s) := by
  refine answers_form.bind fun _ _ checked => ?_
  obtain ⟨form, rfl⟩ := Action.run_ofRefusal_eq_ok_iff.1 checked
  refine Action.Answers.atomically ?_
  generalize request.originStation.getD station = name
  refine .bind_of_ok (Action.run_put_eq_ok_iff.2 ⟨writable, rfl⟩) ?_
  -- The counter that is made first is seen by none of the checks.
  rw [Counters.ensured_eq]
  refine (answers_checkStaff writable.1).bind fun _ _ checked => ?_
  obtain ⟨-, rfl, staff⟩ := run_checkStaff_eq_ok_iff.1 checked
  refine (answers_checkShift writable.1).bind fun _ _ checked => ?_
  obtain ⟨rfl, shift⟩ := shift_of_run_checkShift checked
  have credit := answers_checkCredit
    (s := { s with counters := (Counters.ensured name s).counters }) writable.1
    (moderate.exists_balance sound) form
  rw [← Option.or_assoc]
  refine credit.bind fun move _ checked => ?_
  obtain ⟨rfl, billed⟩ := billed_of_run_checkCredit checked
  replace billed : Billed request s move := billed.of_customer? fun _ => rfl
  have stocks : ∀ row ∈ s.products, ∃ w, row.stock = .exact w := fun row hrow => by
    obtain ⟨w, hw, -⟩ := moderate.exists_stock products row hrow
    exact ⟨w, hw⟩
  have prices : (priceAll request stamp 0 request.items).Answers acc
      { s with counters := (Counters.ensured name s).counters } (productFault? request.items s) :=
    answers_priceAll (s := { s with counters := (Counters.ensured name s).counters })
      writable.1 stocks stamp 0 request.items
  refine prices.bind fun items _ checked => ?_
  obtain ⟨rfl, priced⟩ := priced_of_run_priceAll checked
  replace priced : Priced request stamp s 0 request.items items := priced.of_product? fun _ => rfl
  rw [← Counters.ensured_eq]
  exact Checked.answers_record_of_moderate ⟨form, staff, shift, billed⟩ writable sound products
    numbered moderate fresh priced

/-- A call that hands in a request is answered as the commit is: telling the sinks adds no
fault. -/
theorem answers_action {call : Call} {fault : Option LedgerError}
    (op : call.operation = .commit request)
    (sold : (run call.ledger.station call.stamp request).Answers call.access s fault) :
    (call.operation.action call.ledger call.stamp).Answers call.access s fault := by
  rw [op]
  exact (sold.bind_none fun _ _ _ => Action.answers_pure _).bind_none fun _ _ _ =>
    Action.answers_pure _

/-- Nothing stands in the way of a request. -/
structure Allowed (request : CommitRequest) (s : Store) : Prop where
  form : Validation.commit request = .ok ()
  staff : ∃ member, s.staffMember? request.staffId = some member ∧ member.isActive = true
  shift : ∀ id, request.shiftId = some id → ∃ shift, s.shift? id = some shift ∧ shift.isOpen = true
  customer : ∀ id, request.customerId = some id → ∃ row, s.customer? id = some row ∧
    (request.isReturn = false → 0 < (request.payment.creditPortion request.total).toInt →
      row.balance.value + (request.payment.creditPortion request.total).toInt ≤
        row.debtLimit.toInt)
  products : ∀ line ∈ request.items, (s.product? line.productId).isSome
  checkout : ∀ id, request.checkoutId = some id → ∀ row ∈ s.receipts, row.checkoutId ≠ some id

theorem formFault?_eq_none_iff :
    formFault? request = none ↔ Validation.commit request = .ok () := by
  unfold formFault?
  cases Validation.commit request <;> simp

theorem staffFault?_eq_none_iff :
    staffFault? request s = none ↔
      ∃ member, s.staffMember? request.staffId = some member ∧ member.isActive = true := by
  unfold staffFault?
  cases s.staffMember? request.staffId <;> simp

theorem shiftFault?_eq_none_iff :
    shiftFault? request s = none ↔ ∀ id, request.shiftId = some id →
      ∃ shift, s.shift? id = some shift ∧ shift.isOpen = true := by
  unfold shiftFault?
  cases request.shiftId with
  | none => simp
  | some id => cases found : s.shift? id <;> simp [found]

theorem credit_eq_none_iff (sound : s.Sound) :
    customerFault? request s = none ∧ limitFault? request s = none ↔
      ∀ id, request.customerId = some id → ∃ row, s.customer? id = some row ∧
        (request.isReturn = false → 0 < (request.payment.creditPortion request.total).toInt →
          row.balance.value + (request.payment.creditPortion request.total).toInt ≤
            row.debtLimit.toInt) := by
  unfold customerFault? limitFault?
  cases request.customerId with
  | none => simp
  | some id =>
    cases found : s.customer? id with
    | none => simp [found]
    | some row =>
      obtain ⟨w, hw⟩ := (sound.accounts row (List.mem_of_find?_eq_some found)).balance
      simp [found, hw, Int64.lt_iff_toInt_lt]

theorem productFault?_eq_none_iff {lines : List CartLine} :
    productFault? lines s = none ↔ ∀ line ∈ lines, (s.product? line.productId).isSome := by
  simp [productFault?, Option.isSome_iff_ne_none]

/-- A request without a fault is allowed. -/
theorem fault?_eq_none_iff (sound : s.Sound) : fault? request s = none ↔ Allowed request s := by
  simp only [fault?, Option.or_eq_none_iff, formFault?_eq_none_iff, staffFault?_eq_none_iff,
    shiftFault?_eq_none_iff, productFault?_eq_none_iff, checkoutFault?_eq_none_iff]
  rw [← and_assoc (b := limitFault? request s = none), credit_eq_none_iff sound]
  constructor
  · rintro ⟨form, staff, shift, customer, products, checkout⟩
    exact ⟨form, staff, shift, customer, products, checkout⟩
  · rintro ⟨form, staff, shift, customer, products, checkout⟩
    exact ⟨form, staff, shift, customer, products, checkout⟩

end Commit

namespace Day

theorem marked_injective (name : String) (mark : Char) :
    Function.Injective (marked name mark) := by
  intro i j same
  have marks := List.append_cancel_left (String.ofList_inj.1 same)
  simpa using congrArg List.length marks

/-- What belongs to a name of two letters begins with them. -/
theorem take_marked {name : String} (two : name.toList.length = 2) (mark : Char) (n : Nat) :
    (marked name mark n).toList.take 2 = name.toList := by
  rw [marked, String.toList_ofList, ← two, List.take_left]

/-- A name of two letters that begins no identity in the store is new there. -/
theorem fresh {id : String} (two : id.toList.length = 2)
    (receipts : ∀ row ∈ (History.of shift).store.receipts, row.id ≠ id)
    (items : ∀ item ∈ (History.of shift).store.items, item.id.toList.take 2 ≠ id.toList)
    (tenders : ∀ t ∈ (History.of shift).store.tenders, t.id.toList.take 2 ≠ id.toList)
    (operation : Operation) : (ask id operation).stamp.Fresh (History.of shift).store where
  id := receipts
  itemId := fun item hitem position same =>
    items item hitem (same ▸ take_marked two '+' position)
  tenderId := fun t ht position same => tenders t ht (same ▸ take_marked two '#' position)
  itemsApart := marked_injective id '+'
  tendersApart := marked_injective id '#'

end Day

namespace History

/-- A call that hands in a request is answered with its first fault. -/
theorem answers_of_commit {calls : List Call} {call : Call} {request : CommitRequest}
    (op : call.operation = .commit request) (writable : call.access.Writable)
    (fresh : call.stamp.Fresh (of calls).store) (moderate : (of calls).store.Moderate) :
    (call.operation.action call.ledger call.stamp).Answers call.access (of calls).store
      (Commit.fault? request (of calls).store) :=
  Commit.answers_action op <| Commit.answers_run writable (sound calls) (soundProducts calls)
    (numbered calls) moderate fresh _

/-- With moderate numbers in the store and new identities, and with no one else writing, a
commit succeeds just if the request is allowed.  Otherwise it fails with the first fault of
the request, and with nothing else. -/
theorem commit_iff_allowed (calls : List Call) (call : Call) (request : CommitRequest)
    (op : call.operation = .commit request) (writable : call.access.Writable)
    (fresh : call.stamp.Fresh (of calls).store) (moderate : (of calls).store.Moderate) :
    ((∃ c deliveries, (call.run (of calls).store).1 = .ok (.committed c deliveries)) ↔
      Commit.Allowed request (of calls).store) ∧
    ∀ e, (call.run (of calls).store).1 = .error e ↔
      Commit.fault? request (of calls).store = some e := by
  have effect := call.effect (of calls).store
  have answers := answers_of_commit op writable fresh moderate
  refine ⟨?_, answers.error_iff⟩
  rw [← Commit.fault?_eq_none_iff (sound calls)]
  constructor
  · rintro ⟨c, deliveries, done⟩
    rw [Option.eq_none_iff_forall_not_mem]
    intro e fault
    have failed := (answers.error_iff e).2 fault
    exact nomatch done.symm.trans failed
  · intro faultless
    rw [faultless] at answers
    obtain ⟨reply, done⟩ := answers
    change (call.run (of calls).store).1 = .ok reply at done
    rw [done] at effect
    obtain ⟨c, rfl, -⟩ := effect.booked_of_commit_ok op
    exact ⟨c, _, done⟩

/-- With 300 on the account and a limit of 1000, another 800 is too much and the answer says
so.  For cash the sale goes through. -/
theorem commit_iff_allowed_of_day :
    let s := (of Day.shift).store
    let billed := Day.ask "r5" (.commit (Day.shiftPurchase .credit 4 800))
    let paid := Day.ask "r5" (.commit (Day.shiftPurchase .cash 1 200))
    s.Moderate ∧ billed.stamp.Fresh s ∧ billed.access.Writable ∧
      (billed.run s).1 = .error (.refused (.debtLimitExceeded "otieno" 300 800 1000)) ∧
      ∃ c deliveries, (paid.run s).1 = .ok (.committed c deliveries) := by
  intro s billed paid
  have moderate : s.Moderate := ⟨by decide +kernel, by decide +kernel, by decide +kernel⟩
  have fresh : billed.stamp.Fresh s :=
    Day.fresh (by decide) (by decide +kernel) (by decide +kernel) (by decide +kernel) _
  have writable : billed.access.Writable := by decide
  refine ⟨moderate, fresh, writable, ?_, ?_⟩
  · refine ((commit_iff_allowed Day.shift billed _ rfl writable fresh moderate).2 _).2 ?_
    decide +kernel
  · refine (commit_iff_allowed Day.shift paid _ rfl writable fresh moderate).1.2 ?_
    refine (Commit.fault?_eq_none_iff (sound Day.shift)).1 ?_
    decide +kernel

end History

end Tillbook
