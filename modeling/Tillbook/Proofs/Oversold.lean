import Tillbook.Proofs.Histories

/-!
# Sold beyond the stock

A commit moves the stock line by line, and after each line it notes the stock of the product
if that is below zero.  A sale only lowers a stock, so its last note tells the stock that is
left.  A return raises it: a stock that comes up to zero again, or above, is noted no more, but
the last note of it stays in the report.

## Main definitions

* `lastBelow` — the last value below zero on the way through some moves.
* `SaleItem.movesOf` — the moves of the stock of a product by some lines.

## Main statements

* `lastBelow_of_sum_neg`, `sum_neg_of_lastBelow` — when that value is the one at the end.
* `Commit.Written.find?_report` — the report tells that value of each product.
* `Commit.Booked.mem_oversold_of_neg`, `Commit.Booked.left_of_oversold` — the report and the
  stocks that are left.
* `History.oversold_reported` — the reports of every run.
* `History.oversold_of_return` — a return reports a product of which there is enough.
-/

namespace Tillbook

/-! ## Values on the way -/

/-- The last value below zero that a stock takes on its way through some moves. -/
def lastBelow (stock : Int) : List Int → Option Int
  | [] => none
  | move :: rest =>
    (lastBelow (stock + move) rest).or (if stock + move < 0 then some (stock + move) else none)

/-- A stock that ends below zero ends with its last value below zero. -/
theorem lastBelow_of_sum_neg {stock : Int} {moves : List Int} (moved : moves ≠ [])
    (below : stock + moves.sum < 0) : lastBelow stock moves = some (stock + moves.sum) := by
  induction moves generalizing stock with
  | nil => exact absurd rfl moved
  | cons move rest ih =>
    rw [List.sum_cons] at below ⊢
    by_cases last : rest = []
    · subst last
      simp only [List.sum_nil, Int.add_zero] at below ⊢
      simp [lastBelow, below]
    · rw [lastBelow, ih last (by omega), Option.some_or, Int.add_assoc]

theorem sum_nonpos_of_forall {moves : List Int} (falls : ∀ move ∈ moves, move ≤ 0) :
    moves.sum ≤ 0 := by
  induction moves with
  | nil => exact Int.le_refl 0
  | cons move rest ih =>
    rw [List.forall_mem_cons] at falls
    have lower := ih falls.2
    rw [List.sum_cons]
    omega

/-- A stock that only falls stays below zero once it is there. -/
theorem sum_neg_of_lastBelow {stock v : Int} {moves : List Int} (falls : ∀ move ∈ moves, move ≤ 0)
    (h : lastBelow stock moves = some v) : v = stock + moves.sum ∧ v < 0 := by
  induction moves generalizing stock v with
  | nil => nomatch h
  | cons move rest ih =>
    rw [List.forall_mem_cons] at falls
    rw [lastBelow] at h
    rw [List.sum_cons]
    cases later : lastBelow (stock + move) rest with
    | some u =>
      rw [later, Option.some_or, Option.some.injEq] at h
      obtain ⟨sum, below⟩ := ih falls.2 later
      omega
    | none =>
      rw [later, Option.none_or] at h
      split at h
      · next below =>
        -- Had there been another line, the stock would have been noted again.
        have last : rest = [] := by
          by_contra more
          have lower := sum_nonpos_of_forall falls.2
          rw [lastBelow_of_sum_neg more (by omega)] at later
          nomatch later
        rw [last, List.sum_nil, ← Option.some.inj h]
        omega
      · nomatch h

/-- The moves of the stock of a product by some lines, one by one. -/
def SaleItem.movesOf (items : List SaleItem) (productId : String) : List Int :=
  (items.filter (·.productId == productId)).map units

namespace SaleItem

theorem movesOf_cons (i : SaleItem) (rest : List SaleItem) (productId : String) :
    movesOf (i :: rest) productId =
      if i.productId = productId then i.units :: movesOf rest productId
      else movesOf rest productId := by
  unfold movesOf
  by_cases own : i.productId = productId <;> simp [own]

theorem movesOf_ne_nil {items : List SaleItem} {productId : String}
    (h : productId ∈ items.map (·.productId)) : movesOf items productId ≠ [] := by
  obtain ⟨i, hi, rfl⟩ := List.mem_map.1 h
  have own : i ∈ items.filter (·.productId == i.productId) := by simp [hi]
  intro none
  rw [List.map_eq_nil_iff.1 none] at own
  cases own

end SaleItem

namespace Commit

/-! ## Notes -/

variable {report report' : List OversoldProduct} {id key : String} {stock : Int64}

/-- A note of a stock below zero takes the place of an older one of that product. -/
theorem find?_noteOversold :
    (noteOversold report id stock).find? (·.productId == key) =
      if id = key ∧ stock.toInt < 0 then some ⟨id, stock⟩
      else report.find? (·.productId == key) := by
  have sign : 0 ≤ stock ↔ ¬stock.toInt < 0 := by
    rw [Int64.le_iff_toInt_le, Int64.toInt_zero, Int.not_lt]
  unfold noteOversold
  by_cases below : stock.toInt < 0
  · rw [if_neg fun enough => sign.1 enough below]
    by_cases listed : report.any (·.productId == id) = true
    · rw [if_pos listed, Table.find?_map (fun o : OversoldProduct => o.productId)]
      · by_cases own : id = key
        · subst own
          obtain ⟨o, ho⟩ : ∃ o, report.find? (·.productId == id) = some o :=
            Option.isSome_iff_exists.1 (by rw [List.find?_isSome]; simpa using listed)
          have named : o.productId = id :=
            Table.key_of_find? (fun o : OversoldProduct => o.productId) ho
          simp [ho, below, named]
        · rw [if_neg fun both => own both.1]
          cases other : report.find? (·.productId == key) with
          | none => rfl
          | some o =>
            have named : o.productId = key :=
              Table.key_of_find? (fun o : OversoldProduct => o.productId) other
            have ne : o.productId ≠ id := fun same => own (same.symm.trans named)
            simp [ne]
      · intro o
        split <;> rfl
    · have absent : report.find? (·.productId == id) = none := by
        rw [List.find?_eq_none]
        simpa using listed
      rw [if_neg listed, Table.find?_append_singleton (fun o : OversoldProduct => o.productId)]
      by_cases own : id = key
      · subst own
        simp [absent, below]
      · simp [own]
  · rw [if_pos (sign.2 below), if_neg fun both => below both.2]

/-- No product is noted twice. -/
theorem nodup_noteOversold (unique : (report.map (·.productId)).Nodup) :
    ((noteOversold report id stock).map (·.productId)).Nodup := by
  unfold noteOversold
  split
  · exact unique
  · split
    · rw [Table.map_key_map (fun o : OversoldProduct => o.productId)]
      · exact unique
      · intro o
        split <;> rfl
    · next listed =>
      refine Table.nodup_append_singleton.2 ⟨unique, fun taken => listed ?_⟩
      simpa using taken

namespace Written

variable {now : Timestamp} {s s' : Store} {items : List SaleItem}

theorem nodup_report (h : Written now s report items s' report')
    (unique : (report.map (·.productId)).Nodup) : (report'.map (·.productId)).Nodup := by
  induction h with
  | nil => exact unique
  | cons _ _ _ _ ih => exact ih (nodup_noteOversold unique)

/-- The report tells the last value below zero that the stock of a product has taken, and what
it told before of a product that was not below zero. -/
theorem find?_report (h : Written now s report items s' report') {row : ProductRow} {w : Int64}
    (found : s.product? id = some row) (exact : row.stock = .exact w) :
    (report'.find? (·.productId == id)).map (·.stock.toInt) =
      (lastBelow w.toInt (SaleItem.movesOf items id)).or
        ((report.find? (·.productId == id)).map (·.stock.toInt)) := by
  induction h generalizing row w with
  | nil => rfl
  | @cons s s' report report' i rest row' sum fits hrow hsum _ ih =>
    have own : row.id = id := Store.id_of_product? found
    have later : (Catalog.moveStock now i.productId (Int64.ofInt i.units)
        { s with items := s.items ++ [i] }).product? id =
          some (row.moved now i.productId (Int64.ofInt i.units)) := by
      rw [Catalog.product?_moveStock]
      exact congrArg (Option.map _) found
    rw [SaleItem.movesOf_cons]
    by_cases mine : i.productId = id
    · subst mine
      obtain rfl : row = row' := Option.some.inj (found.symm.trans hrow)
      rw [exact] at hsum
      have moved : (row.moved now i.productId (Int64.ofInt i.units)).stock = .exact sum := by
        simp [ProductRow.moved, own, exact, hsum]
      have total : sum.toInt = w.toInt + i.units := by
        rw [Tally.add_exact_eq_exact_iff.1 hsum, fits.toInt_units]
      rw [ih later moved, find?_noteOversold, if_pos rfl, lastBelow, ← total]
      by_cases below : sum.toInt < 0 <;> simp [below]
    · have kept : row.moved now i.productId (Int64.ofInt i.units) = row :=
        ProductRow.moved_of_ne (by rwa [own, ne_comm])
      rw [kept] at later
      rw [ih later exact, find?_noteOversold, if_neg mine, if_neg fun both => mine both.1]

/-- Only products of the lines are noted. -/
theorem mem_of_report (h : Written now s report items s' report') {o : OversoldProduct}
    (ho : o ∈ report') : (∃ before ∈ report, before.productId = o.productId) ∨
      o.productId ∈ items.map (·.productId) := by
  induction h with
  | nil => exact .inl ⟨o, ho, rfl⟩
  | @cons s s' report report' i rest row sum _ _ _ _ ih =>
    rw [List.map_cons, List.mem_cons]
    rcases ih ho with ⟨noted, hnoted, same⟩ | later
    · have found := Table.isSome_find?_iff.2 (List.mem_map.2 ⟨noted, hnoted, same⟩)
      rw [find?_noteOversold] at found
      split at found
      · next own => exact .inr (.inl own.1.symm)
      · obtain ⟨before, hbefore, named⟩ := List.mem_map.1 (Table.isSome_find?_iff.1 found)
        exact .inl ⟨before, hbefore, named⟩
    · exact .inr (.inr later)

end Written

namespace Booked

variable {station : String} {stamp : Stamp} {request : CommitRequest} {c : Committed}
  {s s' : Store}

theorem nodup_oversold (h : Booked station stamp request s c s') :
    (c.oversold.map (·.productId)).Nodup := by
  obtain ⟨t, written⟩ := h.written
  exact written.nodup_report List.nodup_nil

theorem listed_of_oversold (h : Booked station stamp request s c s') {o : OversoldProduct}
    (ho : o ∈ c.oversold) : o.productId ∈ c.items.map (·.productId) := by
  obtain ⟨t, written⟩ := h.written
  rcases written.mem_of_report ho with ⟨_, none, -⟩ | listed
  · cases none
  · exact listed

/-- What is reported of a product is the last value below zero that its stock has taken. -/
theorem mem_oversold_iff (h : Booked station stamp request s c s') {o : OversoldProduct} :
    o ∈ c.oversold ↔ ∃ row w, s.product? o.productId = some row ∧ row.stock = .exact w ∧
      lastBelow w.toInt (SaleItem.movesOf c.items o.productId) = some o.stock.toInt := by
  obtain ⟨t, written⟩ := h.written
  have told {row : ProductRow} {w : Int64} (found : s.product? o.productId = some row)
      (exact : row.stock = .exact w) :
      (c.oversold.find? (·.productId == o.productId)).map (·.stock.toInt) =
        lastBelow w.toInt (SaleItem.movesOf c.items o.productId) := by
    have listed : (withReceipt station stamp.tenderId c.receipt s).product? o.productId =
        some row := found
    rw [written.find?_report listed exact, List.find?_nil, Option.map_none, Option.or_none]
  constructor
  · intro ho
    obtain ⟨i, hi, own⟩ := List.mem_map.1 (h.listed_of_oversold ho)
    obtain ⟨-, -, -, row, w, found, exact⟩ := h.lines.of_mem hi
    rw [own] at found
    have there : c.oversold.find? (·.productId == o.productId) = some o :=
      Table.find?_of_mem (fun o : OversoldProduct => o.productId) h.nodup_oversold ho
    exact ⟨row, w, found, exact, by rw [← told found exact, there, Option.map_some]⟩
  · rintro ⟨row, w, found, exact, last⟩
    rw [← told found exact] at last
    obtain ⟨noted, there, stock⟩ := Option.map_eq_some_iff.1 last
    have named : noted.productId = o.productId :=
      Table.key_of_find? (fun o : OversoldProduct => o.productId) there
    have same : noted = o := by
      cases noted
      cases o
      simp_all [Int64.toInt_inj]
    exact same ▸ List.mem_of_find?_eq_some there

/-- The receipt has a line of each line of the cart. -/
theorem productIds_eq (h : Booked station stamp request s c s') :
    c.items.map (·.productId) = request.items.map (·.productId) := by
  have lines := congrArg (List.map Prod.fst) h.lines.cart_eq
  simpa [List.map_map, Function.comp_def] using lines

/-- A product of the receipt whose stock ends below zero is reported with that stock. -/
theorem mem_oversold_of_neg (h : Booked station stamp request s c s') {id : String}
    (listed : id ∈ c.items.map (·.productId)) {row : ProductRow} {w : Int64}
    (found : s'.product? id = some row) (exact : row.stock = .exact w) (below : w.toInt < 0) :
    ⟨id, w⟩ ∈ c.oversold := by
  obtain ⟨i, hi, rfl⟩ := List.mem_map.1 listed
  obtain ⟨-, -, -, old, v, before, stock⟩ := h.lines.of_mem hi
  obtain ⟨w', sold, sum⟩ := h.stock before stock
  rw [h.product?_eq, before, Option.map_some, Option.some.injEq] at found
  subst found
  obtain rfl : w' = w := Tally.exact.inj (sold.symm.trans exact)
  have total : w'.toInt = v.toInt + (SaleItem.movesOf c.items i.productId).sum := sum
  refine h.mem_oversold_iff.2 ⟨old, v, before, stock, ?_⟩
  rw [lastBelow_of_sum_neg (SaleItem.movesOf_ne_nil listed) (total ▸ below), ← total]

/-- The lines of a sale only lower a stock. -/
theorem movesOf_nonpos (h : Booked station stamp request s c s') (sale : request.isReturn = false)
    (id : String) : ∀ move ∈ SaleItem.movesOf c.items id, move ≤ 0 := by
  obtain ⟨t, written⟩ := h.written
  intro move hmove
  obtain ⟨i, hi, rfl⟩ := List.mem_map.1 hmove
  have line := List.mem_of_mem_filter hi
  have positive := Int64.lt_iff_toInt_lt.1 (written.of_mem line).1
  rw [Int64.toInt_zero] at positive
  obtain ⟨-, forward, -⟩ := h.lines.of_mem line
  rw [SaleItem.units, if_neg (by rw [forward, sale]; exact Bool.false_ne_true)]
  omega

/-- What a sale reports of a product is the stock that is left. -/
theorem left_of_oversold (h : Booked station stamp request s c s')
    (sale : request.isReturn = false) {o : OversoldProduct} (ho : o ∈ c.oversold) :
    o.stock.toInt < 0 ∧ ∃ row, s'.product? o.productId = some row ∧ row.stock = .exact o.stock := by
  obtain ⟨row, v, before, stock, last⟩ := h.mem_oversold_iff.1 ho
  obtain ⟨ends, below⟩ := sum_neg_of_lastBelow (h.movesOf_nonpos sale _) last
  obtain ⟨w, sold, sum⟩ := h.stock before stock
  have total : w.toInt = v.toInt + (SaleItem.movesOf c.items o.productId).sum := sum
  have left_eq : w = o.stock := by
    rw [← Int64.toInt_inj, total, ends]
  refine ⟨below, row.sold stamp.now c.items, ?_, left_eq ▸ sold⟩
  rw [h.product?_eq, before, Option.map_some]

end Booked

end Commit

/-! ## The reports -/

namespace History

/-- A commit reports the last value below zero that the stock of each product has taken on the
way through the cart.  So it reports every product whose stock ends below zero with that stock,
and none twice.  A sale reports no others. -/
theorem oversold_reported (calls : List Call) (call : Call) (request : CommitRequest)
    (c : Committed) (deliveries : List Delivery) (op : call.operation = .commit request)
    (done : (call.run (of calls).store).1 = .ok (.committed c deliveries)) :
    let s := (of calls).store
    let left := (call.run s).2
    (c.oversold.map (·.productId)).Nodup ∧
    (∀ o, o ∈ c.oversold ↔ ∃ row w, s.product? o.productId = some row ∧ row.stock = .exact w ∧
      lastBelow w.toInt (SaleItem.movesOf c.items o.productId) = some o.stock.toInt) ∧
    (∀ line ∈ request.items, ∀ row w, left.product? line.productId = some row →
      row.stock = .exact w → w.toInt < 0 → ⟨line.productId, w⟩ ∈ c.oversold) ∧
    (request.isReturn = false → ∀ o ∈ c.oversold,
      o.productId ∈ request.items.map (·.productId) ∧ o.stock.toInt < 0 ∧
        ∃ row, left.product? o.productId = some row ∧ row.stock = .exact o.stock) := by
  intro s left
  have effect := call.effect s
  rw [done] at effect
  obtain ⟨c', same, booked⟩ := effect.booked_of_commit_ok op
  obtain ⟨rfl, -⟩ := Reply.committed.inj same
  refine ⟨booked.nodup_oversold, fun o => booked.mem_oversold_iff, ?_, ?_⟩
  · intro line hline row w found exact below
    have listed : line.productId ∈ c.items.map (·.productId) :=
      booked.productIds_eq ▸ List.mem_map_of_mem hline
    exact booked.mem_oversold_of_neg listed found exact below
  · intro sale o ho
    rw [← booked.productIds_eq]
    exact ⟨booked.listed_of_oversold ho, booked.left_of_oversold sale ho⟩

/-- Forty-five units are sold of forty in two lines; the report tells the five that are missing. -/
theorem oversold_reported_of_two_lines :
    let sale := { Day.purchase .cash 20 9000 with
      items := [.plain "sugar" 20, .plain "sugar" 25] }
    let call := Day.ask "r1" (.commit sale)
    ∃ c, (call.run (of Day.opening).store).1 = .ok (.committed c []) ∧
      (c.oversold.map (·.productId)).Nodup ∧ c.oversold = [⟨"sugar", -5⟩] ∧
      ∃ row, (call.run (of Day.opening).store).2.product? "sugar" = some row ∧
        row.stock = .exact (-5) := by
  intro sale call
  let receipt : Receipt :=
    ⟨⟨"r1", "POS-01-00001", Day.moment, none, "amina", some "otieno", 9000, .completed, none,
      none, false, "POS-01"⟩, .cash⟩
  let line (id : String) (quantity : Int64) : SaleItem :=
    ⟨id, "r1", "sugar", "amina", "Sugar 1kg", quantity, 200, false, none, Day.moment⟩
  have done : (call.run (of Day.opening).store).1 =
      .ok (.committed ⟨receipt, [line "r1" 20, line "r1+" 25], [⟨"sugar", -5⟩]⟩ []) := by
    decide +kernel
  obtain ⟨once, -, -, exact⟩ := oversold_reported Day.opening call sale _ _ rfl done
  exact ⟨_, done, once, rfl, (exact rfl ⟨"sugar", -5⟩ (List.mem_singleton.2 rfl)).2.2⟩

/-- Five units are missing, and six come back in two lines.  There is one on hand then, but the
report tells that two are missing. -/
theorem oversold_of_return :
    let calls := Day.opening ++ [Day.ask "r1" (.commit (Day.purchase .cash 45 9000))]
    let back := { Day.purchase .cash 3 1200 with
      items := [.plain "sugar" 3, .plain "sugar" 3], isReturn := true }
    let call := Day.ask "r2" (.commit back)
    ∃ c, (call.run (of calls).store).1 = .ok (.committed c []) ∧
      c.oversold = [⟨"sugar", -2⟩] ∧
      ∃ row, (call.run (of calls).store).2.product? "sugar" = some row ∧ row.stock = .exact 1 := by
  intro calls back call
  let receipt : Receipt :=
    ⟨⟨"r2", "POS-01-00002", Day.moment, none, "amina", some "otieno", 1200, .completed, none,
      none, true, "POS-01"⟩, .cash⟩
  let line (id : String) : SaleItem :=
    ⟨id, "r2", "sugar", "amina", "Sugar 1kg", 3, 200, true, none, Day.moment⟩
  have done : (call.run (of calls).store).1 =
      .ok (.committed ⟨receipt, [line "r2", line "r2+"], [⟨"sugar", -2⟩]⟩ []) := by
    decide +kernel
  have left : (call.run (of calls).store).2.product? "sugar" =
      some { Day.sugar.row with stock := .exact 1 } := by
    decide +kernel
  exact ⟨_, done, rfl, _, left, rfl⟩

end History

end Tillbook
