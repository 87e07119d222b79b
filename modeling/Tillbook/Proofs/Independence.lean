import Tillbook.Proofs.Submissions

/-!
# Independent requests

Requests that share neither the name under which the gateway confirms a payment nor a customer
on credit are not in each other's way: each has the fault and the prices that it would have had
before the others, and the numbers in the store stay far from the ends of their range.

## Main definitions

* `CommitRequest.Independent` — two requests are not in each other's way.
* `Store.Below` — no stored number reaches a bound.

## Main statements

* `Store.After.moderate` — independent requests leave moderate numbers.
* `Store.After.fault?_eq` — they do not change the fault of a request.
* `Commit.Priced.of_after` — nor its prices.
-/

namespace Tillbook

/-! ## Sums -/

/-- A sum is not larger than its terms together could be. -/
theorem natAbs_sum_le {ns : List Int} {bound : Nat} (each : ∀ n ∈ ns, n.natAbs ≤ bound) :
    ns.sum.natAbs ≤ bound * ns.length := by
  induction ns with
  | nil => simp
  | cons n ns ih =>
    rw [List.forall_mem_cons] at each
    have rest := ih each.2
    rw [List.sum_cons, List.length_cons, Nat.mul_succ]
    omega

/-- A sum with one term beside zeros is not larger than this term could be. -/
theorem natAbs_sum_le_of_pairwise {ns : List Int} {bound : Nat}
    (each : ∀ n ∈ ns, n.natAbs ≤ bound) (one : ns.Pairwise fun m n => m = 0 ∨ n = 0) :
    ns.sum.natAbs ≤ bound := by
  induction ns with
  | nil => simp
  | cons n ns ih =>
    rw [List.forall_mem_cons] at each
    rw [List.pairwise_cons] at one
    rw [List.sum_cons]
    by_cases nothing : n = 0
    · rw [nothing, Int.zero_add]
      exact ih each.2 one.2
    · have others : ns.sum = 0 := by
        apply List.sum_eq_zero
        intro m hm
        exact (one.1 m hm).resolve_left nothing
      rw [others, Int.add_zero]
      exact each.1

/-! ## Independent requests -/

namespace CommitRequest

variable {request : CommitRequest}

/-- The request bills something to a customer, for a sale or for a return. -/
def Bills (request : CommitRequest) (customerId : String) : Prop :=
  request.customerId = some customerId ∧ 0 < request.payment.creditPortion request.total

/-- Two requests share neither the name under which the gateway should confirm a payment nor a
customer to whom both bill something. -/
structure Independent (a b : CommitRequest) : Prop where
  checkout : ∀ id, a.checkoutId = some id → b.checkoutId ≠ some id
  credit : ∀ id, a.Bills id → ¬b.Bills id

theorem Independent.symm {a b : CommitRequest} (h : a.Independent b) : b.Independent a where
  checkout := fun id hb ha => h.checkout id ha hb
  credit := fun id hb ha => h.credit id ha hb

/-- What is billed is not below zero and not above the largest amount. -/
theorem creditPortion_bounds (form : Validation.commit request = .ok ()) :
    0 ≤ (request.payment.creditPortion request.total).toInt ∧
      (request.payment.creditPortion request.total).toInt ≤ 100000000000 := by
  obtain ⟨-, -, total, payment, -⟩ := Validation.commit_eq_ok_iff.1 form
  rw [Validation.amount_eq_ok_iff] at total
  have within := Payment.creditPortion_within payment total.1
  have amount : Validation.maxAmount.toInt = 100000000000 := by decide
  omega

theorem natAbs_billedTo_le (form : Validation.commit request = .ok ()) (id : String) :
    (request.billedTo id).natAbs ≤ 100000000000 := by
  have bounds := creditPortion_bounds form
  unfold billedTo billed
  split <;> [split; skip] <;> omega

theorem billedTo_eq_zero (form : Validation.commit request = .ok ()) {id : String}
    (h : ¬request.Bills id) : request.billedTo id = 0 := by
  have bounds := creditPortion_bounds form
  unfold billedTo
  by_cases named : request.customerId = some id
  · have nothing : ¬0 < request.payment.creditPortion request.total := fun h' => h ⟨named, h'⟩
    rw [Int64.lt_iff_toInt_lt, Int64.toInt_zero] at nothing
    rw [if_pos named, billed]
    split <;> omega
  · exact if_neg named

/-- No line moves more than the largest quantity, and there are a hundred lines at most. -/
theorem natAbs_unitsOf_le (form : Validation.commit request = .ok ()) (id : String) :
    (request.unitsOf id).natAbs ≤ 99900 := by
  have cart := Validation.cart_eq_ok_iff.1 (Validation.commit_eq_ok_iff.1 form).2.1
  have few := List.length_filter_le (·.productId == id) request.items
  unfold Validation.maxCartItems at cart
  have each : ∀ n ∈ (request.items.filter (·.productId == id)).map fun line =>
      if request.isReturn then line.quantity.toInt else -line.quantity.toInt,
      n.natAbs ≤ 999 := by
    intro n hn
    obtain ⟨line, hline, rfl⟩ := List.mem_map.1 hn
    have form := cart.2.2 line (List.mem_of_mem_filter hline)
    have quantity := Validation.quantity_eq_ok_iff.1 (Validation.cartLine_eq_ok_iff.1 form).2.1
    have most : Validation.maxQuantity.toInt = 999 := by decide
    split <;> omega
  have moves := natAbs_sum_le each
  rw [List.length_map] at moves
  unfold unitsOf
  omega

end CommitRequest

/-! ## Numbers far from the ends of their range -/

/-- No stock, balance or counter reaches a bound. -/
structure Store.Below (bound : Nat) (s : Store) : Prop where
  stocks : ∀ row ∈ s.products, row.stock.value.natAbs < bound
  balances : ∀ row ∈ s.customers, row.balance.value.natAbs < bound
  counters : ∀ c ∈ s.counters, c.last.value.natAbs < bound

theorem Store.Moderate.exact_stock {s : Store} (h : s.Moderate) (products : s.SoundProducts) :
    ∀ row ∈ s.products, ∃ w, row.stock = .exact w := by
  intro row hrow
  obtain ⟨w, hw, -⟩ := h.exists_stock products row hrow
  exact ⟨w, hw⟩

/-- The counters belong to different stations. -/
theorem Effect.keeps_counters {call : Call} {s s' : Store} {answer : Except LedgerError Reply}
    (h : Effect call s answer s') (unique : (s.counters.map (·.station)).Nodup) :
    (s'.counters.map (·.station)).Nodup := by
  have issued (station : String) :
      ((Counters.issued station s).counters.map (·.station)).Nodup := by
    have moved : (Counters.issued station s).counters.map (·.station) =
        (Counters.ensured station s).counters.map (·.station) :=
      Table.map_key_map (fun c : Counter => c.station) (fun c => by split <;> rfl) _
    rw [moved]
    unfold Counters.ensured
    split
    · exact unique
    · next absent =>
      have new : station ∉ s.counters.map (·.station) :=
        Table.find?_eq_none_iff.1 (Option.not_isSome_iff_eq_none.1 absent)
      exact Table.nodup_append_singleton.2 ⟨unique, new⟩
  cases h with
  | numbered op next => exact issued _
  | committed op booked =>
    obtain ⟨customers, -, rfl⟩ := booked.left
    exact issued _
  | _ => exact unique

theorem History.counters_nodup (calls : List Call) :
    ((of calls).store.counters.map (·.station)).Nodup := by
  apply induction (P := fun h => (h.store.counters.map (·.station)).Nodup)
  · exact List.nodup_nil
  · exact fun h call answer s' hs effect => effect.keeps_counters hs

/-- The last number of a station is not larger than a counter could be. -/
theorem Store.Below.lastNumber {bound : Nat} {s : Store} (h : s.Below bound) (room : 0 < bound)
    (station : String) : (s.lastNumber station).value.natAbs < bound := by
  unfold Store.lastNumber
  cases found : s.counter? station with
  | none => simpa using room
  | some c => exact h.counters c (List.mem_of_find?_eq_some found)

namespace Store.After

variable {s t : Store} {done : List Submission}

/-- Requests that are independent of each other leave every number far from the ends of its
range. -/
theorem moderate (h : s.After t done) (small : s.Below (2 ^ 61)) (sound : t.Sound)
    (counters : (t.counters.map (·.station)).Nodup) (few : done.length < 2 ^ 40)
    (independent : done.Pairwise fun a b => a.request.Independent b.request) : t.Moderate where
  stocks := by
    intro row hrow
    have there : t.product? row.id = some row :=
      Table.find?_of_mem (fun row : ProductRow => row.id) sound.products hrow
    cases before : s.product? row.id with
    | none =>
      rw [h.unknown _ before] at there
      nomatch there
    | some row₀ =>
      obtain ⟨moment, stock, now, sum⟩ := h.products _ _ before
      have own : row.stock = stock :=
        congrArg ProductRow.stock (Option.some.inj (there.symm.trans now))
      have start := small.stocks row₀ (List.mem_of_find?_eq_some before)
      have each : ∀ n ∈ done.map (·.request.unitsOf row.id), n.natAbs ≤ 99900 := by
        intro n hn
        obtain ⟨x, hx, rfl⟩ := List.mem_map.1 hn
        exact CommitRequest.natAbs_unitsOf_le (h.form x hx) _
      have moves := natAbs_sum_le each
      rw [List.length_map] at moves
      rw [own]
      omega
  balances := by
    intro row hrow
    have there : t.customer? row.id = some row :=
      Table.find?_of_mem (fun row : CustomerRow => row.id) sound.customers hrow
    cases before : s.customer? row.id with
    | none =>
      rw [h.strangers _ before] at there
      nomatch there
    | some row₀ =>
      obtain ⟨row', now, -, sum⟩ := h.customers _ _ before
      have own : row = row' := Option.some.inj (there.symm.trans now)
      have start := small.balances row₀ (List.mem_of_find?_eq_some before)
      have moves :
          (done.map fun x : Submission => x.request.billedTo row.id).sum.natAbs ≤ 100000000000 := by
        apply natAbs_sum_le_of_pairwise
        · intro n hn
          obtain ⟨x, hx, rfl⟩ := List.mem_map.1 hn
          exact CommitRequest.natAbs_billedTo_le (h.form x hx) _
        · -- No two of the requests bill something to one customer.
          rw [List.pairwise_map]
          refine independent.imp_of_mem fun {x y : Submission} hx hy apart => ?_
          by_cases bills : x.request.Bills row.id
          · exact .inr (CommitRequest.billedTo_eq_zero (h.form y hy) (apart.credit _ bills))
          · exact .inl (CommitRequest.billedTo_eq_zero (h.form x hx) bills)
      rw [own] at moves ⊢
      rw [own] at sum
      omega
  counters := by
    intro c hc
    have there : t.counter? c.station = some c :=
      Table.find?_of_mem (fun c : Counter => c.station) counters hc
    have last : t.lastNumber c.station = c.last := by
      rw [Store.lastNumber, there]
      rfl
    have start := small.lastNumber (by decide) c.station
    have moves : done.countP (·.station == c.station) ≤ done.length := List.countP_le_length
    have sum := h.counters c.station
    rw [last] at sum
    omega

theorem isNone_product? (h : s.After t done) (id : String) :
    (t.product? id).isNone = (s.product? id).isNone := by
  cases before : s.product? id with
  | none => rw [h.unknown id before]
  | some row =>
    obtain ⟨_, _, now, -⟩ := h.products id row before
    rw [now]
    rfl

theorem isSome_customer? (h : s.After t done) (id : String) :
    (t.customer? id).isSome = (s.customer? id).isSome := by
  cases before : s.customer? id with
  | none => rw [h.strangers id before]
  | some row =>
    obtain ⟨row', now, -⟩ := h.customers id row before
    rw [now]
    rfl

/-- The limit of a customer is in the way of a request as it was before the others: if it bills
something, then none of them has billed anything to that customer. -/
theorem limitFault?_eq (h : s.After t done) (before : s.Sound) (sound : t.Sound)
    {request : CommitRequest} (apart : ∀ x ∈ done, x.request.Independent request) :
    Commit.limitFault? request t = Commit.limitFault? request s := by
  unfold Commit.limitFault?
  cases named : request.customerId with
  | none => rfl
  | some id =>
    cases found : s.customer? id with
    | none => simp [found, h.strangers id found]
    | some row =>
      obtain ⟨row', now, limit, sum⟩ := h.customers id row found
      obtain ⟨w, balance⟩ := (before.accounts row (List.mem_of_find?_eq_some found)).balance
      obtain ⟨w', balance'⟩ := (sound.accounts row' (List.mem_of_find?_eq_some now)).balance
      by_cases something : 0 < request.payment.creditPortion request.total
      · have nothing : (done.map fun x => x.request.billedTo id).sum = 0 := by
          apply List.sum_eq_zero
          intro n hn
          obtain ⟨x, hx, rfl⟩ := List.mem_map.1 hn
          apply CommitRequest.billedTo_eq_zero (h.form x hx)
          exact fun bills => (apart x hx).credit id bills ⟨named, something⟩
        have same : w' = w := by
          rw [balance, balance', nothing] at sum
          exact Int64.toInt_inj.1 (sum.trans (Int.add_zero _))
        simp [found, now, balance, balance', limit, same]
      · simp [something]

/-- A request has the fault that it had before the others, if it is independent of them. -/
theorem fault?_eq (h : s.After t done) (before : s.Sound) (sound : t.Sound)
    {request : CommitRequest} (apart : ∀ x ∈ done, x.request.Independent request) :
    Commit.fault? request t = Commit.fault? request s := by
  have staff : Commit.staffFault? request t = Commit.staffFault? request s := by
    unfold Commit.staffFault? Store.staffMember?
    rw [h.staff]
  have shift : Commit.shiftFault? request t = Commit.shiftFault? request s := by
    unfold Commit.shiftFault? Store.shift?
    rw [h.shifts]
  have customer : Commit.customerFault? request t = Commit.customerFault? request s := by
    unfold Commit.customerFault?
    simp only [h.isSome_customer?]
  have product : Commit.productFault? request.items t = Commit.productFault? request.items s := by
    unfold Commit.productFault?
    simp only [h.isNone_product?]
  have checkout : Commit.checkoutFault? request t = Commit.checkoutFault? request s := by
    cases named : request.checkoutId with
    | none => simp [Commit.checkoutFault?, named]
    | some id =>
      have others : done.any (·.request.checkoutId == some id) = false := by
        rw [List.any_eq_false]
        intro x hx own
        exact (apart x hx).checkout id (beq_iff_eq.1 own) named
      have listed := congrArg (List.any · (· == some id)) h.checkouts
      simp only [List.any_append, List.any_map, Function.comp_def, others, Bool.or_false] at listed
      simp only [Commit.checkoutFault?, named, Option.bind_some, listed]
  have limit := h.limitFault?_eq before sound apart
  rw [Commit.fault?, staff, shift, customer, limit, product, checkout]
  rfl

end Store.After

/-! ## Prices -/

namespace Commit

/-- The lines of a receipt could be written with the catalog as it was before the others. -/
theorem Priced.of_after {s t : Store} {done : List Submission} (h : s.After t done)
    (stocks : ∀ row ∈ s.products, ∃ w, row.stock = .exact w) {request : CommitRequest}
    {stamp : Stamp} {position : Nat} {lines : List CartLine} {items : List SaleItem}
    (priced : Priced request stamp t position lines items) :
    Priced request stamp s position lines items := by
  induction priced with
  | nil => exact .nil
  | @cons position line lines items row w found stock rest ih =>
    cases before : s.product? line.productId with
    | none =>
      rw [h.unknown _ before] at found
      nomatch found
    | some row₀ =>
      obtain ⟨w₀, exact⟩ := stocks row₀ (List.mem_of_find?_eq_some before)
      obtain ⟨moment, tally, now, -⟩ := h.products _ _ before
      obtain rfl := Option.some.inj (now.symm.trans found)
      -- A line takes nothing over from the moment at which a product was changed last.
      have kept : Priced request stamp s position (line :: lines)
          (itemOf request stamp position line row₀.toProductCard :: items) :=
        .cons before exact ih
      exact kept

end Commit

end Tillbook
