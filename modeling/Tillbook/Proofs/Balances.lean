import Tillbook.Proofs.Histories

/-!
# Balances

What the calls make of the accounts of the customers.  A receipt moves the balance by its
tenders on credit, a repayment brings it down to zero at most, and nothing else moves it.
A balance that rises stays within the limit.

## Main definitions

* `Receipt.billedTo` — what a receipt moves on an account.
* `Entry.balance` — a balance after an entry.
* `Entry.Moves` — what an entry makes of the row of a customer.

## Main statements

* `Effect.moves` — every effect moves every account so.
* `History.balance_within_limit` — what holds of the balance and the limit after every run.
-/

namespace Tillbook

/-- What a receipt moves on the account of a customer, as an integer. -/
def Receipt.billedTo (r : Receipt) (id : String) : Int :=
  if r.customerId = some id then
    if r.isReturn then -Tender.creditSum (r.payment.tenders r.total)
    else Tender.creditSum (r.payment.tenders r.total)
  else 0

namespace Entry

/-- The balance of a customer after an entry. -/
def balance (e : Entry) (id : String) (before : Int) : Int :=
  match e.answer with
  | .error _ => before
  | .ok reply =>
    match e.call.operation, reply with
    | .commit _, .committed c _ => before + c.receipt.billedTo id
    | .repay other amount, _ => if other = id then max 0 (before - amount.toInt) else before
    | _, _ => before

/-- The limit that an entry has set for a customer. -/
def limit? (e : Entry) (id : String) : Option Money :=
  match e.answer with
  | .error _ => none
  | .ok _ =>
    match e.call.operation with
    | .setDebtLimit other limit => if other = id then some limit else none
    | _ => none

theorem balance_of_isPlain {e : Entry} (h : e.call.operation.isPlain = true) (id : String)
    (before : Int) : e.balance id before = before := by
  unfold balance
  cases e.answer with
  | error _ => rfl
  | ok reply => cases op : e.call.operation <;> simp_all [Operation.isPlain, Operation.asks]

theorem limit?_of_isPlain {e : Entry} (h : e.call.operation.isPlain = true) (id : String) :
    e.limit? id = none := by
  unfold limit?
  cases e.answer with
  | error _ => rfl
  | ok reply => cases op : e.call.operation <;> simp_all [Operation.isPlain, Operation.asks]

theorem limit?_eq_some_iff {e : Entry} {id : String} {limit : Money} :
    e.limit? id = some limit ↔
      e.call.operation = .setDebtLimit id limit ∧ ∃ reply, e.answer = .ok reply := by
  unfold limit?
  cases e.answer with
  | error _ => simp
  | ok reply =>
    cases e.call.operation with
    | setDebtLimit other l => by_cases same : other = id <;> simp [same]
    | _ => simp

/-- What an entry makes of the row of a customer. -/
structure Moves (e : Entry) (id : String) (row row' : CustomerRow) : Prop where
  balance : ∃ w, row'.balance = .exact w ∧ w.toInt = e.balance id row.balance.value
  limit : row'.debtLimit = (e.limit? id).getD row.debtLimit
  within : row.balance.value < row'.balance.value → row'.balance.value ≤ row'.debtLimit.toInt

end Entry

/-! ## Receipts and repayments -/

/-- A repayment takes off what is paid, down to zero. -/
theorem Credit.toInt_repay {balance amount : Money} (h : 0 < amount.toInt) :
    (repay balance amount).toInt = max 0 (balance.toInt - amount.toInt) := by
  have most := balance.toInt_le
  have clamped := Word.toInt_clamp (balance.toInt - amount.toInt)
  simp only [Int64.toInt_minValue, Int64.toInt_maxValue] at most clamped
  simp only [repay, Word.subClamped, Int64.lt_iff_toInt_lt, Int64.toInt_zero]
  split
  · rw [Int64.toInt_zero]
    omega
  · omega

namespace Commit.Booked

variable {station : String} {stamp : Stamp} {request : CommitRequest} {s s' : Store} {c : Committed}

/-- A receipt moves the account of its customer by what the request bills, and no other. -/
theorem billedTo_eq (h : Booked station stamp request s c s') (id : String) :
    c.receipt.billedTo id = if request.customerId = some id then request.billed else 0 := by
  obtain ⟨n, -, receipt⟩ := h.number
  have form := (Validation.commit_eq_ok_iff.1 h.form).2.2.2.1
  have exact := Payment.toInt_creditPortion form
  rw [receipt, Receipt.billedTo, CommitRequest.billed, exact]
  rfl

/-- A request that bills nothing moves no account. -/
theorem billed_eq_zero (h : Booked station stamp request s c s')
    (nothing : ¬0 < request.payment.creditPortion request.total) : request.billed = 0 := by
  obtain ⟨-, -, total, payment, -⟩ := Validation.commit_eq_ok_iff.1 h.form
  have within := Payment.creditPortion_within payment (Validation.amount_eq_ok_iff.1 total).1
  rw [Int64.lt_iff_toInt_lt, Int64.toInt_zero] at nothing
  unfold CommitRequest.billed
  split <;> omega

/-- A commit moves every account by what its receipt bills to it, and not above the limit. -/
theorem account (h : Booked station stamp request s c s') {id : String} {row : CustomerRow}
    {w : Money} (found : s.customer? id = some row) (balance : row.balance = .exact w) :
    ∃ row' w', s'.customer? id = some row' ∧ row'.balance = .exact w' ∧
      w'.toInt = w.toInt + c.receipt.billedTo id ∧ row'.debtLimit = row.debtLimit ∧
      (w.toInt < w'.toInt → w'.toInt ≤ row.debtLimit.toInt) := by
  obtain ⟨customers, credited, rfl⟩ := h.left
  rw [h.billedTo_eq]
  cases credited with
  | kept portion =>
    refine ⟨row, w, found, balance, ?_, rfl, fun rises => absurd rises (lt_irrefl _)⟩
    rcases portion with unnamed | nothing
    · simp [unnamed]
    · simp [h.billed_eq_zero nothing]
  | @moved other row₀ w₀ w' named found₀ balance₀ portion sum limit =>
    have after := Accounts.customer?_change (s := s) (f := fun row =>
      { row with balance := .exact w', updatedAt := stamp.now }) (fun _ => rfl) other id
    have own : row.id = id := Store.id_of_customer? found
    rw [found] at after
    by_cases mine : id = other
    · subst mine
      obtain rfl : row = row₀ := Option.some.inj (found.symm.trans found₀)
      obtain rfl : w = w₀ := Tally.exact.inj (balance.symm.trans balance₀)
      simp only [Option.map_some, own, beq_self_eq_true, if_true] at after
      exact ⟨_, w', after, rfl, by rw [if_pos named]; exact sum, rfl, limit⟩
    · have off : ¬request.customerId = some id := by
        rw [named]
        exact fun same => mine (Option.some.inj same).symm
      simp only [Option.map_some, own, beq_iff_eq, mine, if_false] at after
      exact ⟨row, w, after, balance, by rw [if_neg off]; omega, rfl,
        fun rises => absurd rises (lt_irrefl _)⟩

end Commit.Booked

/-! ## Effects on accounts -/

/-- An entry that bills nothing, takes nothing and sets no limit leaves the row. -/
theorem Entry.Moves.refl {e : Entry} {id : String} {row : CustomerRow} (sound : row.Sound)
    (balance : ∀ b, e.balance id b = b) (limit : e.limit? id = none) : e.Moves id row row where
  balance := by
    obtain ⟨w, hw⟩ := sound.balance
    exact ⟨w, hw, by rw [balance, hw, Tally.value_exact]⟩
  limit := by simp [limit]
  within := fun rises => absurd rises (lt_irrefl _)

namespace Effect

variable {call : Call} {s s' : Store} {answer : Except LedgerError Reply} {id : String}

/-- An operation on one customer changes the row of that one. -/
theorem moves_of_change {e : Entry} {f : CustomerRow → CustomerRow} {other : String}
    {row : CustomerRow} (hf : ∀ row, (f row).id = row.id) (found : s.customer? id = some row)
    (mine : other = id → e.Moves id row (f row)) (off : other ≠ id → e.Moves id row row) :
    ∃ row', (Accounts.change other f s).customer? id = some row' ∧ e.Moves id row row' := by
  have own : row.id = id := Store.id_of_customer? found
  rw [Accounts.customer?_change hf, found, Option.map_some, own]
  by_cases same : other = id
  · rw [if_pos (beq_iff_eq.2 same.symm)]
    exact ⟨_, rfl, mine same⟩
  · rw [if_neg (by simpa using Ne.symm same)]
    exact ⟨_, rfl, off same⟩

/-- Every effect moves every account so, and no customer ever leaves. -/
theorem moves (h : Effect call s answer s') (hs : s.Sound) {row : CustomerRow}
    (found : s.customer? id = some row) :
    ∃ row', s'.customer? id = some row' ∧ Entry.Moves ⟨call, answer⟩ id row row' := by
  have sound : row.Sound := hs.accounts row (List.mem_of_find?_eq_some found)
  cases h with
  | failed | stockLost => exact ⟨row, found, .refl sound (fun _ => rfl) rfl⟩
  | told op =>
    have plain := Call.isPlain_of_asks op
    exact ⟨row, found,
      .refl sound (Entry.balance_of_isPlain plain id) (Entry.limit?_of_isPlain plain id)⟩
  | customerAdded op limit new =>
    have plain := Call.isPlain_of_customer? op
    refine ⟨row, ?_,
      .refl sound (Entry.balance_of_isPlain plain id) (Entry.limit?_of_isPlain plain id)⟩
    rw [Store.customer?, List.find?_append, ← Store.customer?, found]
    rfl
  | @limitSet other limit op known nonnegative =>
    refine moves_of_change ?_ found ?_ ?_
    · intro row
      rfl
    · rintro rfl
      obtain ⟨w, hw⟩ := sound.balance
      exact {
        balance := ⟨w, hw, by simp [Entry.balance, op, hw]⟩
        limit := by simp [Entry.limit?, op]
        within := fun rises => absurd rises (lt_irrefl _) }
    · intro off
      exact .refl sound (fun b => by simp [Entry.balance, op]) (by simp [Entry.limit?, op, off])
  | @repaid other amount w row₀ c op positive found₀ balance told =>
    refine moves_of_change ?_ found ?_ ?_
    · intro row
      rfl
    · rintro rfl
      obtain rfl : row = row₀ := Option.some.inj (found.symm.trans found₀)
      have exact : (Credit.repay w amount).toInt = max 0 (w.toInt - amount.toInt) :=
        Credit.toInt_repay positive
      refine ⟨⟨_, rfl, ?_⟩, ?_, ?_⟩
      · simpa [Entry.balance, op, balance] using exact
      · simp [Entry.limit?, op, Settlement.repaid]
      · intro rises
        -- Only a balance below zero can rise, and it rises to zero.
        have limit := Int64.le_iff_toInt_le.1 sound.limit
        simp only [Settlement.repaid, balance, Tally.value_exact, Int64.toInt_zero] at rises limit ⊢
        omega
    · intro off
      exact .refl sound (fun b => by simp [Entry.balance, op, off]) (by simp [Entry.limit?, op])
  | committed op booked =>
    obtain ⟨w, hw⟩ := sound.balance
    obtain ⟨row', w', found', hw', sum, limit, within⟩ := booked.account found hw
    refine ⟨row', found', ⟨w', hw', ?_⟩, ?_, ?_⟩
    · simp [Entry.balance, op, hw, sum]
    · simp [Entry.limit?, op, limit]
    · simpa [hw, hw', limit] using within
  | numbered op next =>
    rw [Counters.issued_eq]
    exact ⟨row, found,
      .refl sound (fun b => by simp [Entry.balance, op]) (by simp [Entry.limit?, op])⟩
  | stockMoved op | staffEngaged op | staffSet op | productAdded op | settled op | shiftKept op
  | shiftBegun op | shiftEnded op =>
    exact ⟨row, found,
      .refl sound (fun b => by simp [Entry.balance, op]) (by simp [Entry.limit?, op])⟩

/-- An account appears by being added. -/
theorem added (h : Effect call s answer s') (absent : s.customer? id = none) {row' : CustomerRow}
    (found : s'.customer? id = some row') :
    ∃ c, Entry.customer? ⟨call, answer⟩ = some c ∧ c.id = id ∧ row' = c.row := by
  cases added : Entry.customer? ⟨call, answer⟩ with
  | none =>
    -- Without a new row the identities are the old ones.
    have ids := h.ids_of_customers
    rw [added, Option.toList_none, List.map_nil, List.append_nil] at ids
    have gone : s'.customer? id = none := by
      rw [Store.customer?_eq_none_iff, ids]
      exact Store.customer?_eq_none_iff.1 absent
    rw [gone] at found
    nomatch found
  | some c =>
    obtain ⟨-, rfl⟩ := h.store_of_customer? added
    obtain ⟨own, rfl⟩ :=
      Table.of_find?_append_singleton (fun row : CustomerRow => row.id) absent found
    exact ⟨c, rfl, own, rfl⟩

end Effect

/-! ## Limits over whole runs -/

namespace History

/-- No call sets the limit of the customer below the balance that there is. -/
def NeverSetBelow (id : String) (calls : List Call) : Prop :=
  ∀ before call, before ++ [call] <+: calls → ∀ limit row,
    Entry.limit? ⟨call, (call.run (of before).store).1⟩ id = some limit →
    (of before).store.customer? id = some row → row.balance.value ≤ limit.toInt

theorem neverSetBelow_append_iff {id : String} {calls : List Call} {call : Call} :
    NeverSetBelow id (calls ++ [call]) ↔
      NeverSetBelow id calls ∧ ∀ limit row,
        Entry.limit? ⟨call, (call.run (of calls).store).1⟩ id = some limit →
        (of calls).store.customer? id = some row → row.balance.value ≤ limit.toInt := by
  constructor
  · intro h
    exact ⟨fun before other part => h before other (part.trans (List.prefix_append ..)),
      h calls call List.prefix_rfl⟩
  · rintro ⟨earlier, last⟩ before other part
    rcases List.prefix_concat_iff.1 part with whole | part
    · obtain ⟨rfl, rfl⟩ := List.append_singleton_inj.1 whole
      exact last
    · exact earlier before other part

/-- The limit holds after a call if it has held before and is not set below the balance. -/
theorem within_of_moves {e : Entry} {id : String} {row row' : CustomerRow}
    (moves : e.Moves id row row') (before : row.balance.value ≤ row.debtLimit.toInt)
    (set : ∀ limit, e.limit? id = some limit → row.balance.value ≤ limit.toInt) :
    row'.balance.value ≤ row'.debtLimit.toInt := by
  by_cases rises : row.balance.value < row'.balance.value
  · exact moves.within rises
  · rw [moves.limit]
    cases hlimit : e.limit? id with
    | none =>
      rw [Option.getD_none]
      omega
    | some limit =>
      have := set limit hlimit
      rw [Option.getD_some]
      omega

/-- A customer who is added within the limit stays within it, unless it is set below the
balance. -/
theorem within_of_neverSetBelow {id : String} {calls : List Call}
    (added : ∀ c ∈ (of calls).customers, c.id = id → c.balance ≤ c.debtLimit)
    (set : NeverSetBelow id calls) {row : CustomerRow}
    (found : (of calls).store.customer? id = some row) :
    row.balance.value ≤ row.debtLimit.toInt := by
  induction calls using List.reverseRecOn generalizing row with
  | nil => nomatch found
  | append_singleton calls call ih =>
    have effect := call.effect (of calls).store
    rw [of_append_singleton] at added found
    cases before : (of calls).store.customer? id with
    | none =>
      obtain ⟨c, hc, own, rfl⟩ := effect.added before found
      have fresh : c ∈ ((of calls).add call).customers := by simp [customers_add, hc]
      exact Int64.le_iff_toInt_le.1 (added c fresh own)
    | some old =>
      obtain ⟨row', found', moves⟩ := effect.moves (sound calls) before
      obtain rfl : row' = row := Option.some.inj (found'.symm.trans found)
      have earlier : ∀ c ∈ (of calls).customers, c.id = id → c.balance ≤ c.debtLimit :=
        fun c hc => added c (by simp [customers_add, hc])
      obtain ⟨set, last⟩ := neverSetBelow_append_iff.1 set
      have held := ih earlier set before
      exact within_of_moves moves held fun limit hlimit => last limit old hlimit before

/-- Whatever happens, a balance that a call raises is at most the limit then; so a customer
who is added within the limit, and whose limit is never set below the balance, is within
the limit ever after. -/
theorem balance_within_limit (id : String) (calls : List Call) :
    (∀ call row row', (of calls).store.customer? id = some row →
      ((of calls).add call).store.customer? id = some row' →
      row.balance.value < row'.balance.value → row'.balance.value ≤ row'.debtLimit.toInt) ∧
    ((∀ c ∈ (of calls).customers, c.id = id → c.balance ≤ c.debtLimit) → NeverSetBelow id calls →
      ∀ row, (of calls).store.customer? id = some row →
        row.balance.value ≤ row.debtLimit.toInt) := by
  refine ⟨?_, fun added set row found => within_of_neverSetBelow added set found⟩
  intro call row row' before after rises
  obtain ⟨_, found, moves⟩ := (call.effect (of calls).store).moves (sound calls) before
  obtain rfl := Option.some.inj (found.symm.trans after)
  exact moves.within rises

/-- A customer buys on credit, and the limit comes down to a little above the balance. -/
def lowering : List Call :=
  (Day.opening ++ [Day.ask "r1" (.commit (Day.purchase .credit 2 400))])
    ++ [Day.ask "limit" (.setDebtLimit "otieno" 900)]

theorem balance_within_limit_of_lowering :
    (of lowering).store.customer? "otieno" = some (Day.otieno 900 400) ∧
      (Day.otieno 900 400).balance.value ≤ (Day.otieno 900 400).debtLimit.toInt ∧
      (Day.otieno 900 700).balance.value ≤ (Day.otieno 900 700).debtLimit.toInt := by
  have whole := balance_within_limit "otieno" lowering
  have before : (of lowering).store.customer? "otieno" = some (Day.otieno 900 400) := by
    decide +kernel
  have after : ((of lowering).add (Day.ask "r2" (.commit
      (Day.purchase (.split [.plain .cash 100, .plain .credit 300]) 2 400)))).store.customer?
        "otieno" = some (Day.otieno 900 700) := by
    decide +kernel
  have unset : ∀ call ∈ Day.opening ++ [Day.ask "r1" (.commit (Day.purchase .credit 2 400))],
      ∀ limit, call.operation ≠ .setDebtLimit "otieno" limit := by
    simp [Day.opening, Day.ask]
  have set : NeverSetBelow "otieno" lowering := by
    refine neverSetBelow_append_iff.2 ⟨?_, ?_⟩
    · intro earlier call part limit row hlimit
      exact absurd (Entry.limit?_eq_some_iff.1 hlimit).1 (unset call (part.subset (by simp)) limit)
    · intro limit row hlimit hrow
      obtain ⟨⟨⟩, -⟩ := Entry.limit?_eq_some_iff.1 hlimit
      have row_eq : some row = some (Day.otieno 1000 400) := hrow.symm.trans (by decide +kernel)
      rw [Option.some.inj row_eq]
      decide
  exact ⟨before, whole.2 (by decide +kernel) set _ before, whole.1 _ _ _ before after (by decide)⟩

end History

end Tillbook
