import Tillbook.Proofs.CommitFaults

/-!
# Debt limits

The limit of a customer is looked at in three places: by the check before a sale, by the statement
that moves the balance, and by the credit that is left.  The check sums in words, the statement in
tallies, and the credit that is left is a difference.  They agree on every rise, so a commit that
has passed the check is never turned away when it moves the balance: `Commit.bodyOr` comes to the
same however it would go on from there.

## Main statements

* `Credit.exists_checkLimit_iff` — the check compares the exact sum with the limit.
* `Accounts.run_moveBalance_of_beyond` — so does the statement.
* `Commit.bodyOr_eq` — it makes no difference how a commit goes on where the move is turned away.
* `Accounts.limit_rules_agree` — the rules agree.
-/

namespace Tillbook

variable {acc : Access} {s t : Store}

/-! ## The check -/

namespace Credit

variable {c : Customer} {move : Money}

/-- A rise is let through exactly if the sum is at most the limit. -/
theorem exists_checkLimit_iff (rises : 0 < move) :
    (∃ balance, checkLimit c move = .ok balance) ↔
      c.balance.toInt + move.toInt ≤ c.debtLimit.toInt := by
  have positive := Int64.lt_iff_toInt_lt.1 rises
  rw [Int64.toInt_zero] at positive
  constructor
  · rintro ⟨balance, passed⟩
    obtain ⟨sum, within⟩ := checkLimit_eq_ok_iff.1 passed
    have most : balance ≤ c.debtLimit := by
      rw [← Int64.not_lt]
      exact fun beyond => within ⟨rises, beyond⟩
    rw [Int64.le_iff_toInt_le, sum] at most
    exact most
  · intro most
    have low := c.balance.minValue_le_toInt
    obtain ⟨balance, sum⟩ : ∃ w : Money, w.toInt = c.balance.toInt + move.toInt :=
      Word.exists_toInt_eq (by omega) (most.trans c.debtLimit.toInt_le)
    refine ⟨balance, checkLimit_eq_ok_iff.2 ⟨sum, fun beyond => ?_⟩⟩
    have above := Int64.lt_iff_toInt_lt.1 beyond.2
    omega

/-- What is let through is what fits into the credit that is left. -/
theorem exists_checkLimit_iff_le {left : Money} (rises : 0 < move)
    (available : c.availableCredit = .ok left) :
    (∃ balance, checkLimit c move = .ok balance) ↔ move ≤ left := by
  rw [exists_checkLimit_iff rises, Int64.le_iff_toInt_le, Word.sub_eq_ok_iff.1 available]
  omega

end Credit

/-! ## The statement -/

namespace Accounts

variable {id : String} {row : CustomerRow} {c : Customer} {delta b : Money}

/-- The row of a customer, with a new balance. -/
theorem read_of_balance (read : row.read = .ok c) (b : Money) (now : Timestamp) :
    ({ row with balance := .exact b, updatedAt := now } : CustomerRow).read =
      .ok { c with balance := b, updatedAt := now } := by
  obtain ⟨w, -, rfl⟩ := CustomerRow.read_eq_ok_iff.1 read
  rfl

/-- A move that passes the check is made. -/
theorem run_moveBalance_of_checkLimit (writable : acc.Writable) (found : s.customer? id = some row)
    (read : row.read = .ok c) (passed : Credit.checkLimit c delta = .ok b) (now : Timestamp) :
    (moveBalance now id delta).run acc s =
      (.ok (some b),
        change id (fun row => { row with balance := .exact b, updatedAt := now }) s) := by
  obtain ⟨w, balance, rfl⟩ := CustomerRow.read_eq_ok_iff.1 read
  obtain ⟨sum, within⟩ := Credit.checkLimit_eq_ok_iff.1 passed
  rw [Int64.lt_iff_toInt_lt (y := b)] at within
  have moved : row.balance.add delta = .exact b := by
    rw [balance]
    exact Tally.add_exact sum
  exact run_moveBalance_eq_ok_iff.2 ⟨writable, row, found, moved, within, rfl⟩

/-- A rise beyond the limit is not made, also if the sum is no word. -/
theorem run_moveBalance_of_beyond (writable : acc.Writable) (found : s.customer? id = some row)
    (read : row.read = .ok c) (rises : 0 < delta)
    (beyond : c.debtLimit.toInt < c.balance.toInt + delta.toInt) (now : Timestamp) :
    (moveBalance now id delta).run acc s = (.ok none, s) := by
  obtain ⟨w, balance, rfl⟩ := CustomerRow.read_eq_ok_iff.1 read
  have above : row.debtLimit.toInt < (row.balance.add delta).value := by
    rw [balance]
    exact (Tally.lt_value_add_iff rises).2 beyond
  rw [moveBalance, Action.run_write_eq_ok_iff]
  simp only [found, if_pos (And.intro rises above)]
  exact ⟨writable, trivial⟩

end Accounts

/-! ## The commit -/

/-- Two chains that go on alike wherever their first part succeeds end alike. -/
theorem Action.run_bind_congr {α β : Type} {p : Action α} {f g : α → Action β}
    (h : ∀ a t, p.run acc s = (.ok a, t) → (f a).run acc t = (g a).run acc t) :
    (p >>= f).run acc s = (p >>= g).run acc s := by
  rw [run_bind, run_bind]
  rcases first : p.run acc s with ⟨_ | a, t⟩
  · rfl
  · exact h a t first

namespace Commit

/-- A move that has passed the check is never turned away. -/
theorem run_applyCreditOr {request : CommitRequest} {move : Option CreditMove}
    (billed : Billed request s move) (same : t.customers = s.customers) (now : Timestamp)
    (otherwise otherwise' : CreditMove → Action Unit) :
    (applyCreditOr otherwise now move).run acc t =
      (applyCreditOr otherwise' now move).run acc t := by
  cases billed with
  | unnamed | nothing => rfl
  | @something id row w delta sum named found balance portion signed limit =>
    refine Action.run_bind_congr fun told t' moved => ?_
    cases told with
    | some _ => rfl
    | none =>
      have own : row.id = id := Store.id_of_customer? found
      have found' : t.customer? row.id = some row := by
        rw [own, Store.customer?, same]
        exact found
      have read := CustomerRow.read_eq_ok_iff.2 ⟨w, balance, rfl⟩
      have writable := (Action.run_write_eq_ok_iff.1 moved).1
      have made := Accounts.run_moveBalance_of_checkLimit writable found' read limit now
      rw [made] at moved
      cases moved

/-- It makes no difference how a commit goes on where the move of the balance is turned away: it
never gets there. -/
theorem bodyOr_eq (otherwise : CreditMove → Action Unit) (station : String) (stamp : Stamp)
    (request : CommitRequest) :
    bodyOr otherwise station stamp request = body station stamp request := by
  unfold body
  apply Action.ext
  intro acc s
  unfold bodyOr recordOr
  refine Action.run_bind_congr fun _ s₁ _ => Action.run_bind_congr fun _ s₂ _ =>
    Action.run_bind_congr fun _ s₃ _ => Action.run_bind_congr fun credit s₄ computed =>
    Action.run_bind_congr fun items s₅ priced => Action.run_bind_congr fun number s₆ numbered =>
    Action.run_bind_congr fun _ s₇ inserted => Action.run_bind_congr fun oversold s₈ written => ?_
  obtain ⟨rfl, billed⟩ := billed_of_run_checkCredit computed
  obtain ⟨rfl, -⟩ := priced_of_run_priceAll priced
  obtain ⟨-, n, -, -, issued⟩ := Counters.run_nextReceiptNumber_eq_ok_iff.1 numbered
  obtain ⟨-, -, -, added⟩ := Receipts.run_insert_eq_ok_iff.1 inserted
  -- What is written in between leaves the customers as they were checked.
  have same : s₈.customers = s₃.customers := by
    rw [(written_of_run_writeItems written).store_eq, added, issued, Counters.issued_eq]
  rw [Action.run_bind, Action.run_bind,
    run_applyCreditOr billed same stamp.now otherwise overLimit]

end Commit

/-! ## The rules together -/

namespace Accounts

/-- The three rules about the limit agree.  A move that passes the check is made, and then read
back.  A rise that does not pass it is not made, whether the sum passes the limit or the words.
What passes is what fits into the credit that is left, as long as that is a word.  And so a commit
never comes to the place where the move is turned away after it has passed the check. -/
theorem limit_rules_agree {id : String} {row : CustomerRow} {c : Customer}
    (found : s.customer? id = some row) (read : row.read = .ok c) (writable : acc.Writable)
    (now : Timestamp) (delta : Money) :
    (∀ b, Credit.checkLimit c delta = .ok b →
      let moved := change id (fun row => { row with balance := .exact b, updatedAt := now }) s
      (moveBalance now id delta).run acc s = (.ok (some b), moved) ∧
        (find id).run acc moved = (.ok (some { c with balance := b, updatedAt := now }), moved)) ∧
    (0 < delta → ∀ why, Credit.checkLimit c delta = .error why →
      (moveBalance now id delta).run acc s = (.ok none, s)) ∧
    (0 < delta → ∀ left, c.availableCredit = .ok left →
      ((∃ b, Credit.checkLimit c delta = .ok b) ↔ delta ≤ left)) ∧
    ∀ otherwise station stamp request,
      Commit.bodyOr otherwise station stamp request = Commit.body station stamp request := by
  refine ⟨fun b passed => ⟨?_, ?_⟩, fun rises why rejected => ?_,
    fun rises left available => ?_, ?_⟩
  · exact run_moveBalance_of_checkLimit writable found read passed now
  · have own : row.id = id := Store.id_of_customer? found
    have later : (change id (fun row => { row with balance := .exact b, updatedAt := now })
        s).customer? id = some { row with balance := .exact b, updatedAt := now } := by
      rw [customer?_change (f := fun row => { row with balance := .exact b, updatedAt := now })
        (fun _ => rfl), found, Option.map_some, own]
      simp
    exact run_find_of_read writable.1 later (read_of_balance read b now)
  · refine run_moveBalance_of_beyond writable found read rises ?_ now
    by_contra within
    obtain ⟨b, passed⟩ := (Credit.exists_checkLimit_iff rises).2 (Int.not_lt.1 within)
    rw [rejected] at passed
    nomatch passed
  · exact Credit.exists_checkLimit_iff_le rises available
  · exact Commit.bodyOr_eq

/-- A customer who may owe all that a word can say, and who has reached it but for 100. -/
def nearEnd : CustomerRow :=
  { Day.otieno Int64.maxValue 0 with balance := .exact (Int64.maxValue - 100) }

theorem limit_rules_agree_of_nearEnd :
    let s : Store := { customers := [nearEnd] }
    let c : Customer := { nearEnd.toCustomerCard with balance := Int64.maxValue - 100 }
    s.customer? "otieno" = some nearEnd ∧ nearEnd.read = .ok c ∧ Access.Writable {} ∧
      ((moveBalance Day.moment "otieno" 100).run {} s).1 = .ok (some Int64.maxValue) ∧
      (moveBalance Day.moment "otieno" 101).run {} s = (.ok none, s) ∧
      ((∃ b, Credit.checkLimit c 101 = .ok b) ↔ (101 : Money) ≤ 100) := by
  intro s c
  have found : s.customer? "otieno" = some nearEnd := by decide +kernel
  have read : nearEnd.read = .ok c := by rfl
  have writable : Access.Writable {} := by decide
  have passed : Credit.checkLimit c 100 = .ok Int64.maxValue := by decide +kernel
  have rejected : Credit.checkLimit c 101 =
      .error (.debtLimitExceeded "otieno" (Int64.maxValue - 100) 101 Int64.maxValue) := by
    decide +kernel
  have left : c.availableCredit = .ok 100 := by decide +kernel
  obtain ⟨accepted, -⟩ := limit_rules_agree found read writable Day.moment 100
  obtain ⟨-, refused, headroom, -⟩ := limit_rules_agree found read writable Day.moment 101
  exact ⟨found, read, writable, congrArg Prod.fst (accepted Int64.maxValue passed).1,
    refused (by decide) _ rejected, headroom (by decide) 100 left⟩

end Accounts

end Tillbook
