import Tillbook.Proofs.Histories
import Tillbook.Proofs.ReceiptNumbers

/-!
# Numbering

Each station numbers its receipts one, two, three and so on, whether a number goes with a
receipt or is given out alone.  A call that fails uses up no number, and no two receipts
have the same.

## Main definitions

* `Entry.number?` — the number that a call has given out.
* `Store.Numbered` — the counters are words, and the receipts have numbers up to them.

## Main statements

* `Commit.taken_of_run` — the one way in which a commit can find its number taken.
* `Effect.issues` — a number is the next one of its station.
* `History.numbers_consecutive` — the numbers of every run.
-/

namespace Tillbook

/-! ## A number that is taken -/

theorem CustomerRow.read_ne_taken (column : String) (row : CustomerRow) :
    row.read ≠ .error (.taken column) := by
  unfold read
  cases row.balance <;> simp [StoreError.outOfRange, StoreError.taken]

theorem ProductRow.read_ne_taken (column : String) (row : ProductRow) :
    row.read ≠ .error (.taken column) := by
  unfold read
  cases row.stock <;> simp [StoreError.outOfRange, StoreError.taken]

namespace Commit

/-- The column that holds the receipt numbers. -/
abbrev numberColumn : String := "receipts.receipt_number"

theorem untaken_find {table : String} {α β γ : Type} {look : Store → Option α}
    {read : α → Except StoreError β} (hread : ∀ a, read a ≠ .error (.taken numberColumn))
    {f : Option β → Action γ} (hf : ∀ found, (f found).Untaken numberColumn) :
    (Action.read table (fun s => (look s).mapM read) >>= f).Untaken numberColumn := by
  refine (Action.untaken_read fun s h => ?_).bind hf
  cases hlook : look s with
  | none => simp [hlook, pure, Except.pure] at h
  | some a =>
    cases hreads : read a with
    | ok b => simp [hlook, hreads, Functor.map, Except.map] at h
    | error why =>
      simp only [hlook, hreads, Option.mapM_some, Functor.map, Except.map, Except.error.injEq] at h
      exact hread a (h ▸ hreads)

theorem untaken_checkStaff (id : String) : (checkStaff id).Untaken numberColumn := by
  refine (Action.untaken_read fun _ => by simp).bind fun found => ?_
  cases found with
  | none => exact Action.untaken_refuse _
  | some member =>
    dsimp only
    split
    · exact Action.untaken_pure _
    · exact Action.untaken_refuse _

theorem untaken_checkShift (id : Option String) : (checkShift id).Untaken numberColumn := by
  cases id with
  | none => exact Action.untaken_pure _
  | some id =>
    refine (Action.untaken_read fun _ => by simp).bind fun found => ?_
    cases found with
    | none => exact Action.untaken_refuse _
    | some shift =>
      dsimp only
      split
      · exact Action.untaken_pure _
      · exact Action.untaken_refuse _

theorem untaken_checkCredit (request : CommitRequest) :
    (checkCredit request).Untaken numberColumn := by
  unfold checkCredit
  cases request.customerId with
  | none => exact Action.untaken_pure _
  | some id =>
    refine untaken_find (CustomerRow.read_ne_taken _) fun found => ?_
    cases found with
    | none => exact Action.untaken_refuse _
    | some customer =>
      dsimp only
      split
      · exact (Action.untaken_ofOverflow _).bind fun _ =>
          (Action.untaken_ofRefusal _).bind fun _ => Action.untaken_pure _
      · exact Action.untaken_pure _

theorem untaken_priceAll (request : CommitRequest) (stamp : Stamp) (position : Nat)
    (lines : List CartLine) : (priceAll request stamp position lines).Untaken numberColumn := by
  induction lines generalizing position with
  | nil => exact Action.untaken_pure _
  | cons line rest ih =>
    refine Action.Untaken.bind ?_ fun _ => (ih (position + 1)).bind fun _ => Action.untaken_pure _
    refine untaken_find (ProductRow.read_ne_taken _) fun found => ?_
    cases found with
    | none => exact Action.untaken_refuse _
    | some product => exact Action.untaken_pure _

theorem untaken_nextReceiptNumber (station : String) :
    (Counters.nextReceiptNumber station).Untaken numberColumn := by
  refine (Action.untaken_put fun _ => by simp).bind fun _ =>
    (Action.untaken_write fun s => ?_).bind fun _ => Action.untaken_pure _
  dsimp only
  cases (Counters.advance station s).counter? station with
  | none => simp [StoreError.taken]
  | some c => cases hc : c.last <;> simp [Counter.read, hc, StoreError.outOfRange, StoreError.taken]

theorem untaken_insertTenders (ts : List TenderRow) :
    (Receipts.insertTenders ts).Untaken numberColumn := by
  induction ts with
  | nil => exact Action.untaken_pure _
  | cons t rest ih =>
    refine (Action.untaken_put fun s => ?_).bind fun _ => ih
    unfold Receipts.addTender
    repeat' split
    all_goals simp [bind, Except.bind, pure, Except.pure, StoreError.checkFailed,
      StoreError.taken, StoreError.danglingReference, numberColumn]

theorem untaken_writeItems (now : Timestamp) (report : List OversoldProduct)
    (items : List SaleItem) : (writeItems now report items).Untaken numberColumn := by
  induction items generalizing report with
  | nil => exact Action.untaken_pure _
  | cons i rest ih =>
    refine (Action.untaken_put fun s => ?_).bind fun _ =>
      (Action.untaken_ofOverflow _).bind fun delta =>
        (Action.untaken_write fun s => ?_).bind fun _ => ih _
    · unfold Receipts.addItem
      repeat' split
      all_goals simp [bind, Except.bind, pure, Except.pure, StoreError.checkFailed,
        StoreError.taken, StoreError.danglingReference, numberColumn]
    · dsimp only
      cases (Catalog.moveStock now i.productId delta s).product? i.productId with
      | none => simp [StoreError.taken]
      | some row =>
        cases hr : row.stock <;>
          simp [ProductRow.read, hr, Functor.map, Except.map, StoreError.outOfRange,
            StoreError.taken]

theorem untaken_applyCredit (now : Timestamp) (move : Option CreditMove) :
    (applyCreditOr overLimit now move).Untaken numberColumn := by
  cases move with
  | none => exact Action.untaken_pure _
  | some move =>
    refine (Action.untaken_write fun s => ?_).bind fun told => ?_
    · dsimp only
      cases s.customer? move.customer.id with
      | none => nofun
      | some row =>
        dsimp only
        split
        · nofun
        · cases row.balance.add move.delta <;> simp [StoreError.outOfRange, StoreError.taken]
    · cases told with
      | none => exact Action.untaken_refuse _
      | some w => exact Action.untaken_pure _

theorem taken_of_run_insert {acc : Access} {s : Store} {r : Receipt} {tenderId : Nat → String}
    (ordinary : acc.Ordinary)
    (h : ((Receipts.insert r tenderId).run acc s).1 = .error (.store (.taken numberColumn))) :
    ∃ row ∈ s.receipts, row.number = r.number := by
  rcases Action.run_bind_eq_error_iff.1 (Prod.ext h rfl) with head | ⟨_, t, -, tenders⟩
  · have taken := Action.taken_of_run_put ordinary (congrArg Prod.fst head)
    by_contra fresh
    have free : s.receipts.any (·.number == r.number) = false := by simpa using fresh
    simp only [Receipts.addHead, free, Bool.false_eq_true, if_false] at taken
    repeat' split at taken
    all_goals simp [bind, Except.bind, pure, Except.pure, StoreError.checkFailed, StoreError.taken,
      StoreError.danglingReference, numberColumn] at taken
  · exact absurd (congrArg Prod.fst tenders) (untaken_insertTenders _ acc t ordinary)

/-- A commit finds its number taken only if a receipt has the next one of the station. -/
theorem taken_of_run {station : String} {stamp : Stamp} {request : CommitRequest} {acc : Access}
    {s : Store} (ordinary : acc.Ordinary)
    (h : ((run station stamp request).run acc s).1 = .error (.store (.taken numberColumn))) :
    ∃ n, (s.lastNumber (request.originStation.getD station)).add 1 = .exact n ∧
      ∃ row ∈ s.receipts,
        row.number = ReceiptNumber.format (request.originStation.getD station) n := by
  generalize hname : request.originStation.getD station = name
  obtain ⟨_, _, form, h⟩ := (Action.untaken_ofRefusal _).rest ordinary h
  obtain ⟨-, rfl⟩ := Action.run_ofRefusal_eq_ok_iff.1 form
  rw [Action.run_atomically_fst, hname] at h
  obtain ⟨_, _, ensured, h⟩ :=
    (Action.untaken_put (f := fun s => .ok ((), Counters.ensured name s))
      fun _ => by simp).rest ordinary h
  obtain ⟨_, _, staff, h⟩ := (untaken_checkStaff _).rest ordinary h
  obtain ⟨_, _, shift, h⟩ := (untaken_checkShift _).rest ordinary h
  obtain ⟨move, _, credit, h⟩ := (untaken_checkCredit _).rest ordinary h
  obtain ⟨items, _, lines, h⟩ := (untaken_priceAll _ _ _ _).rest ordinary h
  obtain ⟨number, _, next, h⟩ := (untaken_nextReceiptNumber _).rest ordinary h
  obtain ⟨-, ⟨⟩⟩ := Action.run_put_eq_ok_iff.1 ensured
  obtain ⟨-, rfl, -⟩ := run_checkStaff_eq_ok_iff.1 staff
  obtain ⟨rfl, -⟩ := shift_of_run_checkShift shift
  obtain ⟨rfl, -⟩ := billed_of_run_checkCredit credit
  obtain ⟨rfl, -⟩ := priced_of_run_priceAll lines
  obtain ⟨-, n, following, rfl, rfl⟩ := Counters.run_nextReceiptNumber_eq_ok_iff.1 next
  rw [Counters.lastNumber_ensured] at following
  rw [Counters.issued_ensured, Counters.issued_eq] at h
  rcases Action.run_bind_eq_error_iff.1 (Prod.ext h rfl) with insert | ⟨_, t, -, rest⟩
  · exact ⟨n, following, taken_of_run_insert ordinary (congrArg Prod.fst insert)⟩
  · refine absurd (congrArg Prod.fst rest) ?_
    refine Action.Untaken.bind ?_ (fun oversold => ?_) acc t ordinary
    · exact untaken_writeItems stamp.now [] items
    · exact (untaken_applyCredit stamp.now move).bind fun _ => Action.untaken_pure _

/-- Telling the sinks adds no failure. -/
theorem error_of_action {ledger : Ledger} {stamp : Stamp} {request : CommitRequest} {acc : Access}
    {s : Store} {e : LedgerError}
    (h : (((Operation.commit request).action ledger stamp).run acc s).1 = .error e) :
    ((run ledger.station stamp request).run acc s).1 = .error e := by
  rcases Action.run_bind_eq_error_iff.1 (Prod.ext h rfl) with told | ⟨_, _, -, last⟩
  · rcases Action.run_bind_eq_error_iff.1 told with sold | ⟨_, _, -, last⟩
    · exact congrArg Prod.fst sold
    · nomatch last
  · nomatch last

end Commit

/-! ## Numbers that are given out -/

/-- The number that a call has given out, with the station. -/
def Entry.number? (e : Entry) : Option (String × String) :=
  match e.answer with
  | .ok (.committed c _) => e.call.station?.map fun station => (station, c.receipt.number)
  | .ok (.text number) => e.call.station?.map fun station => (station, number)
  | _ => none

theorem Call.station?_of_isPlain {call : Call} (h : call.operation.isPlain = true) :
    call.station? = none := by
  unfold station?
  cases op : call.operation <;> simp_all [Operation.isPlain, Operation.asks]

theorem Entry.number?_of_station? {e : Entry} (h : e.call.station? = none) : e.number? = none := by
  unfold number?
  rw [h]
  split <;> rfl

/-- A number is the next one of its station; without one every counter stands still. -/
theorem Effect.issues {call : Call} {s s' : Store} {answer : Except LedgerError Reply}
    (h : Effect call s answer s') :
    (Entry.number? ⟨call, answer⟩ = none ∧ ∀ k, s'.lastNumber k = s.lastNumber k) ∨
      ∃ station n, Entry.number? ⟨call, answer⟩ = some (station, ReceiptNumber.format station n) ∧
        (s.lastNumber station).add 1 = .exact n ∧
        ∀ k, s'.lastNumber k = if k = station then .exact n else s.lastNumber k := by
  cases h with
  | failed | stockLost => exact .inl ⟨rfl, fun _ => rfl⟩
  | told op =>
    have none := Call.station?_of_isPlain (Call.isPlain_of_asks op)
    exact .inl ⟨Entry.number?_of_station? none, fun _ => rfl⟩
  | customerAdded op =>
    have none := Call.station?_of_isPlain (Call.isPlain_of_customer? op)
    exact .inl ⟨Entry.number?_of_station? none, fun _ => rfl⟩
  | numbered op next =>
    refine .inr ⟨_, _, by simp [Entry.number?, Call.station?, op], next, fun k => ?_⟩
    rw [Counters.lastNumber_issued, next]
  | committed op booked =>
    obtain ⟨n, next, receipt⟩ := booked.number
    obtain ⟨customers, -, rfl⟩ := booked.left
    refine .inr ⟨_, n, ?_, next, fun k => ?_⟩
    · simp [Entry.number?, Call.station?, op, receipt, Commit.receiptOf]
    · rw [← next, ← Counters.lastNumber_issued]
      rfl
  | stockMoved op | staffEngaged op | staffSet op | productAdded op | limitSet op | repaid op
  | settled op | shiftKept op | shiftBegun op | shiftEnded op =>
    exact .inl ⟨Entry.number?_of_station? (by simp [Call.station?, op]), fun _ => rfl⟩

/-! ## Numbers of a run -/

/-- The counters are words, and every receipt has a number that its station has given out. -/
structure Store.Numbered (s : Store) : Prop where
  counters : ∀ station, ∃ n, s.lastNumber station = .exact n ∧ 0 ≤ n.toInt
  receipts : ∀ row ∈ s.receipts, ∃ m, row.number = ReceiptNumber.format row.station m ∧
    0 ≤ m.toInt ∧ m.toInt ≤ (s.lastNumber row.station).value

theorem Store.lastNumber_lt {s : Store} {bound : Int} (positive : 0 < bound)
    (h : ∀ k ∈ s.counters, k.last.value < bound) (station : String) :
    (s.lastNumber station).value < bound := by
  unfold lastNumber
  cases found : s.counter? station with
  | none => simpa using positive
  | some k => exact h k (List.mem_of_find?_eq_some found)

/-- A station whose counter is not at its end has a next number. -/
theorem Store.Numbered.exists_next {s : Store} (h : s.Numbered) {station : String}
    (room : (s.lastNumber station).value < Int64.maxValue.toInt) :
    ∃ n, (s.lastNumber station).add 1 = .exact n := by
  obtain ⟨last, hlast, nonnegative⟩ := h.counters station
  rw [hlast, Tally.value_exact] at room
  have low := last.minValue_le_toInt
  obtain ⟨n, hn⟩ : ∃ n : Int64, n.toInt = last.toInt + 1 :=
    Word.exists_toInt_eq (by omega) (by omega)
  exact ⟨n, by rw [hlast]; exact Tally.add_exact (by rw [hn, Int64.toInt_one])⟩

@[simp] theorem ReceiptRow.station_settled {checkoutId : String} {status : PaymentStatus}
    {reference : Option String} (row : ReceiptRow) :
    (row.settled checkoutId status reference).station = row.station := by
  obtain ⟨_, _, h⟩ := @settled_eq checkoutId status reference row
  rw [h]

namespace Effect

variable {call : Call} {s s' : Store} {answer : Except LedgerError Reply}

/-- Every counter that moves moves on by one. -/
theorem lastNumber_cases (h : Effect call s answer s') (hs : s.Numbered) (station : String) :
    ∃ n n', s.lastNumber station = .exact n ∧ s'.lastNumber station = .exact n' ∧ 0 ≤ n.toInt ∧
      (n' = n ∨ n'.toInt = n.toInt + 1) := by
  obtain ⟨n, hn, nonnegative⟩ := hs.counters station
  rcases h.issues with ⟨-, kept⟩ | ⟨other, n', -, next, moved⟩
  · exact ⟨n, n, hn, (kept station).trans hn, nonnegative, .inl rfl⟩
  · by_cases own : station = other
    · subst own
      rw [hn] at next
      exact ⟨n, n', hn, by rw [moved, if_pos rfl], nonnegative,
        .inr (Tally.add_exact_eq_exact_iff.1 next)⟩
    · exact ⟨n, n, hn, by rw [moved, if_neg own, hn], nonnegative, .inl rfl⟩

/-- A numbered store stays numbered. -/
theorem keeps_numbered (h : Effect call s answer s') (hs : s.Numbered) : s'.Numbered := by
  have old : ∀ row : ReceiptRow, (∃ m, row.number = ReceiptNumber.format row.station m ∧
      0 ≤ m.toInt ∧ m.toInt ≤ (s.lastNumber row.station).value) →
      ∃ m, row.number = ReceiptNumber.format row.station m ∧
        0 ≤ m.toInt ∧ m.toInt ≤ (s'.lastNumber row.station).value := by
    rintro row ⟨m, number, nonnegative, most⟩
    obtain ⟨n, n', hn, hn', -, moved⟩ := h.lastNumber_cases hs row.station
    refine ⟨m, number, nonnegative, ?_⟩
    rw [hn, Tally.value_exact] at most
    rw [hn', Tally.value_exact]
    rcases moved with rfl | moved <;> omega
  constructor
  · intro station
    obtain ⟨n, n', -, hn', nonnegative, moved⟩ := h.lastNumber_cases hs station
    refine ⟨n', hn', ?_⟩
    rcases moved with rfl | moved <;> omega
  · intro row hrow
    cases h with
    | @committed request c _ op booked =>
      generalize request.originStation.getD call.ledger.station = name at booked
      obtain ⟨n, next, receipt⟩ := booked.number
      obtain ⟨customers, -, rfl⟩ := booked.left
      rcases List.mem_append.1 hrow with before | new
      · exact old row (hs.receipts row before)
      · obtain ⟨last, hlast, nonnegative⟩ := hs.counters name
        have moved := next
        rw [hlast, Tally.add_exact_eq_exact_iff, Int64.toInt_one] at moved
        have now := Counters.lastNumber_issued name name s
        rw [if_pos rfl, next] at now
        rw [List.mem_singleton.1 new, receipt]
        refine ⟨n, rfl, by omega, ?_⟩
        change n.toInt ≤ ((Counters.issued name s).lastNumber name).value
        rw [now, Tally.value_exact]
    | settled op ends waiting =>
      obtain ⟨before, hbefore, rfl⟩ := List.mem_map.1 hrow
      have kept := hs.receipts before hbefore
      exact old _ (by simpa using kept)
    | numbered op next =>
      rw [Counters.issued_eq] at hrow
      exact old row (hs.receipts row hrow)
    | _ => exact old row (hs.receipts row hrow)

end Effect

namespace History

/-- The numbers that a station has given out, in their order. -/
def numbers (h : History) (station : String) : List String :=
  ((h.entries.filterMap (·.number?)).filter (·.1 == station)).map (·.2)

/-- The first numbers of a station. -/
def firstNumbers (station : String) (k : Nat) : List String :=
  (List.range k).map fun i => ReceiptNumber.format station (Int64.ofNat (i + 1))

theorem numbers_append (h : History) (e : Entry) (s : Store) (station : String) :
    numbers ⟨h.entries ++ [e], s⟩ station =
      h.numbers station ++ (e.number?.toList.filter (·.1 == station)).map (·.2) := by
  unfold numbers
  rw [filterMap_append_singleton, List.filter_append, List.map_append]

theorem numbered (calls : List Call) : (of calls).store.Numbered := by
  apply induction (P := fun h => h.store.Numbered)
  · exact ⟨fun station => ⟨0, rfl, Int.le_refl 0⟩, List.forall_mem_nil _⟩
  · exact fun h call answer s' hs effect => effect.keeps_numbered hs

/-- A station has given out as many numbers as its counter says. -/
theorem numbers_eq (calls : List Call) (station : String) :
    ∃ k : Nat, (of calls).store.lastNumber station = .exact (Int64.ofNat k) ∧
      (k : Int) ≤ Int64.maxValue.toInt ∧ (of calls).numbers station = firstNumbers station k := by
  apply induction (P := fun h => ∃ k : Nat, h.store.lastNumber station = .exact (Int64.ofNat k) ∧
      (k : Int) ≤ Int64.maxValue.toInt ∧ h.numbers station = firstNumbers station k)
  · exact ⟨0, rfl, by decide, rfl⟩
  · rintro h call answer s' ⟨k, last, most, numbers⟩ effect
    rcases effect.issues with ⟨none, kept⟩ | ⟨other, n, some, next, moved⟩
    · refine ⟨k, (kept station).trans last, most, ?_⟩
      rw [numbers_append, numbers, none]
      exact List.append_nil _
    · by_cases own : station = other
      · subst own
        have following := next
        rw [last, Tally.add_exact_eq_exact_iff, Int64.toInt_one] at following
        have bound := n.toInt_le
        rw [Int64.toInt_maxValue] at most bound
        rw [Int64.toInt_ofNat_of_lt (by omega)] at following
        have fits : n = Int64.ofNat (k + 1) := by
          rw [← Int64.toInt_inj, Int64.toInt_ofNat_of_lt (by omega), following]
          rfl
        refine ⟨k + 1, by rw [moved, if_pos rfl, fits], ?_, ?_⟩
        · rw [Int64.toInt_maxValue]
          omega
        · rw [numbers_append, numbers, some, firstNumbers, firstNumbers, List.range_succ,
            List.map_append, fits]
          simp
      · refine ⟨k, by rw [moved, if_neg own, last], most, ?_⟩
        rw [numbers_append, numbers, some]
        simp [Ne.symm own]

/-- The numbers that a station gives out, with a receipt or alone, are the first ones in
their order, and its counter is how many there are.  No two receipts have the same number,
and no commit ever finds its number taken. -/
theorem numbers_consecutive (calls : List Call) :
    (∀ station, ∃ k : Nat, (of calls).numbers station = firstNumbers station k ∧
      (k : Int) ≤ Int64.maxValue.toInt ∧
      (Counters.last station).run {} (of calls).store =
        (.ok (Int64.ofNat k), (of calls).store)) ∧
    ((of calls).store.receipts.map (·.number)).Nodup ∧
    ∀ (call : Call) request, call.operation = .commit request →
      (call.run (of calls).store).1 ≠ .error (.store (.taken "receipts.receipt_number")) := by
  refine ⟨fun station => ?_, (sound calls).numbers, fun call request op taken => ?_⟩
  · obtain ⟨k, last, most, numbers⟩ := numbers_eq calls station
    exact ⟨k, numbers, most, Counters.run_last_eq_ok_iff.2 ⟨by decide, last, rfl⟩⟩
  · obtain ⟨ledger, stamp, _, acc, ordinary⟩ := call
    obtain rfl : _ = Operation.commit request := op
    obtain ⟨n, next, row, hrow, same⟩ :=
      Commit.taken_of_run ordinary (Commit.error_of_action taken)
    obtain ⟨m, number, nonnegative, most⟩ := (numbered calls).receipts row hrow
    obtain ⟨last, hlast, hnonnegative⟩ :=
      (numbered calls).counters (request.originStation.getD ledger.station)
    rw [hlast, Tally.add_exact_eq_exact_iff, Int64.toInt_one] at next
    have both := ReceiptNumber.format_inj nonnegative (by omega) (number.symm.trans same)
    rw [both.1, both.2, hlast, Tally.value_exact] at most
    omega

/-- Two stations sell and give out numbers, and a sale to a stranger fails in between. -/
theorem numbers_consecutive_of_two_stations :
    let away := { Day.purchase .cash 1 200 with originStation := some "POS-01-0" }
    let lost := { Day.purchase .cash 1 200 with customerId := some "wanjiru" }
    let calls := Day.opening ++
      [Day.ask "r1" (.commit (Day.purchase .cash 1 200)), Day.ask "r2" (.commit away),
        Day.ask "r3" (.commit lost), Day.ask "n" (.nextNumber "POS-01"),
        Day.ask "r4" (.commit (Day.purchase .cash 1 200))]
    (of calls).numbers "POS-01" = ["POS-01-00001", "POS-01-00002", "POS-01-00003"] ∧
      (of calls).numbers "POS-01-0" = ["POS-01-0-00001"] ∧
      ((Day.ask "r5" (.commit away)).run (of calls).store).1 ≠
        .error (.store (.taken "receipts.receipt_number")) := by
  intro away lost calls
  exact ⟨by decide +kernel, by decide +kernel, (numbers_consecutive calls).2.2 _ away rfl⟩

end History

end Tillbook
