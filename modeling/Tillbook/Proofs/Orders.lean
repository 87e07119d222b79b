import Tillbook.Proofs.Independence
import Tillbook.Proofs.Reconciliations

/-!
# Requests in any order

Independent requests can be handed in in any order.  Each of them is answered as the store
before all of them would have answered it, and the stocks, the balances, the counters and the
reports of the running shifts end as they would in any other order.  Only the numbers of the
receipts and the lists of what was sold beyond the stock depend on the order.

## Main definitions

* `Entry.AnsweredBy` — a request is answered as a store would have answered it.
* `FreshCalls` — identities are given out once.
* `Store.Agrees` — two stores have the same stocks, balances, counters and reports.

## Main statements

* `History.after_submissions` — a run of requests, one by one.
* `Store.After.ofLines_eq`, `Store.After.exists_zReport` — the totals of a shift and its report
  do not depend on the order of its receipts.
* `History.commits_in_any_order` — the runs of a list of requests in two orders.
-/

namespace Tillbook

/-! ## Answers -/

/-- The request that a call hands in, with the station that numbers its receipt. -/
def Call.submission? (call : Call) : Option Submission :=
  match call.operation with
  | .commit request => some ⟨request.originStation.getD call.ledger.station, request⟩
  | _ => none

theorem Call.submission?_eq_some_iff {call : Call} {x : Submission} :
    call.submission? = some x ↔ call.operation = .commit x.request ∧
      x.station = x.request.originStation.getD call.ledger.station := by
  obtain ⟨station, request⟩ := x
  unfold submission?
  cases call.operation <;> simp
  constructor
  · rintro ⟨rfl, rfl⟩
    exact ⟨rfl, rfl⟩
  · rintro ⟨rfl, rfl⟩
    exact ⟨rfl, rfl⟩

/-- The requests that some calls hand in. -/
def submissions (calls : List Call) : List Submission := calls.filterMap (·.submission?)

/-- A request is answered as a store would have answered it: with its first fault there, or with
a receipt and lines that are read off the request and the catalog there. -/
inductive Entry.AnsweredBy (s : Store) (e : Entry) (x : Submission) : Prop
  | refused {err : LedgerError} (fault : Commit.fault? x.request s = some err)
      (answer : e.answer = .error err)
  | booked {c : Committed} {n : Int64} (faultless : Commit.fault? x.request s = none)
      (answer : e.answer = .ok (.committed c (e.call.ledger.tell c)))
      (receipt : c.receipt =
        Commit.receiptOf x.request e.call.stamp x.station (ReceiptNumber.format x.station n))
      (lines : Commit.Priced x.request e.call.stamp s 0 x.request.items c.items)

/-! ## New identities -/

/-- Two operations were given different identities. -/
structure Stamp.Apart (a b : Stamp) : Prop where
  id : a.id ≠ b.id
  itemId : ∀ i j, a.itemId i ≠ b.itemId j
  tenderId : ∀ i j, a.tenderId i ≠ b.tenderId j

/-- Some calls were given identities that are new in the store, and none of them twice. -/
structure FreshCalls (s : Store) (calls : List Call) : Prop where
  each : ∀ call ∈ calls, call.stamp.Fresh s
  apart : calls.Pairwise fun a b => a.stamp.Apart b.stamp

theorem Stamp.Apart.symm {a b : Stamp} (h : a.Apart b) : b.Apart a where
  id := h.id.symm
  itemId := fun i j => (h.itemId j i).symm
  tenderId := fun i j => (h.tenderId j i).symm

theorem FreshCalls.perm {s : Store} {calls calls' : List Call} (h : FreshCalls s calls)
    (perm : calls.Perm calls') : FreshCalls s calls' where
  each := fun call hcall => h.each call (perm.mem_iff.2 hcall)
  apart := (perm.pairwise_iff fun apart => apart.symm).1 h.apart

theorem Commit.Priced.exists_position {request : CommitRequest} {stamp : Stamp} {s : Store}
    {position : Nat} {lines : List CartLine} {items : List SaleItem}
    (h : Priced request stamp s position lines items) {i : SaleItem} (hi : i ∈ items) :
    ∃ j, i.id = stamp.itemId j := by
  induction h with
  | nil => cases hi
  | @cons position line lines items row w found stock rest ih =>
    rcases List.mem_cons.1 hi with rfl | later
    · exact ⟨position, rfl⟩
    · exact ih later

/-- Identities stay new when others are used up. -/
theorem Stamp.Fresh.booked {stamp other : Stamp} {s s' : Store} {station : String}
    {request : CommitRequest} {c : Committed} (fresh : stamp.Fresh s) (apart : other.Apart stamp)
    (h : Commit.Booked station other request s c s') : stamp.Fresh s' where
  id := by
    obtain ⟨n, -, receipt⟩ := h.number
    intro row hrow
    rw [h.receipts_eq] at hrow
    rcases List.mem_append.1 hrow with before | own
    · exact fresh.id row before
    · rw [List.mem_singleton.1 own, receipt]
      exact apart.id
  itemId := by
    intro item hitem position
    rw [h.items_eq] at hitem
    rcases List.mem_append.1 hitem with before | own
    · exact fresh.itemId item before position
    · obtain ⟨j, same⟩ := h.lines.exists_position own
      rw [same]
      exact apart.itemId j position
  tenderId := by
    intro t ht position
    rw [h.tenders_eq] at ht
    rcases List.mem_append.1 ht with before | own
    · exact fresh.tenderId t before position
    · rw [(place_of_mem_tenderRows own).2]
      exact apart.tenderId t.position position
  itemsApart := fresh.itemsApart
  tendersApart := fresh.tendersApart

/-! ## One more request -/

namespace History

/-- A request is answered as the store before the others would have answered it, and is booked
just if it has no fault there. -/
theorem answeredBy_of_submission {calls : List Call} {call : Call} {x : Submission} {s : Store}
    {done : List Submission} (submits : call.submission? = some x)
    (writable : call.access.Writable) (fresh : call.stamp.Fresh (of calls).store)
    (moderate : (of calls).store.Moderate) (after : s.After (of calls).store done)
    (before : s.Sound) (stocks : ∀ row ∈ s.products, ∃ w, row.stock = .exact w)
    (apart : ∀ y ∈ done, y.request.Independent x.request) :
    Entry.AnsweredBy s ⟨call, (call.run (of calls).store).1⟩ x ∧
      s.After (call.run (of calls).store).2
        (done ++ if (Commit.fault? x.request s).isNone then [x] else []) := by
  obtain ⟨op, station⟩ := Call.submission?_eq_some_iff.1 submits
  have answers := answers_of_commit op writable fresh moderate
  rw [after.fault?_eq before (sound calls) apart] at answers
  have effect := call.effect (of calls).store
  cases fault : Commit.fault? x.request s with
  | some err =>
    rw [fault] at answers
    have refused : (call.run (of calls).store).1 = .error err := answers
    rw [refused] at effect
    rw [effect.store_of_commit_error op]
    exact ⟨.refused fault refused, by simpa using after⟩
  | none =>
    rw [fault] at answers
    obtain ⟨reply, told⟩ := answers
    change (call.run (of calls).store).1 = .ok reply at told
    rw [told] at effect
    obtain ⟨c, rfl, booked⟩ := effect.booked_of_commit_ok op
    rw [← station] at booked
    obtain ⟨n, -, receipt⟩ := booked.number
    refine ⟨.booked fault told receipt (booked.lines.of_after after stocks), ?_⟩
    exact booked.after after (sound calls) (numbered calls)
      (moderate.exact_stock (soundProducts calls))

/-- Identities stay new as long as others are used up. -/
theorem fresh_of_submissions {calls first : List Call} {stamp : Stamp}
    (fresh : stamp.Fresh (of calls).store) (asked : ∀ call ∈ first, call.submission?.isSome)
    (apart : ∀ call ∈ first, call.stamp.Apart stamp) :
    stamp.Fresh (of (calls ++ first)).store := by
  induction first using List.reverseRecOn with
  | nil => rwa [List.append_nil]
  | append_singleton first call ih =>
    rw [List.forall_mem_append, List.forall_mem_singleton] at asked apart
    have sofar := ih asked.1 apart.1
    obtain ⟨x, submits⟩ := Option.isSome_iff_exists.1 asked.2
    obtain ⟨op, -⟩ := Call.submission?_eq_some_iff.1 submits
    have effect := call.effect (of (calls ++ first)).store
    rw [← List.append_assoc, of_append_singleton, add]
    cases told : (call.run (of (calls ++ first)).store).1 with
    | error err =>
      rw [told] at effect
      rwa [effect.store_of_commit_error op]
    | ok reply =>
      rw [told] at effect
      obtain ⟨c, -, booked⟩ := effect.booked_of_commit_ok op
      exact sofar.booked apart.2 booked

/-- Requests that are independent of each other leave moderate numbers. -/
theorem moderate_of_after {calls first : List Call} (small : (of calls).store.Below (2 ^ 61))
    (few : first.length < 2 ^ 40)
    (independent : (submissions first).Pairwise fun a b => a.request.Independent b.request)
    {accepted : Submission → Bool}
    (after : (of calls).store.After (of (calls ++ first)).store
      ((submissions first).filter accepted)) : (of (calls ++ first)).store.Moderate := by
  apply after.moderate small (sound _) (counters_nodup _)
  · have listed : (submissions first).length ≤ first.length := List.length_filterMap_le ..
    have kept := List.length_filter_le accepted (submissions first)
    omega
  · exact independent.filter _

/-- Requests that are independent of each other are answered as the store before them would have
answered each of them, and leave that store with the sums of what they move. -/
theorem after_submissions {calls first : List Call} (small : (of calls).store.Below (2 ^ 61))
    (asked : ∀ call ∈ first, call.submission?.isSome ∧ call.access.Writable)
    (fresh : FreshCalls (of calls).store first) (few : first.length < 2 ^ 40)
    (independent : (submissions first).Pairwise fun a b => a.request.Independent b.request) :
    (of calls).store.After (of (calls ++ first)).store
        ((submissions first).filter fun x => (Commit.fault? x.request (of calls).store).isNone) ∧
      List.Forall₂ (Entry.AnsweredBy (of calls).store) ((of (calls ++ first)).since calls.length)
        (submissions first) := by
  induction first using List.reverseRecOn with
  | nil =>
    rw [List.append_nil, since_length]
    exact ⟨.refl _, .nil⟩
  | append_singleton first call ih =>
    rw [List.forall_mem_append, List.forall_mem_singleton] at asked
    obtain ⟨x, submits⟩ := Option.isSome_iff_exists.1 asked.2.1
    have one : submissions (first ++ [call]) = submissions first ++ [x] := by
      rw [submissions, filterMap_append_singleton, submits]
      rfl
    rw [one, List.pairwise_append] at independent
    have stamps := List.pairwise_append.1 fresh.apart
    rw [List.length_append] at few
    obtain ⟨after, answers⟩ := ih asked.1
      ⟨fun c hc => fresh.each c (List.mem_append_left _ hc), stamps.1⟩ (by omega) independent.1
    have new : call.stamp.Fresh (of (calls ++ first)).store := by
      refine fresh_of_submissions (fresh.each call (by simp)) (fun c hc => (asked.1 c hc).1) ?_
      exact fun c hc => stamps.2.2 c hc call List.mem_cons_self
    have moderate := moderate_of_after small (by omega) independent.1 after
    have stocks : ∀ row ∈ (of calls).store.products, ∃ w, row.stock = .exact w := by
      intro row hrow
      have below := small.stocks row hrow
      exact ((soundProducts calls row hrow).stock).exact_of_lt (by omega)
    obtain ⟨answer, after'⟩ := answeredBy_of_submission submits asked.2.2 new moderate after
      (sound calls) stocks fun y hy =>
        independent.2.2 y (List.mem_of_mem_filter hy) x List.mem_cons_self
    rw [one, List.filter_append, List.filter_singleton, Bool.cond_eq_ite, ← List.append_assoc,
      since_append_singleton, of_append_singleton, add]
    exact ⟨after', List.rel_append answers (.cons answer .nil)⟩

end History

/-! ## Two orders -/

/-- Two stores have the same staff and shifts, the same stocks, balances and counters, and the
same reports of the running shifts. -/
structure Store.Agrees (t t' : Store) : Prop where
  staff : t.staff = t'.staff
  shifts : t.shifts = t'.shifts
  stocks : ∀ id, (t.product? id).map (·.stock) = (t'.product? id).map (·.stock)
  balances : ∀ id, (t.customer? id).map (·.balance) = (t'.customer? id).map (·.balance)
  counters : ∀ station, t.lastNumber station = t'.lastNumber station
  reports : ∀ shift ∈ t.shifts, shift.isOpen = true →
    (t.receiptsOf shift.id).length < 90000000 → ∀ acc : Access, acc.Readable →
      ∃ z, (Till.zReport shift.id).run acc t = (.ok z, t) ∧
        (Till.zReport shift.id).run acc t' = (.ok z, t')

theorem Tally.eq_of_value_eq {a b : Tally} (ha : ∃ w, a = .exact w) (hb : ∃ w, b = .exact w)
    (h : a.value = b.value) : a = b := by
  obtain ⟨v, rfl⟩ := ha
  obtain ⟨w, rfl⟩ := hb
  rw [Int64.toInt_inj.1 h]

namespace Store.After

variable {s t t' : Store} {done done' : List Submission}

theorem stock_eq (h : s.After t done) (h' : s.After t' done') (perm : done.Perm done')
    (exact : ∀ row ∈ t.products, ∃ w, row.stock = .exact w)
    (exact' : ∀ row ∈ t'.products, ∃ w, row.stock = .exact w) (id : String) :
    (t.product? id).map (·.stock) = (t'.product? id).map (·.stock) := by
  cases before : s.product? id with
  | none => rw [h.unknown id before, h'.unknown id before]
  | some row =>
    obtain ⟨_, stock, now, sum⟩ := h.products id row before
    obtain ⟨_, stock', now', sum'⟩ := h'.products id row before
    have word := exact _ (List.mem_of_find?_eq_some now)
    have word' := exact' _ (List.mem_of_find?_eq_some now')
    have same : stock = stock' := by
      apply Tally.eq_of_value_eq word word'
      rw [sum, sum', (perm.map _).sum_eq]
    rw [now, now', Option.map_some, Option.map_some, same]

theorem balance_eq (h : s.After t done) (h' : s.After t' done') (perm : done.Perm done')
    (sound : t.Sound) (sound' : t'.Sound) (id : String) :
    (t.customer? id).map (·.balance) = (t'.customer? id).map (·.balance) := by
  cases before : s.customer? id with
  | none => rw [h.strangers id before, h'.strangers id before]
  | some row =>
    obtain ⟨_, now, -, sum⟩ := h.customers id row before
    obtain ⟨_, now', -, sum'⟩ := h'.customers id row before
    have word := (sound.accounts _ (List.mem_of_find?_eq_some now)).balance
    have word' := (sound'.accounts _ (List.mem_of_find?_eq_some now')).balance
    have same := Tally.eq_of_value_eq word word' (by rw [sum, sum', (perm.map _).sum_eq])
    rw [now, now', Option.map_some, Option.map_some, same]

theorem lastNumber_eq (h : s.After t done) (h' : s.After t' done') (perm : done.Perm done')
    (numbered : t.Numbered) (numbered' : t'.Numbered) (station : String) :
    t.lastNumber station = t'.lastNumber station := by
  obtain ⟨n, word, -⟩ := numbered.counters station
  obtain ⟨n', word', -⟩ := numbered'.counters station
  apply Tally.eq_of_value_eq ⟨n, word⟩ ⟨n', word'⟩
  rw [h.counters, h'.counters, perm.countP_eq]

/-- The totals of a shift are sums over its receipts, so they do not depend on the order of
these. -/
theorem ofLines_eq (h : s.After t done) (h' : s.After t' done') (perm : done.Perm done')
    (sound : t.Sound) (sound' : t'.Sound) (carried : t.Carried) (carried' : t'.Carried)
    {shiftId : String} (few : (t.receiptsOf shiftId).length < 90000000) :
    ∃ totals, ShiftTotals.ofLines (Shifts.linesOf shiftId t) = .ok totals ∧
      ShiftTotals.ofLines (Shifts.linesOf shiftId t') = .ok totals := by
  have same_count : (t.receiptsOf shiftId).length = (t'.receiptsOf shiftId).length := by
    rw [h.receipts, h'.receipts, perm.countP_eq]
  have same_takings : ∀ m, t.takings shiftId m = t'.takings shiftId m := by
    intro m
    rw [h.takings, h'.takings, (perm.map _).sum_eq]
  obtain ⟨totals, sums, exact, count⟩ := carried.exists_exact_totals sound shiftId (by omega)
  obtain ⟨totals', sums', exact', count'⟩ := carried'.exists_exact_totals sound' shiftId (by omega)
  have same : totals = totals' := by
    apply ShiftTotals.eq_of_toInt_eq
    · intro m
      rw [exact, exact', same_takings]
    · rw [count, count', same_count]
  exact ⟨totals, sums, same ▸ sums'⟩

/-- So the report of a running shift does not depend on it either. -/
theorem exists_zReport (h : s.After t done) (h' : s.After t' done') (perm : done.Perm done')
    (sound : t.Sound) (sound' : t'.Sound) (carried : t.Carried) (carried' : t'.Carried)
    (shifts : t.SoundShifts) (shifts' : t'.SoundShifts) {shift : Shift} (hshift : shift ∈ s.shifts)
    (named : ¬Text.Blank shift.id) (running : shift.isOpen = true)
    (few : (t.receiptsOf shift.id).length < 90000000) {acc : Access} (readable : acc.Readable) :
    ∃ z, (Till.zReport shift.id).run acc t = (.ok z, t) ∧
      (Till.zReport shift.id).run acc t' = (.ok z, t') := by
  obtain ⟨totals, sums, sums'⟩ := h.ofLines_eq h' perm sound sound' carried carried' few
  have found := shifts.shift?_of_mem (h.shifts ▸ hshift)
  have found' := shifts'.shift?_of_mem (h'.shifts ▸ hshift)
  exact ⟨_, Till.run_zReport_of_totals readable named found running sums,
    Till.run_zReport_of_totals readable named found' running sums'⟩

end Store.After

namespace History

/-- Independent requests may be handed in in any order.  Each is answered as the store before all
of them would have answered it, and both orders leave stores that agree. -/
theorem commits_in_any_order (calls first second : List Call)
    (small : (of calls).store.Below (2 ^ 61))
    (named : ∀ call ∈ calls, ¬Text.Blank call.stamp.id)
    (asked : ∀ call ∈ first ++ second, call.submission?.isSome ∧ call.access.Writable)
    (fresh : FreshCalls (of calls).store first) (fresh' : FreshCalls (of calls).store second)
    (perm : (submissions first).Perm (submissions second)) (few : first.length < 2 ^ 40)
    (independent : (submissions first).Pairwise fun a b => a.request.Independent b.request) :
    List.Forall₂ (Entry.AnsweredBy (of calls).store) ((of (calls ++ first)).since calls.length)
        (submissions first) ∧
      List.Forall₂ (Entry.AnsweredBy (of calls).store) ((of (calls ++ second)).since calls.length)
        (submissions second) ∧
      (of (calls ++ first)).store.Agrees (of (calls ++ second)).store := by
  rw [List.forall_mem_append] at asked
  have length : second.length = first.length := by
    have all := List.filterMap_length_eq_length.2 fun c hc => (asked.1 c hc).1
    have all' := List.filterMap_length_eq_length.2 fun c hc => (asked.2 c hc).1
    rw [← all, ← all']
    exact perm.length_eq.symm
  have few' : second.length < 2 ^ 40 := length ▸ few
  have independent' :
      (submissions second).Pairwise fun a b => a.request.Independent b.request :=
    (perm.pairwise_iff fun h => h.symm).1 independent
  obtain ⟨after, answers⟩ := after_submissions small asked.1 fresh few independent
  obtain ⟨after', answers'⟩ := after_submissions small asked.2 fresh' few' independent'
  have stocks := (moderate_of_after small few independent after).exact_stock (soundProducts _)
  have stocks' := (moderate_of_after small few' independent' after').exact_stock (soundProducts _)
  have accepted := perm.filter fun x => (Commit.fault? x.request (of calls).store).isNone
  refine ⟨answers, answers', {
    staff := after.staff.trans after'.staff.symm
    shifts := after.shifts.trans after'.shifts.symm
    stocks := after.stock_eq after' accepted stocks stocks'
    balances := after.balance_eq after' accepted (sound _) (sound _)
    counters := after.lastNumber_eq after' accepted (numbered _) (numbered _)
    reports := ?_ }⟩
  intro shift hshift running few acc readable
  have before : shift ∈ (of calls).store.shifts := after.shifts ▸ hshift
  obtain ⟨call, hcall, own⟩ := stamped_of_shift calls shift before
  exact after.exists_zReport after' accepted (sound _) (sound _) (carried _) (carried _)
    (soundShifts _) (soundShifts _) before (own ▸ named call hcall) running few readable

end History

/-! ## Three requests -/

namespace Day

/-- The identities of what belongs to a receipt begin with its own, so receipts with names of one
length have different ones. -/
theorem apart {a b : String} (ne : a ≠ b) (length : a.toList.length = b.toList.length)
    (operation operation' : Operation) :
    (ask a operation).stamp.Apart (ask b operation').stamp := by
  have marked_ne (mark : Char) (i j : Nat) : marked a mark i ≠ marked b mark j := by
    intro same
    have heads := List.append_inj_left (String.ofList_inj.1 same) length
    exact ne (String.toList_inj.1 heads)
  exact ⟨ne, marked_ne '+', marked_ne '#'⟩

/-- A sale in cash, one on credit that is too much, and a return at another station. -/
def three (a b c : String) : List Call :=
  [ask a (.commit (shiftPurchase .cash 1 200)), ask b (.commit (shiftPurchase .credit 4 800)),
    ask c (.commit
      { shiftPurchase .cash 2 400 with isReturn := true, originStation := some "POS-02" })]

theorem fresh_three {a b c : String} (two : ∀ id ∈ [a, b, c], id.toList.length = 2)
    (different : [a, b, c].Nodup)
    (receipts : ∀ id ∈ [a, b, c], ∀ row ∈ (History.of shift).store.receipts, row.id ≠ id)
    (items : ∀ id ∈ [a, b, c], ∀ item ∈ (History.of shift).store.items,
      item.id.toList.take 2 ≠ id.toList)
    (tenders : ∀ id ∈ [a, b, c], ∀ t ∈ (History.of shift).store.tenders,
      t.id.toList.take 2 ≠ id.toList) :
    FreshCalls (History.of shift).store (three a b c) := by
  have each {id : String} (hid : id ∈ [a, b, c]) (operation : Operation) :
      (ask id operation).stamp.Fresh (History.of shift).store :=
    fresh (two id hid) (receipts id hid) (items id hid) (tenders id hid) operation
  have apart {id id' : String} (hid : id ∈ [a, b, c]) (hid' : id' ∈ [a, b, c]) (ne : id ≠ id')
      (operation operation' : Operation) :
      (ask id operation).stamp.Apart (ask id' operation').stamp :=
    Day.apart ne ((two id hid).trans (two id' hid').symm) operation operation'
  have ⟨ab, ac, bc⟩ : a ≠ b ∧ a ≠ c ∧ b ≠ c := by
    simpa [not_or, and_assoc] using different
  have ha : a ∈ [a, b, c] := by simp
  have hb : b ∈ [a, b, c] := by simp
  have hc : c ∈ [a, b, c] := by simp
  constructor
  · unfold three
    simp only [List.forall_mem_cons]
    exact ⟨each ha _, each hb _, each hc _, List.forall_mem_nil _⟩
  · unfold three
    simp only [List.pairwise_cons, List.forall_mem_cons]
    exact ⟨⟨apart ha hb ab _ _, apart ha hc ac _ _, List.forall_mem_nil _⟩,
      ⟨apart hb hc bc _ _, List.forall_mem_nil _⟩, List.forall_mem_nil _, .nil⟩

end Day

namespace History

/-- In whatever order three requests come, only the one on credit is refused, and the stores in
the end agree. -/
theorem commits_in_any_order_of_three :
    let s := (of Day.shift).store
    let first := Day.three "a1" "a2" "a3"
    let second := (Day.three "b1" "b2" "b3").reverse
    s.Below (2 ^ 61) ∧
      (submissions first).map (fun x => Commit.fault? x.request s) =
        [none, some (.refused (.debtLimitExceeded "otieno" 300 800 1000)), none] ∧
      List.Forall₂ (Entry.AnsweredBy s) ((of (Day.shift ++ first)).since Day.shift.length)
        (submissions first) ∧
      List.Forall₂ (Entry.AnsweredBy s) ((of (Day.shift ++ second)).since Day.shift.length)
        (submissions second) ∧
      (of (Day.shift ++ first)).store.Agrees (of (Day.shift ++ second)).store := by
  intro s first second
  have small : (of Day.shift).store.Below (2 ^ 61) :=
    ⟨by decide +kernel, by decide +kernel, by decide +kernel⟩
  have named : ∀ call ∈ Day.shift, ¬Text.Blank call.stamp.id := by decide +kernel
  have asked : ∀ call ∈ Day.three "a1" "a2" "a3" ++ (Day.three "b1" "b2" "b3").reverse,
      call.submission?.isSome ∧ call.access.Writable := by
    decide
  have perm : (submissions (Day.three "a1" "a2" "a3")).Perm
      (submissions (Day.three "b1" "b2" "b3").reverse) :=
    (List.reverse_perm _).symm
  have fresh : FreshCalls (of Day.shift).store (Day.three "a1" "a2" "a3") :=
    Day.fresh_three (by decide) (by decide) (by decide +kernel) (by decide +kernel)
      (by decide +kernel)
  have fresh' : FreshCalls (of Day.shift).store (Day.three "b1" "b2" "b3") :=
    Day.fresh_three (by decide) (by decide) (by decide +kernel) (by decide +kernel)
      (by decide +kernel)
  have independent : (submissions (Day.three "a1" "a2" "a3")).Pairwise fun x y =>
      x.request.Independent y.request := by
    have paid (request other : CommitRequest) (unnamed : request.checkoutId = none)
        (nothing : request.payment.creditPortion request.total = 0) :
        request.Independent other :=
      ⟨by simp [unnamed], fun id bills => absurd bills.2 (by simp [nothing])⟩
    refine .cons ?_ (.cons ?_ (List.pairwise_singleton _ _))
    · exact fun y _ => paid _ _ rfl rfl
    · intro y hy
      rw [List.mem_singleton.1 hy]
      exact (paid _ _ rfl rfl).symm
  have faults : (submissions first).map (fun x => Commit.fault? x.request s) =
      [none, some (.refused (.debtLimitExceeded "otieno" 300 800 1000)), none] := by
    decide +kernel
  exact ⟨small, faults, commits_in_any_order Day.shift _ _ small named asked fresh
    (fresh'.perm (List.reverse_perm _).symm) perm (by decide) independent⟩

end History

end Tillbook
