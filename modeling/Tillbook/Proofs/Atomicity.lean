import Tillbook.Proofs.Shifts

/-!
# Atomicity

An operation of several statements happens whole or not at all.  When it fails, at whichever
statement, all tables are as they were, and whatever is asked later is answered as if it had
never been tried.

## Main definitions

* `Operation.isTransaction` — the operations of several statements.

## Main statements

* `Session.perform_of_error` — a failure leaves the session as it was.
* `History.foldl_add_congr` — what calls do depends on the store alone.
* `History.failure_leaves_no_trace` — the failures of every run.
-/

namespace Tillbook

/-- The operation reads and writes in several statements. -/
def Operation.isTransaction : Operation → Bool
  | .commit _ | .nextNumber _ | .repay .. | .settle .. | .openShift .. | .closeShift .. => true
  | _ => false

theorem Operation.traceless_of_isTransaction {ledger : Ledger} {stamp : Stamp} {op : Operation}
    (h : op.isTransaction = true) : (op.action ledger stamp).Traceless := by
  apply traceless_action
  rintro id delta rfl
  nomatch h

/-- A transaction that fails leaves the store as it was. -/
theorem Call.store_of_error {call : Call} {s : Store} {e : LedgerError}
    (transaction : call.operation.isTransaction = true) (failed : (call.run s).1 = .error e) :
    (call.run s).2 = s :=
  Operation.traceless_of_isTransaction transaction call.access s e failed

/-- It leaves the whole session as it was: the tables, their version and the connections. -/
theorem Session.perform_of_error {session : Session} {ledger : Ledger} {stamp : Stamp}
    {op : Operation} {e : LedgerError} (transaction : op.isTransaction = true)
    (failed : (session.perform ledger stamp op).1 = .error e) :
    (session.perform ledger stamp op).2 = session := by
  have kept : ((op.action ledger stamp).run session.access session.store).2 = session.store :=
    Operation.traceless_of_isTransaction transaction session.access session.store e failed
  change session.commitStore _ = session
  rw [kept, Session.commitStore, if_pos rfl]

namespace History

/-- What calls answer and do depends on the store that they find, and on nothing else. -/
theorem foldl_add_congr {h h' : History} (same : h.store = h'.store) (later : List Call) :
    (later.foldl add h).store = (later.foldl add h').store ∧
      ∃ tail, (later.foldl add h).entries = h.entries ++ tail ∧
        (later.foldl add h').entries = h'.entries ++ tail := by
  induction later generalizing h h' with
  | nil => exact ⟨same, [], (List.append_nil _).symm, (List.append_nil _).symm⟩
  | cons call later ih =>
    have next : (h.add call).store = (h'.add call).store := by rw [add, add, same]
    obtain ⟨stores, tail, entries, entries'⟩ := ih next
    refine ⟨stores, ⟨call, (call.run h.store).1⟩ :: tail, ?_, ?_⟩
    · rw [List.foldl_cons, entries, add, List.append_assoc]
      rfl
    · rw [List.foldl_cons, entries', add, ← same, List.append_assoc]
      rfl

/-- A transaction that fails, for whatever reason and at whatever statement, leaves all
tables as they were.  Whatever is asked later, the same call once more among it, is answered
as if it had not been asked, and leaves the same store. -/
theorem failure_leaves_no_trace (calls : List Call) (call : Call) (e : LedgerError)
    (transaction : call.operation.isTransaction = true)
    (failed : (call.run (of calls).store).1 = .error e) :
    (call.run (of calls).store).2 = (of calls).store ∧
      ∀ later : List Call,
        (of (calls ++ call :: later)).store = (of (calls ++ later)).store ∧
        ∃ tail, (of (calls ++ call :: later)).entries =
            (of calls).entries ++ ⟨call, .error e⟩ :: tail ∧
          (of (calls ++ later)).entries = (of calls).entries ++ tail := by
  have kept := Call.store_of_error transaction failed
  refine ⟨kept, fun later => ?_⟩
  have tried : of (calls ++ call :: later) = later.foldl add ((of calls).add call) := by
    simp [of]
  have untried : of (calls ++ later) = later.foldl add (of calls) := by
    simp [of]
  have same : ((of calls).add call).store = (of calls).store := kept
  obtain ⟨stores, tail, entries, entries'⟩ := foldl_add_congr same later
  rw [tried, untried]
  refine ⟨stores, tail, ?_, entries'⟩
  rw [entries, add, failed, List.append_assoc]
  rfl

/-- A station numbers its first receipt and finds the name taken under which the gateway
should confirm it.  It has no counter afterwards, and the next receipt is its first. -/
theorem failure_leaves_no_trace_of_taken_name :
    let away := { Day.shiftPurchase .cash 1 200 with originStation := some "POS-02" }
    let lost := Day.ask "r5" (.commit { away with checkoutId := some "ws-1" })
    let again := Day.ask "r6" (.commit away)
    let s := (of Day.shift).store
    (lost.run s).1 = .error (.store (.taken "receipts.checkout_request_id")) ∧
      (lost.run s).2 = s ∧ s.counter? "POS-02" = none ∧
      (of (Day.shift ++ [lost, again])).store = (of (Day.shift ++ [again])).store := by
  intro away lost again s
  have failed : (lost.run s).1 = .error (.store (.taken "receipts.checkout_request_id")) := by
    decide +kernel
  have kept := failure_leaves_no_trace Day.shift lost _ rfl failed
  exact ⟨failed, kept.1, by decide +kernel, (kept.2 [again]).1⟩

end History

end Tillbook
