import Tillbook.Proofs.ReceiptTables

/-!
# Deliveries

Whoever is told of receipts, and whether they take note, fail or break off, the ledger answers the
same and leaves the same store.  Each of the sinks is told once of each receipt that is committed,
in the order in which they were registered, and of nothing else; only a sink that breaks off keeps
those after it from being told.

## Main definitions

* `Reply.untold` — an answer without what came of telling the sinks.
* `Call.Alike` — two calls differ in their sinks alone.
* `Sink.EndsOn` — a sink does not break off.
* `Entry.deliveries` — what came of telling the sinks of a call.
* `Entry.Delivered` — the sinks of a call were told of what it has committed, and of that alone.

## Main statements

* `Sink.tellAll_eq_map`, `Sink.tellAll_of_not_endsOn` — who is told.
* `Operation.commit_of_run` — only a commit tells of receipts.
* `Call.run_alike` — the sinks change neither an answer nor the store.
* `History.sinks_never_interfere` — the deliveries of every run.
-/

namespace Tillbook

/-- An answer without what came of telling the sinks. -/
def Reply.untold : Reply → Reply
  | .committed c _ => .committed c []
  | reply => reply

/-- What came of telling the sinks of a call. -/
def Entry.deliveries (e : Entry) : List Delivery :=
  match e.answer with
  | .ok (.committed _ deliveries) => deliveries
  | _ => []

/-- The answer to a call without what came of telling the sinks. -/
def Entry.outcome (e : Entry) : Except LedgerError Reply := e.answer.map (·.untold)

/-! ## Sinks -/

/-- The sink takes note of a receipt or fails to; either way it does not break off. -/
def Sink.EndsOn (sink : Sink) (c : Committed) : Prop := ∃ result, sink.deliver c = .ok result

namespace Sink

variable {c : Committed} {sink : Sink} {before after sinks : List Sink}

theorem outcome_tell_eq_brokenOff_iff : (sink.tell c).outcome = .brokenOff ↔ ¬sink.EndsOn c := by
  unfold tell EndsOn
  rcases sink.deliver c with _ | _ | _ <;> simp

/-- Whoever is told after sinks that end, however these do, is told just the same. -/
theorem tellAll_append_of_endsOn (h : ∀ sink ∈ before, sink.EndsOn c) (after : List Sink) :
    tellAll c (before ++ after) = before.map (·.tell c) ++ tellAll c after := by
  induction before with
  | nil => rfl
  | cons sink rest ih =>
    rw [List.forall_mem_cons] at h
    have ends : ¬(sink.tell c).outcome = .brokenOff :=
      fun breaks => outcome_tell_eq_brokenOff_iff.1 breaks h.1
    rw [List.cons_append, tellAll, if_neg ends, ih h.2, List.map_cons, List.cons_append]

/-- Sinks that end are told, all of them. -/
theorem tellAll_eq_map (h : ∀ sink ∈ sinks, sink.EndsOn c) :
    tellAll c sinks = sinks.map (·.tell c) := by
  simpa [tellAll] using tellAll_append_of_endsOn h []

/-- A sink that breaks off is the last one to be told. -/
theorem tellAll_of_not_endsOn (h : ∀ sink ∈ before, sink.EndsOn c) (breaks : ¬sink.EndsOn c)
    (after : List Sink) :
    tellAll c (before ++ sink :: after) = (before ++ [sink]).map (·.tell c) := by
  rw [tellAll_append_of_endsOn h, tellAll, if_pos (outcome_tell_eq_brokenOff_iff.2 breaks),
    List.map_append, List.map_singleton]

end Sink

/-- A commit that succeeds tells its sinks in turn. -/
theorem Ledger.run_commit_eq_ok_iff {ledger : Ledger} {stamp : Stamp} {request : CommitRequest}
    {acc : Access} {s s' : Store} {c : Committed} {deliveries : List Delivery} :
    (ledger.commit stamp request).run acc s = (.ok (c, deliveries), s') ↔
      (Commit.run ledger.station stamp request).run acc s = (.ok c, s') ∧
        deliveries = ledger.tell c := by
  rw [commit, Action.run_bind_pure_eq_ok_iff]
  constructor
  · rintro ⟨_, done, ⟨⟩⟩
    exact ⟨done, rfl⟩
  · rintro ⟨done, rfl⟩
    exact ⟨c, done, rfl⟩

/-- Only a commit answers with a receipt that the sinks were told of. -/
theorem Operation.commit_of_run {op : Operation} {ledger : Ledger} {stamp : Stamp} {acc : Access}
    {s s' : Store} {c : Committed} {deliveries : List Delivery}
    (h : (op.action ledger stamp).run acc s = (.ok (.committed c deliveries), s')) :
    ∃ request, op = .commit request ∧ deliveries = ledger.tell c := by
  cases op with
  | commit request =>
    obtain ⟨_, done, ⟨⟩⟩ := Action.run_bind_pure_eq_ok_iff.1 h
    exact ⟨request, rfl, (Ledger.run_commit_eq_ok_iff.1 done).2⟩
  | _ =>
    obtain ⟨_, -, other⟩ := Action.run_bind_pure_eq_ok_iff.1 h
    nomatch other

/-- The sinks of a call were told of the receipt that the call has committed and that the store
has, and of nothing else: each once and in their order if each takes note or fails, and otherwise
those up to the one that breaks off. -/
structure Entry.Delivered (e : Entry) (s : Store) : Prop where
  of_commit : ∀ request reply, e.call.operation = .commit request → e.answer = .ok reply →
    ∃ c, reply = .committed c e.deliveries ∧ c.receipt.id ∈ s.receipts.map (·.id) ∧
      ((∀ sink ∈ e.call.ledger.sinks, sink.EndsOn c) →
        e.deliveries = e.call.ledger.sinks.map (·.tell c)) ∧
      ∀ before sink after, e.call.ledger.sinks = before ++ sink :: after →
        (∀ earlier ∈ before, earlier.EndsOn c) → ¬sink.EndsOn c →
        e.deliveries = (before ++ [sink]).map (·.tell c)
  of_error : ∀ err, e.answer = .error err → e.deliveries = []
  of_other : (∀ request, e.call.operation ≠ .commit request) → e.deliveries = []

/-- Receipts stay in the store, so what was told of them stays so. -/
theorem Entry.Delivered.of_ids {e : Entry} {s s' : Store} (h : e.Delivered s)
    (kept : ∀ id ∈ s.receipts.map (·.id), id ∈ s'.receipts.map (·.id)) : e.Delivered s' where
  of_commit := fun request reply op done => by
    obtain ⟨c, told, stored, all⟩ := h.of_commit request reply op done
    exact ⟨c, told, kept _ stored, all⟩
  of_error := h.of_error
  of_other := h.of_other

/-- Two calls differ in the sinks of their ledgers alone. -/
structure Call.Alike (call call' : Call) : Prop where
  station : call.ledger.station = call'.ledger.station
  stamp : call.stamp = call'.stamp
  operation : call.operation = call'.operation
  access : call.access = call'.access

/-- The sinks change neither the answer nor the store that is left. -/
theorem Call.run_alike {call call' : Call} (alike : call.Alike call') (s : Store) :
    (call.run s).1.map (·.untold) = (call'.run s).1.map (·.untold) ∧
      (call.run s).2 = (call'.run s).2 := by
  obtain ⟨ledger, stamp, op, acc, ordinary⟩ := call
  obtain ⟨ledger', stamp', op', acc', ordinary'⟩ := call'
  obtain ⟨station, rfl, rfl, rfl⟩ := alike
  dsimp only at station
  cases op with
  | commit request =>
    have same (l : Ledger) : (Operation.commit request).action l stamp =
        (Commit.run l.station stamp request >>= fun c =>
          pure (.committed c (l.tell c))) := by
      simp only [Operation.action, Ledger.commit, bind_assoc, pure_bind]
    simp only [run, same, Action.run_bind, station]
    rcases (Commit.run ledger'.station stamp request).run acc s with ⟨_ | _, _⟩ <;> exact ⟨rfl, rfl⟩
  | _ => exact ⟨rfl, rfl⟩

/-! ## Runs -/

namespace History

/-- Calls that differ in their sinks alone lead from the same store to the same store. -/
theorem foldl_add_alike (h h' : History) (stores : h.store = h'.store)
    (outcomes : h.entries.map (·.outcome) = h'.entries.map (·.outcome)) {calls calls' : List Call}
    (alike : List.Forall₂ Call.Alike calls calls') :
    (calls.foldl add h).store = (calls'.foldl add h').store ∧
      (calls.foldl add h).entries.map (·.outcome) =
        (calls'.foldl add h').entries.map (·.outcome) := by
  induction alike generalizing h h' with
  | nil => exact ⟨stores, outcomes⟩
  | @cons call call' calls calls' first rest ih =>
    obtain ⟨answers, left⟩ := Call.run_alike first h'.store
    apply ih
    · rw [add, add, stores]
      exact left
    · rw [add, add, stores, List.map_append, List.map_append, outcomes]
      exact congrArg (fun answer => _ ++ [answer]) answers

/-- The receipts that a store has are there after another call. -/
theorem ids_subset_add (calls : List Call) (call : Call) :
    ∀ id ∈ (of calls).store.receipts.map (·.id),
      id ∈ ((of calls).add call).store.receipts.map (·.id) := by
  intro id hid
  obtain ⟨row, hrow, rfl⟩ := List.mem_map.1 hid
  have receipts := (call.effect (of calls).store).receipts_eq (soundReceipts calls)
  rw [add, receipts, List.map_append, List.mem_append]
  exact .inl (List.mem_map.2 ⟨_, List.mem_map_of_mem hrow, row.id_after⟩)

/-- A call tells its sinks of what it has committed. -/
theorem delivered_add (calls : List Call) (call : Call) :
    Entry.Delivered ⟨call, (call.run (of calls).store).1⟩ ((of calls).add call).store where
  of_commit := by
    intro request reply op done
    have effect := call.effect (of calls).store
    dsimp only at done
    rw [done] at effect
    obtain ⟨c, rfl, booked⟩ := effect.booked_of_commit_ok op
    have deliveries : Entry.deliveries ⟨call, (call.run (of calls).store).1⟩ =
        call.ledger.tell c := by
      rw [Entry.deliveries, done]
    rw [deliveries]
    refine ⟨c, rfl, ?_, Sink.tellAll_eq_map, fun before sink after sinks ends breaks => ?_⟩
    · rw [add, booked.receipts_eq, List.map_append, List.mem_append]
      exact .inr (List.mem_singleton.2 rfl)
    · rw [Ledger.tell, sinks, Sink.tellAll_of_not_endsOn ends breaks]
  of_error := by
    intro err failed
    rw [Entry.deliveries, failed]
  of_other := by
    intro other
    unfold Entry.deliveries
    split
    · next c deliveries told =>
      obtain ⟨request, op, -⟩ := Operation.commit_of_run (Prod.ext told rfl)
      exact absurd op (other request)
    · rfl

/-- Runs that differ in their sinks alone answer the same and leave the same store.  Whenever a
commit succeeds, each of its sinks is told once and in its turn of that very receipt, which the
store has by then, whoever failed before, unless one of them breaks off; then those after it are
not told.  A commit that fails tells no one. -/
theorem sinks_never_interfere (calls calls' : List Call)
    (alike : List.Forall₂ Call.Alike calls calls') :
    (of calls).store = (of calls').store ∧
    (of calls).entries.map (·.outcome) = (of calls').entries.map (·.outcome) ∧
    ∀ e ∈ (of calls).entries, e.Delivered (of calls).store := by
  obtain ⟨stores, outcomes⟩ := foldl_add_alike {} {} rfl rfl alike
  refine ⟨stores, outcomes, ?_⟩
  clear alike stores outcomes
  induction calls using List.reverseRecOn with
  | nil => exact List.forall_mem_nil _
  | append_singleton calls call ih =>
    intro e he
    rw [of_append_singleton] at he ⊢
    rcases List.mem_append.1 he with before | last
    · exact (ih e before).of_ids (ids_subset_add calls call)
    · rw [List.mem_singleton.1 last]
      exact delivered_add calls call

/-- The authority cannot be reached and the printer works: both are told of the sale, and the
run is the same as without them. -/
theorem sinks_never_interfere_of_failing :
    let sinks : List Sink :=
      [⟨"tax", fun _ => .ok (.error "no route")⟩, ⟨"printer", fun _ => .ok (.ok ())⟩]
    let sale (sinks : List Sink) : Call :=
      { Day.ask "r1" (.commit (Day.purchase .cash 3 600)) with ledger := ⟨"POS-01", sinks⟩ }
    let receipt : Receipt :=
      ⟨⟨"r1", "POS-01-00001", Day.moment, none, "amina", some "otieno", 600, .completed, none, none,
        false, "POS-01"⟩, .cash⟩
    let c : Committed :=
      ⟨receipt, [⟨"r1", "r1", "sugar", "amina", "Sugar 1kg", 3, 200, false, none, Day.moment⟩], []⟩
    let told := of (Day.opening ++ [sale sinks])
    let untold := of (Day.opening ++ [sale []])
    told.store = untold.store ∧
      told.entries.map (·.outcome) = untold.entries.map (·.outcome) ∧
      told.entries.flatMap (·.deliveries) =
        [⟨"tax", c, .failed⟩, ⟨"printer", c, .noted⟩] := by
  intro sinks sale receipt c told untold
  have alike : List.Forall₂ Call.Alike (Day.opening ++ [sale sinks]) (Day.opening ++ [sale []]) :=
    List.rel_append (List.forall₂_same.2 fun call _ => ⟨rfl, rfl, rfl, rfl⟩)
      (.cons ⟨rfl, rfl, rfl, rfl⟩ .nil)
  obtain ⟨stores, outcomes, -⟩ := sinks_never_interfere _ _ alike
  exact ⟨stores, outcomes, by decide +kernel⟩

end History

end Tillbook
