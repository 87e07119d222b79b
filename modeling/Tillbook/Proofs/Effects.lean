import Tillbook.Proofs.Commits
import Tillbook.Proofs.Settlements
import Tillbook.Session

/-!
# Effects

A call of an operation ends in one of a few ways, each with what it found in the store,
what it answers and the store that it leaves.  All that is proved of runs is proved case
by case along these effects.

## Main definitions

* `Call` — an operation that is asked through a ledger.
* `Call.customer?`, `Call.product?` — what a call adds.
* `Effect` — the ways in which a call ends.

## Main statements

* `Operation.traceless_action` — only a stock that is moved by hand may be lost.
* `Call.effect` — every call has an effect.
* `Effect.store_of_commit_error`, `Effect.booked_of_commit_ok` — the effects of a commit.
* `Session.perform_eq_run` — a session performs the calls.
-/

namespace Tillbook

/-! ## Calls -/

/-- An operation that is asked through a ledger, and what the store allows at that moment. -/
structure Call where
  ledger : Ledger
  stamp : Stamp
  operation : Operation
  access : Access
  ordinary : access.Ordinary

namespace Call

/-- The answer to a call and the store that it leaves. -/
def run (call : Call) (s : Store) : Except LedgerError Reply × Store :=
  (call.operation.action call.ledger call.stamp).run call.access s

/-- The customer that a call adds. -/
def customer? (call : Call) : Option Customer :=
  match call.operation with
  | .openAccount name phone debtLimit =>
    let card : CustomerCard :=
      ⟨call.stamp.id, name, phone, none, none, debtLimit, call.stamp.now, call.stamp.now⟩
    some { card with balance := 0 }
  | .addCustomer c => some c
  | _ => none

/-- The product that a call adds. -/
def product? (call : Call) : Option Product :=
  match call.operation with
  | .addProduct p => some p
  | _ => none

/-- The station that a call asks for a number. -/
def station? (call : Call) : Option String :=
  match call.operation with
  | .commit request => some (request.originStation.getD call.ledger.station)
  | .nextNumber station => some station
  | _ => none

end Call

/-- A session performs the calls that its access allows. -/
theorem Session.ordinary_access (session : Session) : session.access.Ordinary := by
  intro why h
  simp only [Session.access, Session.unavailable] at h
  split at h
  · exact .inl (Option.some.inj h).symm
  · split at h
    · exact .inr (Option.some.inj h).symm
    · cases h

theorem Session.perform_eq_run (session : Session) (ledger : Ledger) (stamp : Stamp)
    (op : Operation) :
    let call : Call := ⟨ledger, stamp, op, session.access, session.ordinary_access⟩
    (session.perform ledger stamp op).1 = (call.run session.store).1 ∧
      (session.perform ledger stamp op).2.store = (call.run session.store).2 :=
  session.act_eq _

/-! ## Failures -/

/-- The operation asks and changes nothing. -/
def Operation.asks : Operation → Bool
  | .engageStaff .. | .setStaffActive .. | .addProduct _ | .adjustStock .. | .openAccount ..
  | .addCustomer _ | .setDebtLimit .. | .commit _ | .nextNumber _ | .repay .. | .settle ..
  | .openShift .. | .closeShift .. => false
  | _ => true

/-- The operation asks, or it adds a customer and changes nothing else. -/
def Operation.isPlain : Operation → Bool
  | .openAccount .. | .addCustomer _ => true
  | op => op.asks

theorem Call.isPlain_of_asks {call : Call} (h : call.operation.asks = true) :
    call.operation.isPlain = true := by
  cases op : call.operation <;> simp_all [Operation.asks, Operation.isPlain]

theorem Call.isPlain_of_customer? {call : Call} {c : Customer} (h : call.customer? = some c) :
    call.operation.isPlain = true := by
  unfold customer? at h
  cases op : call.operation <;> simp_all [Operation.isPlain]

namespace Operation

variable {ledger : Ledger} {stamp : Stamp}

theorem readOnly_zReport (shiftId : String) : (Till.zReport shiftId).ReadOnly := by
  refine (Action.readOnly_ofRefusal _).bind fun _ => (Action.readOnly_read _ _).bind fun found => ?_
  cases found with
  | none => exact Action.readOnly_refuse _
  | some shift =>
    dsimp only
    split
    · exact (Action.readOnly_read _ _).bind fun lines =>
        (Action.readOnly_ofOverflow _).bind fun totals => Action.readOnly_pure _
    · exact Action.readOnly_refuse _

/-- A question leaves the store as it was. -/
theorem readOnly_action {op : Operation} (h : op.asks = true) :
    (op.action ledger stamp).ReadOnly := by
  cases op
  case currentShift | receiptsForShift =>
    exact ((Action.readOnly_ofRefusal _).bind fun _ => Action.readOnly_read _ _).bind fun _ =>
      Action.readOnly_pure _
  case zReport shiftId => exact (readOnly_zReport shiftId).bind fun _ => Action.readOnly_pure _
  all_goals first
    | exact absurd h Bool.false_ne_true
    | exact (Action.readOnly_read _ _).bind fun _ => Action.readOnly_pure _

theorem traceless_commit (station : String) (request : CommitRequest) :
    (Commit.run station stamp request).Traceless :=
  (Action.readOnly_ofRefusal _).bind_traceless fun _ => Action.traceless_atomically _

theorem traceless_settle (checkoutId : String) (status : PaymentStatus)
    (reference : Option String) : (Settlement.settle checkoutId status reference).Traceless := by
  refine (Action.readOnly_ofRefusal _).bind_traceless fun _ => ?_
  split
  · exact Action.traceless_atomically _
  · exact (Action.readOnly_refuse _).traceless

theorem traceless_openShift (staffId : String) (openingFloat : Money) :
    (Till.openShift stamp staffId openingFloat).Traceless := by
  refine (Action.readOnly_ofRefusal _).bind_traceless fun _ =>
    (Action.readOnly_ofRefusal _).bind_traceless fun _ =>
      (Action.readOnly_read _ _).bind_traceless fun found => ?_
  cases found with
  | none => exact (Action.readOnly_refuse _).bind_traceless fun _ => Action.traceless_atomically _
  | some member =>
    dsimp only
    split
    · exact Action.traceless_atomically _
    · exact (Action.readOnly_refuse _).bind_traceless fun _ => Action.traceless_atomically _

/-- An operation that fails leaves the store as it was, but for a stock that is moved
by hand out of the range of a word. -/
theorem traceless_action {op : Operation} (h : ∀ id delta, op ≠ .adjustStock id delta) :
    (op.action ledger stamp).Traceless := by
  by_cases asks : op.asks = true
  · exact (readOnly_action asks).traceless
  · cases op
    case adjustStock id delta => exact absurd rfl (h id delta)
    case commit request =>
      have sold : (ledger.commit stamp request).Traceless :=
        (traceless_commit ledger.station request).bind_pure fun _ => ⟨_, rfl⟩
      exact sold.bind_pure fun _ => ⟨_, rfl⟩
    case settle id status reference =>
      exact (traceless_settle id status reference).bind_pure fun _ => ⟨_, rfl⟩
    case openShift staffId openingFloat =>
      exact (traceless_openShift staffId openingFloat).bind_pure fun _ => ⟨_, rfl⟩
    case nextNumber =>
      exact ((Action.readOnly_ofRefusal _).bind_traceless fun _ =>
        Action.traceless_atomically _).bind_pure fun _ => ⟨_, rfl⟩
    case repay =>
      exact ((Action.readOnly_ofRefusal _).bind_traceless fun _ =>
        (Action.readOnly_ofRefusal _).bind_traceless fun _ =>
          (Action.readOnly_ofRefusal _).bind_traceless fun _ =>
            Action.traceless_atomically _).bind_pure fun _ => ⟨_, rfl⟩
    case closeShift =>
      exact ((Action.readOnly_ofRefusal _).bind_traceless fun _ =>
        (Action.readOnly_ofRefusal _).bind_traceless fun _ =>
          Action.traceless_atomically _).bind_pure fun _ => ⟨_, rfl⟩
    all_goals first
      | exact absurd rfl asks
      | exact (Action.traceless_put _ _).bind_pure fun _ => ⟨_, rfl⟩

end Operation

/-! ## Effects -/

/-- The ways in which a call ends: what it found in the store, what it answers, and the
store that it leaves. -/
inductive Effect (call : Call) (s : Store) : Except LedgerError Reply → Store → Prop
  | failed (e : LedgerError) : Effect call s (.error e) s
  | stockLost {id : String} {delta : Int64} {row : ProductRow} (e : LedgerError)
      (op : call.operation = .adjustStock id delta) (found : s.product? id = some row)
      (lost : (row.stock.add delta).word? = none) :
      Effect call s (.error e) (Catalog.moveStock call.stamp.now id delta s)
  | told {reply : Reply} (op : call.operation.asks = true) : Effect call s (.ok reply) s
  | staffEngaged {username : String} {fullName : Option String} {role : StaffRole} {m : Staff}
      (op : call.operation = .engageStaff username fullName role)
      (member : m = ⟨call.stamp.id, username, fullName, role, true, call.stamp.now⟩)
      (username : ∀ other ∈ s.staff, other.username ≠ m.username)
      (new : s.staffMember? m.id = none) :
      Effect call s (.ok (.staff (some m))) { s with staff := s.staff ++ [m] }
  | staffSet {id : String} {isActive : Bool} (op : call.operation = .setStaffActive id isActive) :
      Effect call s (.ok .done)
        { s with
          staff := s.staff.map fun m => if m.id == id then { m with isActive := isActive } else m }
  | productAdded {p : Product} (op : call.operation = .addProduct p)
      (rules : Catalog.brokenRule? p = none)
      (barcode : ∀ row ∈ s.products, row.barcode ≠ p.barcode) (new : s.product? p.id = none) :
      Effect call s (.ok (.product (some p))) { s with products := s.products ++ [p.row] }
  | stockMoved {id : String} {delta w : Int64} {row : ProductRow}
      (op : call.operation = .adjustStock id delta) (found : s.product? id = some row)
      (sum : row.stock.add delta = .exact w) :
      Effect call s (.ok (.number w)) (Catalog.moveStock call.stamp.now id delta s)
  | customerAdded {c : Customer} {reply : Reply} (op : call.customer? = some c)
      (limit : 0 ≤ c.debtLimit) (new : s.customer? c.id = none) :
      Effect call s (.ok reply) { s with customers := s.customers ++ [c.row] }
  | limitSet {id : String} {limit : Money} (op : call.operation = .setDebtLimit id limit)
      (known : (s.customer? id).isSome) (nonnegative : 0 ≤ limit) :
      Effect call s (.ok .done)
        (Accounts.change id
          (fun row => { row with debtLimit := limit, updatedAt := call.stamp.now }) s)
  | committed {request : CommitRequest} {c : Committed} {s' : Store}
      (op : call.operation = .commit request)
      (booked : Commit.Booked (request.originStation.getD call.ledger.station) call.stamp request
        s c s') :
      Effect call s (.ok (.committed c (call.ledger.tell c))) s'
  | numbered {station : String} {n : Int64} (op : call.operation = .nextNumber station)
      (next : (s.lastNumber station).add 1 = .exact n) :
      Effect call s (.ok (.text (ReceiptNumber.format station n))) (Counters.issued station s)
  | repaid {id : String} {amount w : Money} {row : CustomerRow} {c : Customer}
      (op : call.operation = .repay id amount) (positive : 0 < amount.toInt)
      (found : s.customer? id = some row) (balance : row.balance = .exact w)
      (told : c =
        { row.toCustomerCard with updatedAt := call.stamp.now, balance := Credit.repay w amount }) :
      Effect call s (.ok (.customer (some c)))
        (Accounts.change id (Settlement.repaid call.stamp.later w amount) s)
  | settled {checkoutId : String} {status : PaymentStatus} {reference : Option String} {r : Receipt}
      (op : call.operation = .settle checkoutId status reference) (ends : status ≠ .pending)
      (waiting : s.receipts.any (·.awaits checkoutId) = true) :
      Effect call s (.ok (.receipt (some r)))
        { s with receipts := s.receipts.map (·.settled checkoutId status reference) }
  | shiftKept {staffId : String} {openingFloat : Money} {shift : Shift}
      (op : call.operation = .openShift staffId openingFloat)
      (running : s.openShift? staffId = some shift) :
      Effect call s (.ok (.shift (some shift))) s
  | shiftBegun {staffId : String} {openingFloat : Money} {shift : Shift}
      (op : call.operation = .openShift staffId openingFloat)
      (member : ∃ m, s.staffMember? staffId = some m ∧ m.isActive = true)
      (free : s.openShift? staffId = none) (new : s.shift? call.stamp.id = none)
      (begun : shift = Shifts.begun call.stamp staffId openingFloat)
      (float : 0 ≤ openingFloat.toInt ∧ openingFloat.toInt ≤ Validation.maxAmount.toInt) :
      Effect call s (.ok (.shift (some shift))) { s with shifts := s.shifts ++ [shift] }
  | shiftEnded {shiftId : String} {actual : Money} {shift : Shift} {totals : ShiftTotals}
      {z : ZReport} (op : call.operation = .closeShift shiftId actual)
      (found : s.shift? shiftId = some shift) (running : shift.isOpen = true)
      (sums : ShiftTotals.ofLines (Shifts.linesOf shiftId s) = .ok totals)
      (report : z = .ofTotals
        (shift.ended call.stamp.now actual (totals.expectedCash shift.openingFloat))
        totals actual) :
      Effect call s (.ok (.report z))
        (Shifts.change shiftId
          (·.ended call.stamp.now actual (totals.expectedCash shift.openingFloat)) s)

namespace Call

/-- A call that fails leaves the store as it was, or loses the stock that it moves. -/
theorem effect_of_error {call : Call} {s s' : Store} {e : LedgerError}
    (h : call.run s = (.error e, s')) : Effect call s (.error e) s' := by
  obtain ⟨ledger, stamp, op, acc, ordinary⟩ := call
  by_cases adjusts : ∃ id delta, op = .adjustStock id delta
  · obtain ⟨id, delta, rfl⟩ := adjusts
    have failure : (Catalog.adjust stamp.now id delta).run acc s = (.error e, s') := by
      rcases Action.run_bind_eq_error_iff.1 h with h | ⟨_, _, -, h⟩
      · exact h
      · nomatch h
    rcases Catalog.store_of_adjust_error failure with rfl | ⟨row, found, lost, rfl⟩
    · exact .failed e
    · exact .stockLost e rfl found lost
  · have kept := @Operation.traceless_action ledger stamp op
      (fun id delta same => adjusts ⟨id, delta, same⟩) acc s e (congrArg Prod.fst h)
    have same : s' = s := (congrArg Prod.snd h).symm.trans kept
    rw [same]
    exact .failed e

/-- A call that succeeds does what its operation says. -/
theorem effect_of_ok {call : Call} {s s' : Store} {reply : Reply}
    (h : call.run s = (.ok reply, s')) : Effect call s (.ok reply) s' := by
  obtain ⟨ledger, stamp, op, acc, ordinary⟩ := call
  change (op.action ledger stamp).run acc s = (.ok reply, s') at h
  by_cases asks : op.asks = true
  · have kept := @Operation.readOnly_action ledger stamp op asks acc s
    rw [h] at kept
    subst kept
    exact .told asks
  · cases op with
    | engageStaff username fullName role =>
      obtain ⟨m, done, rfl⟩ := Action.run_bind_pure_eq_ok_iff.1 h
      obtain ⟨-, rfl, free, new, rfl⟩ := Roster.run_engage_eq_ok_iff.1 done
      exact .staffEngaged rfl rfl free new
    | setStaffActive id isActive =>
      obtain ⟨_, done, rfl⟩ := Action.run_bind_pure_eq_ok_iff.1 h
      obtain ⟨-, -, rfl⟩ := Roster.run_setActive_eq_ok_iff.1 done
      exact .staffSet rfl
    | addProduct p =>
      obtain ⟨_, done, rfl⟩ := Action.run_bind_pure_eq_ok_iff.1 h
      obtain ⟨-, rfl, rules, barcode, new, rfl⟩ := Catalog.run_insert_eq_ok_iff.1 done
      exact .productAdded rfl rules barcode new
    | adjustStock id delta =>
      obtain ⟨w, done, rfl⟩ := Action.run_bind_pure_eq_ok_iff.1 h
      obtain ⟨-, row, found, sum, rfl⟩ := Catalog.run_adjust_eq_ok_iff.1 done
      exact .stockMoved rfl found sum
    | openAccount name phone debtLimit =>
      obtain ⟨_, done, rfl⟩ := Action.run_bind_pure_eq_ok_iff.1 h
      obtain ⟨-, rfl, limit, new, rfl⟩ := Accounts.run_insert_eq_ok_iff.1 done
      exact .customerAdded rfl limit new
    | addCustomer c =>
      obtain ⟨_, done, rfl⟩ := Action.run_bind_pure_eq_ok_iff.1 h
      obtain ⟨-, rfl, limit, new, rfl⟩ := Accounts.run_insert_eq_ok_iff.1 done
      exact .customerAdded rfl limit new
    | setDebtLimit id limit =>
      obtain ⟨_, done, rfl⟩ := Action.run_bind_pure_eq_ok_iff.1 h
      obtain ⟨-, known, nonnegative, rfl⟩ := Accounts.run_setLimit_eq_ok_iff.1 done
      exact .limitSet rfl known nonnegative
    | commit request =>
      obtain ⟨⟨c, deliveries⟩, t, done, last⟩ := Action.run_bind_eq_ok_iff.1 h
      obtain ⟨rfl, rfl⟩ := Action.run_pure_eq_ok_iff.1 last
      obtain ⟨c, sold, ⟨⟩⟩ := Action.run_bind_pure_eq_ok_iff.1 done
      exact .committed rfl (Commit.booked_of_run sold)
    | nextNumber station =>
      obtain ⟨_, done, rfl⟩ := Action.run_bind_pure_eq_ok_iff.1 h
      obtain ⟨-, -, n, next, rfl, rfl⟩ := Settlement.run_nextNumber_eq_ok_iff.1 done
      exact .numbered rfl next
    | repay id amount =>
      obtain ⟨_, done, rfl⟩ := Action.run_bind_pure_eq_ok_iff.1 h
      obtain ⟨-, -, positive, -, row, w, found, balance, told, rfl⟩ :=
        Settlement.run_repay_eq_ok_iff.1 done
      exact .repaid rfl positive found balance told
    | settle checkoutId status reference =>
      obtain ⟨r, done, rfl⟩ := Action.run_bind_pure_eq_ok_iff.1 h
      obtain ⟨-, -, ends, waiting, rfl, -⟩ := Settlement.run_settle_eq_ok_iff.1 done
      exact .settled rfl ends waiting
    | openShift staffId openingFloat =>
      obtain ⟨shift, done, rfl⟩ := Action.run_bind_pure_eq_ok_iff.1 h
      obtain ⟨-, -, nonnegative, most, member, ⟨running, rfl⟩ | ⟨free, new, begun, rfl⟩⟩ :=
        Till.run_openShift_eq_ok_iff.1 done
      · exact .shiftKept rfl running
      · exact .shiftBegun rfl member free new begun ⟨nonnegative, most⟩
    | closeShift shiftId actual =>
      obtain ⟨z, done, rfl⟩ := Action.run_bind_pure_eq_ok_iff.1 h
      obtain ⟨-, -, -, -, shift, totals, found, running, sums, report, rfl⟩ :=
        Till.run_closeShift_eq_ok_iff.1 done
      exact .shiftEnded rfl found running sums report
    | _ => exact absurd rfl asks

/-- Every call has an effect. -/
theorem effect (call : Call) (s : Store) : Effect call s (call.run s).1 (call.run s).2 := by
  rcases h : call.run s with ⟨_ | _, _⟩
  · exact effect_of_error h
  · exact effect_of_ok h

/-- An operation that tells what comes of an action succeeds if the action does. -/
theorem run_eq_ok_iff_of_action {α : Type} {call : Call} {act : Action α} {told : α → Reply}
    (op : call.operation.action call.ledger call.stamp = act >>= fun a => pure (told a))
    {s s' : Store} {reply : Reply} :
    call.run s = (.ok reply, s') ↔
      ∃ a, reply = told a ∧ act.run call.access s = (.ok a, s') := by
  rw [run, op]
  refine Action.run_bind_pure_eq_ok_iff.trans ?_
  simp only [eq_comm, and_comm]

end Call

namespace Effect

variable {call : Call} {s s' : Store} {request : CommitRequest}

/-- A commit that fails leaves the store as it was. -/
theorem store_of_commit_error {e : LedgerError} (h : Effect call s (.error e) s')
    (op : call.operation = .commit request) : s' = s := by
  cases h with
  | failed => rfl
  | stockLost e other => nomatch op.symm.trans other

/-- A commit that succeeds is booked. -/
theorem booked_of_commit_ok {reply : Reply} (h : Effect call s (.ok reply) s')
    (op : call.operation = .commit request) :
    ∃ c, reply = .committed c (call.ledger.tell c) ∧
      Commit.Booked (request.originStation.getD call.ledger.station) call.stamp request s c s' := by
  cases h with
  | told asks => simp [Operation.asks, op] at asks
  | customerAdded other => simp [Call.customer?, op] at other
  | committed other booked =>
    obtain ⟨⟩ := op.symm.trans other
    exact ⟨_, rfl, booked⟩
  | staffEngaged other | staffSet other | productAdded other | stockMoved other | limitSet other
  | numbered other | repaid other | settled other | shiftKept other | shiftBegun other
  | shiftEnded other => nomatch op.symm.trans other

end Effect

/-- What a commit answers is booked. -/
theorem Call.booked_of_committed {call : Call} {s : Store} {request : CommitRequest}
    {c : Committed} {deliveries : List Delivery} (op : call.operation = .commit request)
    (done : (call.run s).1 = .ok (.committed c deliveries)) :
    Commit.Booked (request.originStation.getD call.ledger.station) call.stamp request s c
      (call.run s).2 := by
  have effect := call.effect s
  rw [done] at effect
  obtain ⟨c', same, booked⟩ := effect.booked_of_commit_ok op
  obtain ⟨rfl, -⟩ := Reply.committed.inj same
  exact booked

end Tillbook
