import Tillbook.Reconciliation
import Tillbook.Store.Action

/-!
# Shifts in the store

Statements on the shifts, and the tenders that belong to one.
-/

namespace Tillbook.Shifts

/-- The shift with an identity. -/
def find (id : String) : Action (Option Shift) := .read "shifts" fun s => .ok (s.shift? id)

/-- The running shift of a member of staff. -/
def findOpen (staffId : String) : Action (Option Shift) :=
  .read "shifts" fun s => .ok (s.openShift? staffId)

/-- The last `limit` shifts of a member of staff, the newest first. -/
def list (staffId : String) (limit : Nat) : Action (List Shift) :=
  .read "shifts" fun s =>
    let own := s.shifts.filter (·.staffId == staffId)
    .ok ((own.mergeSort fun a b => b.openedAt.stored ≤ a.openedAt.stored).take limit)

/-- The store with one more running shift, or `none` if the row is passed over:
its identity is taken, its staff has a running shift already, or its float is
below zero. -/
def add (shift : Shift) (s : Store) : Except StoreError (Option Store) :=
  let opened := { shift with closedAt := none, closingActual := none, closingExpected := none }
  if shift.openingFloat < 0 ∨ (s.shift? shift.id).isSome ∨ (s.openShift? shift.staffId).isSome then
    .ok none
  else if (s.staffMember? shift.staffId).isNone then .error .danglingReference
  else .ok (some { s with shifts := s.shifts ++ [opened] })

/-- Adds a running shift unless the row is passed over, and tells whether it was added. -/
def insertOpen (shift : Shift) : Action Bool :=
  .put "shifts" fun s => do
    match ← add shift s with
    | some added => return (true, added)
    | none => return (false, s)

/-- The store with the row of a shift changed. -/
def change (id : String) (f : Shift → Shift) (s : Store) : Store :=
  { s with shifts := s.shifts.map fun shift => if shift.id == id then f shift else shift }

/-- Closes a running shift, and tells whether there was one. -/
def markClosed (now : Timestamp) (id : String) : Action Bool :=
  .put "shifts" fun s =>
    if (s.shift? id).any (·.isOpen) then
      .ok (true, change id (fun shift => { shift with closedAt := some now }) s)
    else .ok (false, s)

/-- Records the cash counted and the cash expected at the end of a shift. -/
def recordClose (id : String) (actual expected : Money) : Action Unit :=
  .put "shifts" fun s =>
    let record (shift : Shift) :=
      { shift with closingActual := some actual, closingExpected := some expected }
    .ok ((), change id record s)

/-- The tenders of the receipts of a shift: those of one receipt together and in
their places. -/
def linesOf (shiftId : String) (s : Store) : List TenderLine :=
  let placed := s.tenders.mergeSort fun a b => a.position ≤ b.position
  (placed.mergeSort fun a b => a.receiptId ≤ b.receiptId).filterMap fun t =>
    (s.receipts.find? fun r => r.id == t.receiptId && r.shiftId == some shiftId).map fun r =>
      ⟨t.receiptId, t.method, t.amount, r.isReturn⟩

/-- The tenders of the receipts of a shift. -/
def tenderLines (shiftId : String) : Action (List TenderLine) :=
  .read "receipt_tenders" fun s => .ok (linesOf shiftId s)

end Tillbook.Shifts
