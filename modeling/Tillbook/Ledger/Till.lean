import Tillbook.Ledger.Stamp
import Tillbook.Reconciliation
import Tillbook.Store.Roster
import Tillbook.Store.Shifts
import Tillbook.Validation

/-!
# The till

Shifts from opening to closing, with the report that compares the cash counted
with the cash expected.

## Main definitions

* `Till.openShift` — the running shift of a member of staff, opened if there is none.
* `Till.zReport` — the report of a running shift.
* `Till.closeShift` — the end of a shift.
-/

namespace Tillbook.Till

/-- A check of the form of an argument. -/
def check (c : Except Invalid Unit) : Action Unit := .ofRefusal (Validation.orRefuse c)

/-- The running shift of a member of staff, opened with a float if there is none. -/
def openShift (stamp : Stamp) (staffId : String) (openingFloat : Money) : Action Shift := do
  check (Validation.present "staff_id" staffId)
  check (Validation.amount "opening float" openingFloat)
  match ← Roster.find staffId with
  | some member => if member.isActive then pure () else .refuse (.invalidStaff staffId)
  | none => .refuse (.invalidStaff staffId)
  .atomically do
    let _ ← Shifts.insertOpen ⟨stamp.id, staffId, stamp.now, openingFloat, none, none, none⟩
    match ← Shifts.findOpen staffId with
    | some shift => return shift
    | none => .refuse (.shiftNotFound stamp.id)

/-- The running shift of a member of staff, if there is one. -/
def currentShift (staffId : String) : Action (Option Shift) := do
  check (Validation.present "staff_id" staffId)
  Shifts.findOpen staffId

/-- The report of a running shift, before any cash is counted. -/
def zReport (shiftId : String) : Action ZReport := do
  check (Validation.present "shift_id" shiftId)
  match ← Shifts.find shiftId with
  | none => .refuse (.shiftNotFound shiftId)
  | some shift =>
    if shift.isOpen then
      let totals ← .ofOverflow (ShiftTotals.ofLines (← Shifts.tenderLines shiftId))
      return .ofTotals shift totals (shift.closingActual.getD 0)
    else .refuse (.shiftAlreadyClosed shiftId)

/-- Closes a running shift with the cash counted, and reports on it. -/
def closeShift (stamp : Stamp) (shiftId : String) (actual : Money) : Action ZReport := do
  check (Validation.present "shift_id" shiftId)
  check (Validation.amount "closing actual" actual)
  .atomically do
    let closed ← Shifts.markClosed stamp.now shiftId
    match ← Shifts.find shiftId with
    | none => .refuse (.shiftNotFound shiftId)
    | some shift =>
      if closed then
        let totals ← .ofOverflow (ShiftTotals.ofLines (← Shifts.tenderLines shiftId))
        let expected := totals.expectedCash shift.openingFloat
        Shifts.recordClose shiftId actual expected
        let shift :=
          { shift with closingActual := some actual, closingExpected := some expected }
        return .ofTotals shift totals actual
      else .refuse (.shiftAlreadyClosed shiftId)

end Tillbook.Till
