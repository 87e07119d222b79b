import Tillbook.Money
import Tillbook.Timestamp

/-!
# Shifts

A shift is the time in which one member of staff answers for the till, from the
float put in at the start to the cash counted at the end.
-/

namespace Tillbook

/-- Whether a shift still runs.  A closed one stays closed. -/
inductive ShiftState where
  | opened
  | closed
  deriving DecidableEq, Repr

/-- The name of a state. -/
def ShiftState.name : ShiftState → String
  | .opened => "open"
  | .closed => "closed"

/-- A shift.  The three facts of its end are absent while it runs. -/
structure Shift where
  id : String
  staffId : String
  openedAt : Timestamp
  openingFloat : Money
  closedAt : Option Timestamp
  closingActual : Option Money
  closingExpected : Option Money
  deriving DecidableEq, Repr

namespace Shift

/-- The shift still runs. -/
def isOpen (s : Shift) : Bool := s.closedAt.isNone

/-- Whether the shift still runs, as a state. -/
def state (s : Shift) : ShiftState := if s.isOpen then .opened else .closed

end Shift

end Tillbook
