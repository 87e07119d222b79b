import Tillbook.Payment
import Tillbook.Shift

/-!
# Reconciliation

At the end of a shift the cash in the till is compared with the cash that should
be there: the float and the cash of the receipts, less that of the returns.

## Main definitions

* `TenderLine` — one tender of one receipt, as it is read back.
* `ShiftTotals.ofLines` — the totals by method.
* `ZReport` — what should be there beside what is there.
-/

namespace Tillbook

/-- One tender of one receipt. -/
structure TenderLine where
  receiptId : String
  method : TenderMethod
  amount : Money
  isReturn : Bool
  deriving DecidableEq, Repr

/-- The takings of a shift by method, and the number of its receipts. -/
structure ShiftTotals where
  cash : Money := 0
  mobile : Money := 0
  credit : Money := 0
  receiptCount : Int64 := 0
  deriving DecidableEq, Repr

namespace ShiftTotals

/-- The totals with one amount more.  A total stops at the end of the range. -/
def addTo (t : ShiftTotals) (method : TenderMethod) (amount : Money) : ShiftTotals :=
  match method with
  | .cash => { t with cash := Word.addClamped t.cash amount }
  | .mobile => { t with mobile := Word.addClamped t.mobile amount }
  | .credit => { t with credit := Word.addClamped t.credit amount }

/-- The totals with one line more, after a line of the receipt `last`.  A line of
another receipt than the last counts as a new receipt. -/
def addLine (t : ShiftTotals) (last : Option String) (line : TenderLine) :
    Except Overflow ShiftTotals := do
  let count ← if last = some line.receiptId then .ok t.receiptCount else Word.add t.receiptCount 1
  let amount ← line.amount.signed line.isReturn
  return { t with receiptCount := count }.addTo line.method amount

/-- The totals with the lines of a list, after a line of the receipt `last`. -/
def addLines (t : ShiftTotals) (last : Option String) :
    List TenderLine → Except Overflow ShiftTotals
  | [] => .ok t
  | line :: rest => do addLines (← t.addLine last line) (some line.receiptId) rest

/-- The totals of lines in which those of one receipt stand together. -/
def ofLines (lines : List TenderLine) : Except Overflow ShiftTotals := addLines {} none lines

/-- The cash that the till should hold. -/
def expectedCash (t : ShiftTotals) (openingFloat : Money) : Money :=
  Word.addClamped openingFloat t.cash

end ShiftTotals

/-- The cash that should be there beside the cash that is there. -/
structure ZReport where
  shiftId : String
  staffId : String
  state : ShiftState
  openedAt : Timestamp
  closedAt : Option Timestamp
  openingFloat : Money
  cashSales : Money
  mobileSales : Money
  creditSales : Money
  transactionCount : Int64
  expected : Money
  actual : Money
  /-- What is there less what should be: negative if cash is missing. -/
  variance : Money
  deriving DecidableEq, Repr

/-- The report of a shift from its totals and the cash that was counted. -/
def ZReport.ofTotals (shift : Shift) (totals : ShiftTotals) (actual : Money) : ZReport :=
  let expected := totals.expectedCash shift.openingFloat
  { shiftId := shift.id
    staffId := shift.staffId
    state := shift.state
    openedAt := shift.openedAt
    closedAt := shift.closedAt
    openingFloat := shift.openingFloat
    cashSales := totals.cash
    mobileSales := totals.mobile
    creditSales := totals.credit
    transactionCount := totals.receiptCount
    expected := expected
    actual := actual
    variance := Word.subClamped actual expected }

end Tillbook
