import Tillbook.Operation
import Tillbook.Wire.Records

/-!
# Replies on the wire
-/

namespace Tillbook

/-- What came of telling a sink: its name, the receipt's number, the number of its
lines, and whether the sink took note. -/
def Delivery.toJson (d : Delivery) : Json :=
  .arr [.str d.sink, .str d.committed.receipt.number, .int d.committed.items.length,
    .bool (d.outcome == .noted)]

/-- The value of a reply. -/
def Reply.toJson : Reply → Json
  | .done => .null
  | .flag b => .bool b
  | .number n => .word n
  | .optionalNumber n => .optional .word n
  | .count n => .int n
  | .text s => .str s
  | .staff m => .optional Staff.toJson m
  | .product p => .optional Product.toJson p
  | .products ps => .arr (ps.map Product.toJson)
  | .customer c => .optional Customer.toJson c
  | .customers cs => .arr (cs.map Customer.toJson)
  | .shift s => .optional Shift.toJson s
  | .shifts ss => .arr (ss.map Shift.toJson)
  | .receipt r => .optional Receipt.toJson r
  | .receipts rs => .arr (rs.map Receipt.toJson)
  | .items is => .arr (is.map SaleItem.toJson)
  | .tenders ts => .arr (ts.map Tender.toJson)
  | .lines ls => .arr (ls.map TenderLine.toJson)
  | .alerts as => .arr (as.map StockAlert.toJson)
  | .report z => z.toJson
  | .committed c _ => c.toJson

end Tillbook
