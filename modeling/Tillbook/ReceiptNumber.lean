import Tillbook.Text.Digits

/-!
# Receipt numbers

A receipt number is the name of a station, a hyphen, and the station's counter
in at least five characters.
-/

namespace Tillbook.ReceiptNumber

/-- The number of the `n`th receipt of a station. -/
def format (station : String) (n : Int64) : String :=
  String.ofList (station.toList ++ '-' :: Text.paddedInt 5 n.toInt)

end Tillbook.ReceiptNumber
