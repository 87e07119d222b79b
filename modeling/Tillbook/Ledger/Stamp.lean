import Tillbook.Timestamp

/-!
# Stamps

An operation takes its moments and the identities of what it makes from outside,
so that it is a function of the request and the store.
-/

namespace Tillbook

/-- The moments of an operation, and identities that were never given out before. -/
structure Stamp where
  now : Timestamp
  /-- The moment at which an operation looks at the clock again. -/
  later : Timestamp
  /-- The identity of the receipt, shift, customer or member of staff. -/
  id : String
  /-- The identities of the lines of a receipt. -/
  itemId : Nat → String
  /-- The identities of the tenders of a receipt. -/
  tenderId : Nat → String

end Tillbook
