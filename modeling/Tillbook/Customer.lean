import Tillbook.Money
import Tillbook.Timestamp

/-!
# Customers

A customer may buy on credit up to a limit.  A positive balance is what the
customer owes the shop.
-/

namespace Tillbook

/-- What is known of a customer apart from the balance. -/
structure CustomerCard where
  id : String
  name : String
  phone : Option String
  email : Option String
  /-- The number under which the tax authority knows the customer. -/
  taxPin : Option String
  debtLimit : Money
  createdAt : Timestamp
  updatedAt : Timestamp
  deriving DecidableEq, Repr

/-- A customer with the balance. -/
structure Customer extends CustomerCard where
  balance : Money
  deriving DecidableEq, Repr

/-- The credit that is left below the limit; negative above it. -/
def Customer.availableCredit (c : Customer) : Except Overflow Money :=
  Word.sub c.debtLimit c.balance

end Tillbook
