import Tillbook.Store.Action

/-!
# Accounts

Statements on the customers and their balances.
-/

namespace Tillbook

/-- The customer, as long as the balance can be read. -/
def CustomerRow.read (row : CustomerRow) : Except StoreError Customer :=
  match row.balance.word? with
  | some balance => .ok { row.toCustomerCard with balance := balance }
  | none => .error (.outOfRange "current_balance_cents")

namespace Accounts

/-- The customer with an identity. -/
def find (id : String) : Action (Option Customer) :=
  .read "customers" fun s => (s.customer? id).mapM (·.read)

/-- The rule that a debt limit must keep. -/
def limitRule : StoreError := .checkFailed "debt_limit_cents >= 0"

/-- The store with one more customer. -/
def add (c : Customer) (s : Store) : Except StoreError Store :=
  if c.debtLimit < 0 then .error limitRule
  else if s.customers.any (·.id == c.id) then .error (.taken "customers.id")
  else
    let row : CustomerRow := { c.toCustomerCard with balance := .exact c.balance }
    .ok { s with customers := s.customers ++ [row] }

/-- Adds a customer. -/
def insert (c : Customer) : Action Customer := .put "customers" fun s => do return (c, ← add c s)

/-- The store with the row of a customer changed. -/
def change (id : String) (f : CustomerRow → CustomerRow) (s : Store) : Store :=
  { s with customers := s.customers.map fun row => if row.id == id then f row else row }

/-- Sets the limit of a customer. -/
def setLimit (now : Timestamp) (id : String) (limit : Money) : Action Unit :=
  .put "customers" fun s =>
    if (s.customer? id).isNone then .error (.notFound "Customer" id)
    else if limit < 0 then .error limitRule
    else .ok ((), change id (fun row => { row with debtLimit := limit, updatedAt := now }) s)

/-- The customers who owe something, the largest debt first. -/
def debtors : Action (List Customer) :=
  .read "customers" fun s =>
    let rows := s.customers.filter fun row => decide (0 < row.balance.value)
    (rows.mergeSort fun a b => b.balance.value ≤ a.balance.value).mapM (·.read)

/-- Moves the balance of a customer and tells the new one.  A rise above the limit,
like a customer who does not exist, moves nothing and tells nothing. -/
def moveBalance (now : Timestamp) (id : String) (delta : Money) : Action (Option Money) :=
  .write "customers" fun s =>
    match s.customer? id with
    | none => (.ok none, s)
    | some row =>
      let balance := row.balance.add delta
      if 0 < delta ∧ row.debtLimit.toInt < balance.value then (.ok none, s)
      else
        let moved := change id (fun row => { row with balance := balance, updatedAt := now }) s
        match balance.word? with
        | some word => (.ok (some word), moved)
        | none => (.error (.outOfRange "current_balance_cents"), moved)

/-- Sets the balance of a customer. -/
def setBalance (now : Timestamp) (id : String) (balance : Money) : Action Unit :=
  .put "customers" fun s =>
    if (s.customer? id).isNone then .error (.notFound "Customer" id)
    else
      let set (row : CustomerRow) := { row with balance := .exact balance, updatedAt := now }
      .ok ((), change id set s)

/-- Notes that a customer was dealt with, and tells whether there is one. -/
def touch (now : Timestamp) (id : String) : Action Bool :=
  .put "customers" fun s =>
    .ok ((s.customer? id).isSome, change id (fun row => { row with updatedAt := now }) s)

end Accounts

end Tillbook
