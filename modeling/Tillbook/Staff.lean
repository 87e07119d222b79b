import Tillbook.Timestamp

/-!
# Staff

The people who ring up receipts and own shifts.
-/

namespace Tillbook

/-- The role of a member of staff. -/
inductive StaffRole where
  | admin
  | cashier
  deriving DecidableEq, Repr

/-- The name of a role. -/
def StaffRole.name : StaffRole → String
  | .admin => "admin"
  | .cashier => "cashier"

/-- A member of staff.  One who is not active keeps a history but does no business. -/
structure Staff where
  id : String
  username : String
  fullName : Option String
  role : StaffRole
  isActive : Bool
  createdAt : Timestamp
  deriving DecidableEq, Repr

end Tillbook
