import Tillbook.Store.Action

/-!
# The roster

Statements on the staff: to engage, to look up, to suspend.
-/

namespace Tillbook.Roster

/-- The member of staff with an identity. -/
def find (id : String) : Action (Option Staff) := .read "staff" fun s => .ok (s.staffMember? id)

/-- The member of staff with a user name. -/
def findByUsername (username : String) : Action (Option Staff) :=
  .read "staff" fun s => .ok (s.staff.find? (·.username == username))

/-- The store with one more member of staff.  User names and identities are taken
by one member only. -/
def add (member : Staff) (s : Store) : Except StoreError Store :=
  if s.staff.any (·.username == member.username) then
    .error (.duplicate "staff.username" member.username)
  else if s.staff.any (·.id == member.id) then
    .error (.duplicate "staff.id" member.username)
  else .ok { s with staff := s.staff ++ [member] }

/-- Engages a member of staff. -/
def engage (member : Staff) : Action Staff :=
  .put "staff" fun s => do return (member, ← add member s)

/-- Marks a member of staff as active or not. -/
def setActive (id : String) (isActive : Bool) : Action Unit :=
  .put "staff" fun s =>
    if s.staff.any (·.id == id) then
      let staff := s.staff.map fun m => if m.id == id then { m with isActive := isActive } else m
      .ok ((), { s with staff := staff })
    else .error (.notFound "Staff" id)

end Tillbook.Roster
