import Tillbook.Statement

/-!
# Sessions

A session is a store that several parties use: operations, each on a connection
of its own for as long as it lasts, and transactions that keep theirs until they
end.  There are only so many connections.  One transaction at a time may write;
the others see the store as it was at their first statement, and cannot write
once someone else has.

## Main definitions

* `Session` — the committed store, the connections, and the open transactions.
* `Session.perform` — an operation.
* `Session.start`, `Session.step`, `Session.finish` — a transaction.
* `Session.hold`, `Session.release`, `Session.shut`, `Session.migrate` — the connections.

## Main statements

* `Session.store_step` — what a transaction writes is not seen outside it.
* `Session.store_finish_of_dropped` — a dropped transaction leaves no trace.
* `Session.obtain_of_closed` — after closing, nothing is handed out.
-/

namespace Tillbook

/-- What a transaction sees: a store, and the version of the committed store that
it came from. -/
structure View where
  store : Store
  version : Nat
  deriving DecidableEq, Repr

/-- A transaction that has not ended. -/
structure Transaction where
  name : String
  /-- Absent until the first statement. -/
  view : Option View := none
  /-- It holds the lock. -/
  isWriter : Bool := false
  deriving DecidableEq, Repr

/-- A store in use. -/
structure Session where
  store : Store := {}
  /-- How often the committed store has changed. -/
  version : Nat := 0
  /-- The tables have been created. -/
  tables : Bool := true
  /-- No connection is handed out any more. -/
  closed : Bool := false
  /-- The number of connections. -/
  capacity : Nat := 1
  /-- Connections taken and put to no use. -/
  held : Nat := 0
  transactions : List Transaction := []
  deriving DecidableEq, Repr

namespace Session

/-- The connections in use between operations. -/
def inUse (s : Session) : Nat := s.held + s.transactions.length

/-- Why no connection can be had, if none can. -/
def unavailable (s : Session) : Option StoreError :=
  if s.closed then some .poolClosed
  else if s.capacity ≤ s.inUse then some .poolExhausted
  else none

/-- What an operation outside the transactions may do. -/
def access (s : Session) : Access :=
  ⟨s.unavailable, s.tables, s.transactions.any (·.isWriter)⟩

/-- The session with a new committed store; its version moves on if it changed. -/
def commitStore (s : Session) (store : Store) : Session :=
  if store = s.store then s else { s with store := store, version := s.version + 1 }

/-- A step outside the transactions. -/
def act {α : Type} (s : Session) (p : Action α) : Except LedgerError α × Session :=
  let (result, store) := p.run s.access s.store
  (result, s.commitStore store)

/-- An operation, asked through a ledger. -/
def perform (s : Session) (ledger : Ledger) (stamp : Stamp) (op : Operation) :
    Except LedgerError Reply × Session :=
  s.act (op.action ledger stamp)

/-- A connection for longer than an operation, or why there is none. -/
def obtain (s : Session) (taken : Session) : Except StoreError Unit × Session :=
  match s.unavailable with
  | some why => (.error why, s)
  | none => (.ok (), taken)

/-- Opens a transaction. -/
def start (s : Session) (name : String) : Except StoreError Unit × Session :=
  s.obtain { s with transactions := s.transactions ++ [{ name := name }] }

/-- The open transaction of a name. -/
def transaction? (s : Session) (name : String) : Option Transaction :=
  s.transactions.find? (·.name == name)

/-- The session with a transaction of the same name replaced. -/
def withTransaction (s : Session) (t : Transaction) : Session :=
  { s with transactions := s.transactions.map fun u => if u.name == t.name then t else u }

/-- What a transaction sees at its next statement. -/
def viewOf (s : Session) (t : Transaction) : View := t.view.getD ⟨s.store, s.version⟩

/-- What a transaction may do.  It cannot write while another one holds the lock,
nor once the committed store has moved on from what it sees. -/
def accessOf (s : Session) (t : Transaction) : Access :=
  let others := s.transactions.any fun u => u.name != t.name && u.isWriter
  ⟨none, s.tables, !t.isWriter && (others || (s.viewOf t).version != s.version)⟩

/-- A statement in an open transaction.  A statement that finds its tables gives
the transaction its view, unless it is a write that fails for want of the lock;
any other write takes the lock. -/
def step (s : Session) (t : Transaction) (stamp : Stamp) (statement : Statement) :
    Except LedgerError Reply × Session :=
  let acc := s.accessOf t
  let view := s.viewOf t
  let (result, store) := (statement.action stamp).run acc view.store
  if !s.tables || (statement.writes && acc.busy) then (result, s)
  else
    let after : Transaction :=
      { t with
        view := some { view with store := store }
        isWriter := t.isWriter || statement.writes }
    (result, s.withTransaction after)

/-- Ends a transaction; what it wrote is kept or dropped. -/
def finish (s : Session) (t : Transaction) (keep : Bool) : Session :=
  let rest := { s with transactions := s.transactions.filter (·.name != t.name) }
  match t.view with
  | some view => if keep && t.isWriter then rest.commitStore view.store else rest
  | none => rest

/-- Takes a connection and puts it to no use. -/
def hold (s : Session) : Except StoreError Unit × Session := s.obtain { s with held := s.held + 1 }

/-- Gives back a connection that was taken so. -/
def release (s : Session) : Session := { s with held := s.held - 1 }

/-- Hands out no connection any more. -/
def shut (s : Session) : Session := { s with closed := true }

/-- Whether the store answers at all. -/
def healthy (s : Session) : Bool := s.unavailable.isNone

/-- Creates the tables if they are missing. -/
def migrate (s : Session) : Except StoreError Unit × Session :=
  match s.unavailable with
  | some why => (.error (.migrationFailed why.message), s)
  | none => (.ok (), { s with tables := true })

/-- How many migrations there are and how many were applied. -/
def migrationStatus (s : Session) : Except LedgerError (Nat × Nat) :=
  (s.act (.read "_sqlx_migrations" fun _ => .ok (1, 1))).1

@[simp] theorem store_commitStore (s : Session) (store : Store) :
    (s.commitStore store).store = store := by
  unfold commitStore
  split
  · next h => exact h.symm
  · rfl

/-- A step outside the transactions answers and changes what its action does. -/
theorem act_eq {α : Type} (s : Session) (p : Action α) :
    (s.act p).1 = (p.run s.access s.store).1 ∧
      (s.act p).2.store = (p.run s.access s.store).2 := by
  unfold act
  exact ⟨rfl, store_commitStore _ _⟩

/-- A statement in a transaction leaves the committed store as it was. -/
theorem store_step (s : Session) (t : Transaction) (stamp : Stamp) (statement : Statement) :
    (s.step t stamp statement).2.store = s.store := by
  unfold step
  dsimp only
  split <;> rfl

/-- A transaction that is dropped leaves the committed store as it was. -/
theorem store_finish_of_dropped (s : Session) (t : Transaction) :
    (s.finish t false).store = s.store := by
  unfold finish
  cases t.view <;> rfl

/-- After closing, nothing is handed out. -/
theorem obtain_of_closed {s : Session} (h : s.closed = true) (taken : Session) :
    s.obtain taken = (.error .poolClosed, s) := by
  simp [obtain, unavailable, h]

end Session

end Tillbook
