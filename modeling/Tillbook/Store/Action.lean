import Tillbook.Failure
import Tillbook.Store.Rows

/-!
# Actions

An action is a step of the ledger on the store: it ends with a result or a
failure, and leaves a store either way.  Its building blocks are single
statements, which read or write one table.  Several statements become one
operation by `atomically`, which leaves the store as it was if any of them fails.

## Main definitions

* `Access` — what the store allows at the moment.
* `Action` — a step on the store.
* `Action.read`, `Action.write` — single statements.
* `Action.atomically` — all or nothing.

## Main statements

* `Action.run_read_store` — reading leaves the store as it was.
* `Action.run_put_store_of_error` — so does a statement that fails to put a row.
* `Action.atomically_store_of_error` — so does an operation that fails.
-/

namespace Tillbook

/-- What the store allows at the moment. -/
structure Access where
  /-- No connection can be had, for this reason. -/
  unavailable : Option StoreError := none
  /-- The tables have been created. -/
  tables : Bool := true
  /-- Another transaction holds the lock, or this one reads an old state. -/
  busy : Bool := false
  deriving DecidableEq, Repr

/-- A step on the store. -/
structure Action (α : Type) where
  run : Access → Store → Except LedgerError α × Store

namespace Action

variable {α β : Type}

/-- An available result. -/
def pure (a : α) : Action α := ⟨fun _ s => (.ok a, s)⟩

/-- One step after another; a failure ends them and keeps what is written. -/
def bind (p : Action α) (f : α → Action β) : Action β :=
  ⟨fun acc s =>
    match p.run acc s with
    | (.ok a, s) => (f a).run acc s
    | (.error e, s) => (.error e, s)⟩

instance : Monad Action where
  pure := pure
  bind := bind

/-- A failure. -/
def fail (e : LedgerError) : Action α := ⟨fun _ s => (.error e, s)⟩

/-- A business rule forbids what follows. -/
def refuse (why : Refusal) : Action α := fail (.refused why)

/-- The result of a check that does not look at the store. -/
def ofRefusal : Except Refusal α → Action α
  | .ok a => pure a
  | .error why => refuse why

/-- The result of arithmetic. -/
def ofOverflow : Except Overflow α → Action α
  | .ok a => pure a
  | .error why => fail (.overflow why)

/-- What stands in the way of a statement on `table`. -/
def obstacle (acc : Access) (table : String) : Option StoreError :=
  match acc.unavailable with
  | some why => some why
  | none => if acc.tables then none else some (.noTable table)

/-- A statement that reads. -/
def read (table : String) (f : Store → Except StoreError α) : Action α :=
  ⟨fun acc s =>
    match obstacle acc table with
    | some why => (.error (.store why), s)
    | none => ((f s).mapError .store, s)⟩

/-- A statement that writes.  What it writes stays even if its result cannot be
told. -/
def write (table : String) (f : Store → Except StoreError α × Store) : Action α :=
  ⟨fun acc s =>
    match obstacle acc table with
    | some why => (.error (.store why), s)
    | none =>
      if acc.busy then (.error (.store .locked), s)
      else ((f s).1.mapError .store, (f s).2)⟩

/-- A statement that writes a whole row, or fails and writes nothing. -/
def put (table : String) (f : Store → Except StoreError (α × Store)) : Action α :=
  write table fun s =>
    match f s with
    | .ok (a, s) => (.ok a, s)
    | .error why => (.error why, s)

/-- All or nothing: a failure leaves the store as it was. -/
def atomically (p : Action α) : Action α :=
  ⟨fun acc s =>
    match p.run acc s with
    | (.ok a, s) => (.ok a, s)
    | (.error e, _) => (.error e, s)⟩

@[simp] theorem run_pure (a : α) (acc : Access) (s : Store) :
    (Pure.pure a : Action α).run acc s = (.ok a, s) := rfl

theorem run_bind (p : Action α) (f : α → Action β) (acc : Access) (s : Store) :
    (p >>= f).run acc s =
      match p.run acc s with
      | (.ok a, s) => (f a).run acc s
      | (.error e, s) => (.error e, s) := rfl

@[ext] theorem ext {p q : Action α} (h : ∀ acc s, p.run acc s = q.run acc s) : p = q := by
  cases p
  cases q
  exact congrArg Action.mk (funext fun acc => funext fun s => h acc s)

/-- Steps may be put together in any way that keeps their order. -/
instance : LawfulMonad Action :=
  LawfulMonad.mk' Action
    (by
      intro α p
      apply Action.ext
      intro acc s
      change (p >>= fun a => Pure.pure a).run acc s = p.run acc s
      rw [run_bind]
      rcases p.run acc s with ⟨_ | _, _⟩ <;> rfl)
    (fun _ _ => rfl)
    (by
      intro α β γ p f g
      apply Action.ext
      intro acc s
      simp only [run_bind]
      rcases p.run acc s with ⟨_ | _, _⟩ <;> rfl)

/-- What follows a step that succeeds. -/
theorem run_bind_of_ok {p : Action α} {f : α → Action β} {acc : Access} {s s' : Store} {a : α}
    (h : p.run acc s = (.ok a, s')) : (p >>= f).run acc s = (f a).run acc s' := by
  rw [run_bind, h]

/-- Nothing follows a step that fails. -/
theorem run_bind_of_error {p : Action α} {f : α → Action β} {acc : Access} {s s' : Store}
    {e : LedgerError} (h : p.run acc s = (.error e, s')) :
    (p >>= f).run acc s = (.error e, s') := by
  rw [run_bind, h]

/-- A statement that reads leaves the store as it was. -/
@[simp] theorem run_read_store (table : String) (f : Store → Except StoreError α) (acc : Access)
    (s : Store) : ((read table f).run acc s).2 = s := by
  simp only [read]
  split <;> rfl

/-- A statement that fails to put a row leaves the store as it was. -/
theorem run_put_store_of_error {table : String} {f : Store → Except StoreError (α × Store)}
    {acc : Access} {s : Store} {e : LedgerError} (h : ((put table f).run acc s).1 = .error e) :
    ((put table f).run acc s).2 = s := by
  simp only [put, write] at h ⊢
  split at h
  · rfl
  · cases hb : acc.busy with
    | true => rfl
    | false =>
      cases hf : f s with
      | ok r =>
        rw [hb, hf] at h
        nomatch h
      | error why => rfl

/-- A failed operation leaves the store as it was. -/
theorem atomically_store_of_error {p : Action α} {acc : Access} {s : Store} {e : LedgerError}
    (h : ((atomically p).run acc s).1 = .error e) : ((atomically p).run acc s).2 = s := by
  unfold atomically at h ⊢
  cases hp : p.run acc s with
  | mk r s' => cases r <;> simp_all

end Action

end Tillbook
