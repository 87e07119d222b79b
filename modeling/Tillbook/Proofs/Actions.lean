import Tillbook.Proofs.Outcomes
import Tillbook.Store.Action

/-!
# What actions do

An action is opened here once and for all: when a statement or a chain of steps
succeeds, and which actions keep the store.  Later modules take operations apart
by these laws and look at no access and no failure again.

## Main definitions

* `Access.Readable`, `Access.Writable` — nothing stands in the way.
* `Access.Ordinary` — what stands in the way is what a pool of connections knows.
* `Action.ReadOnly` — the store stays as it was.
* `Action.Traceless` — it does so after a failure.
* `Action.Untaken` — a failure that never happens.
* `Action.Answers` — the one failure that happens, if any.

## Main statements

* `Action.run_bind_eq_ok_iff` — a chain succeeds if each of its parts does.
* `Action.run_read_eq_ok_iff`, `Action.run_write_eq_ok_iff`, `Action.run_put_eq_ok_iff` —
  when a statement succeeds.
* `Action.Answers.bind` — a chain stops at the first fault.
-/

namespace Tillbook

namespace Access

/-- The tables can be read. -/
def Readable (acc : Access) : Prop := acc.unavailable = none ∧ acc.tables = true

/-- The tables can be written. -/
def Writable (acc : Access) : Prop := acc.Readable ∧ acc.busy = false

/-- If no connection can be had, then because none is left or none is handed out. -/
def Ordinary (acc : Access) : Prop :=
  ∀ why, acc.unavailable = some why → why = .poolClosed ∨ why = .poolExhausted

instance (acc : Access) : Decidable acc.Readable :=
  inferInstanceAs (Decidable (acc.unavailable = none ∧ acc.tables = true))

instance (acc : Access) : Decidable acc.Writable :=
  inferInstanceAs (Decidable (acc.Readable ∧ acc.busy = false))

end Access

namespace Action

variable {α β : Type} {acc : Access} {s s' : Store}

/-! ## Success -/

theorem obstacle_eq_none_iff (table : String) : obstacle acc table = none ↔ acc.Readable := by
  unfold obstacle Access.Readable
  cases acc.unavailable <;> simp

theorem fst_eq_ok_iff {p : Action α} {a : α} :
    (p.run acc s).1 = .ok a ↔ ∃ s', p.run acc s = (.ok a, s') := by
  constructor
  · exact fun h => ⟨_, Prod.ext h rfl⟩
  · rintro ⟨_, h⟩
    exact congrArg Prod.fst h

/-- A chain succeeds if its first part does and then the rest. -/
theorem run_bind_eq_ok_iff {p : Action α} {f : α → Action β} {b : β} :
    (p >>= f).run acc s = (.ok b, s') ↔
      ∃ a t, p.run acc s = (.ok a, t) ∧ (f a).run acc t = (.ok b, s') := by
  rw [run_bind]
  rcases p.run acc s with ⟨_ | a, t⟩
  · simp
  · constructor
    · intro h
      exact ⟨a, t, rfl, h⟩
    · rintro ⟨_, _, ⟨⟩, h⟩
      exact h

/-- A chain fails in its first part or in the rest. -/
theorem run_bind_eq_error_iff {p : Action α} {f : α → Action β} {e : LedgerError} :
    (p >>= f).run acc s = (.error e, s') ↔
      p.run acc s = (.error e, s') ∨
        ∃ a t, p.run acc s = (.ok a, t) ∧ (f a).run acc t = (.error e, s') := by
  rw [run_bind]
  rcases p.run acc s with ⟨_ | a, t⟩
  · simp
  · constructor
    · intro h
      exact .inr ⟨a, t, rfl, h⟩
    · rintro (h | ⟨_, _, ⟨⟩, h⟩)
      · nomatch h
      · exact h

theorem run_pure_eq_ok_iff {a b : α} :
    (Pure.pure a : Action α).run acc s = (.ok b, s') ↔ a = b ∧ s = s' := by
  simp

/-- What only puts an answer together succeeds with what it is made of. -/
theorem run_bind_pure_eq_ok_iff {p : Action α} {g : α → β} {b : β} :
    (p >>= fun a => Pure.pure (g a)).run acc s = (.ok b, s') ↔
      ∃ a, p.run acc s = (.ok a, s') ∧ g a = b := by
  rw [run_bind_eq_ok_iff]
  constructor
  · rintro ⟨a, t, h, last⟩
    obtain ⟨rfl, rfl⟩ := run_pure_eq_ok_iff.1 last
    exact ⟨a, h, rfl⟩
  · rintro ⟨a, h, rfl⟩
    exact ⟨a, s', h, rfl⟩

@[simp] theorem run_refuse (why : Refusal) (acc : Access) (s : Store) :
    (refuse why : Action α).run acc s = (.error (.refused why), s) := rfl

theorem run_ofRefusal_eq_ok_iff {check : Except Refusal α} {a : α} :
    (ofRefusal check).run acc s = (.ok a, s') ↔ check = .ok a ∧ s = s' := by
  cases check with
  | ok b => exact (run_pure_eq_ok_iff (a := b)).trans (by simp)
  | error why => simp [ofRefusal]

theorem run_ofOverflow_eq_ok_iff {result : Except Overflow α} {a : α} :
    (ofOverflow result).run acc s = (.ok a, s') ↔ result = .ok a ∧ s = s' := by
  cases result with
  | ok b => exact (run_pure_eq_ok_iff (a := b)).trans (by simp)
  | error why => simp [ofOverflow, fail]

/-- A statement that reads succeeds if the tables can be read and the answer makes sense. -/
theorem run_read_eq_ok_iff {table : String} {f : Store → Except StoreError α} {a : α} :
    (read table f).run acc s = (.ok a, s') ↔ acc.Readable ∧ f s = .ok a ∧ s = s' := by
  rw [← obstacle_eq_none_iff table]
  simp only [read]
  cases obstacle acc table with
  | some why => simp
  | none => simp

/-- A statement that writes succeeds if the tables can be written and the answer makes sense. -/
theorem run_write_eq_ok_iff {table : String} {f : Store → Except StoreError α × Store} {a : α} :
    (write table f).run acc s = (.ok a, s') ↔ acc.Writable ∧ f s = (.ok a, s') := by
  rw [Access.Writable, ← obstacle_eq_none_iff table]
  simp only [write]
  cases obstacle acc table with
  | some why => simp
  | none => cases acc.busy <;> simp [Prod.ext_iff]

/-- A statement that puts a row succeeds if the tables can be written and keep their rules. -/
theorem run_put_eq_ok_iff {table : String} {f : Store → Except StoreError (α × Store)} {a : α} :
    (put table f).run acc s = (.ok a, s') ↔ acc.Writable ∧ f s = .ok (a, s') := by
  rw [put, run_write_eq_ok_iff]
  cases f s <;> simp [Prod.ext_iff]

theorem run_atomically_fst (p : Action α) : ((atomically p).run acc s).1 = (p.run acc s).1 := by
  simp only [atomically]
  rcases p.run acc s with ⟨_ | _, _⟩ <;> rfl

theorem run_atomically_eq_ok_iff {p : Action α} {a : α} :
    (atomically p).run acc s = (.ok a, s') ↔ p.run acc s = (.ok a, s') := by
  simp only [atomically]
  rcases p.run acc s with ⟨_ | b, t⟩ <;> simp

/-! ## Actions that keep the store -/

/-- The action leaves the store as it was. -/
def ReadOnly (p : Action α) : Prop := ∀ acc s, (p.run acc s).2 = s

/-- After a failure the store is as it was. -/
def Traceless (p : Action α) : Prop := ∀ acc s e, (p.run acc s).1 = .error e → (p.run acc s).2 = s

theorem readOnly_pure (a : α) : (Pure.pure a : Action α).ReadOnly := fun _ _ => rfl

theorem readOnly_refuse (why : Refusal) : (refuse why : Action α).ReadOnly := fun _ _ => rfl

theorem readOnly_ofRefusal (check : Except Refusal α) : (ofRefusal check).ReadOnly := by
  intro acc s
  cases check <;> rfl

theorem readOnly_ofOverflow (result : Except Overflow α) : (ofOverflow result).ReadOnly := by
  intro acc s
  cases result <;> rfl

theorem readOnly_read (table : String) (f : Store → Except StoreError α) :
    (read table f).ReadOnly :=
  run_read_store table f

theorem ReadOnly.bind {p : Action α} {f : α → Action β} (hp : p.ReadOnly)
    (hf : ∀ a, (f a).ReadOnly) : (p >>= f).ReadOnly := by
  intro acc s
  have first := hp acc s
  rw [run_bind]
  rcases hrun : p.run acc s with ⟨_ | a, t⟩
  · rwa [hrun] at first
  · rw [hrun] at first
    exact (hf a acc t).trans first

theorem ReadOnly.traceless {p : Action α} (hp : p.ReadOnly) : p.Traceless :=
  fun acc s _ _ => hp acc s

theorem traceless_put (table : String) (f : Store → Except StoreError (α × Store)) :
    (put table f).Traceless :=
  fun _ _ _ h => run_put_store_of_error h

theorem traceless_atomically (p : Action α) : (atomically p).Traceless :=
  fun _ _ _ h => atomically_store_of_error h

/-- Checks in front leave no trace either. -/
theorem ReadOnly.bind_traceless {p : Action α} {f : α → Action β} (hp : p.ReadOnly)
    (hf : ∀ a, (f a).Traceless) : (p >>= f).Traceless := by
  intro acc s e h
  have first := hp acc s
  rw [run_bind] at h ⊢
  rcases hrun : p.run acc s with ⟨_ | a, t⟩
  · rwa [hrun] at first
  · rw [hrun] at h first
    exact (hf a acc t e h).trans first

/-- Nor does what only puts the answer together. -/
theorem Traceless.bind_pure {p : Action α} {f : α → Action β} (hp : p.Traceless)
    (hf : ∀ a, ∃ b, f a = Pure.pure b) : (p >>= f).Traceless := by
  intro acc s e h
  have first := hp acc s
  rw [run_bind] at h ⊢
  rcases hrun : p.run acc s with ⟨e' | a, t⟩
  · rw [hrun] at first
    exact first e' rfl
  · obtain ⟨b, hb⟩ := hf a
    simp [hrun, hb] at h

/-! ## Failures that never happen -/

/-- With an ordinary access the action never finds a value of this column taken. -/
def Untaken (column : String) (p : Action α) : Prop :=
  ∀ acc s, acc.Ordinary → (p.run acc s).1 ≠ .error (.store (.taken column))

variable {column : String}

theorem obstacle_ne_taken {table : String} (ordinary : acc.Ordinary) :
    obstacle acc table ≠ some (.taken column) := by
  unfold obstacle
  cases h : acc.unavailable with
  | none => cases acc.tables <;> simp [StoreError.noTable, StoreError.taken]
  | some why =>
    rcases ordinary why h with rfl | rfl <;> simp [StoreError.poolClosed, StoreError.taken]

theorem untaken_pure (a : α) : (Pure.pure a : Action α).Untaken column := fun _ _ _ => nofun

theorem untaken_refuse (why : Refusal) : (refuse why : Action α).Untaken column :=
  fun _ _ _ => nofun

theorem untaken_ofRefusal (check : Except Refusal α) : (ofRefusal check).Untaken column := by
  cases check with
  | ok a => exact untaken_pure a
  | error why => exact untaken_refuse why

theorem untaken_ofOverflow (result : Except Overflow α) : (ofOverflow result).Untaken column := by
  cases result with
  | ok a => exact untaken_pure a
  | error why => exact fun _ _ _ => nofun

theorem untaken_read {table : String} {f : Store → Except StoreError α}
    (hf : ∀ s, f s ≠ .error (.taken column)) : (read table f).Untaken column := by
  intro acc s ordinary h
  simp only [read] at h
  split at h
  · next why obstacle =>
    simp only [Except.error.injEq, LedgerError.store.injEq] at h
    exact obstacle_ne_taken ordinary (h ▸ obstacle)
  · obtain ⟨why, failed, same⟩ := mapError_eq_error_iff.1 h
    exact hf s (LedgerError.store.inj same ▸ failed)

/-- Only the statement itself finds a value taken. -/
theorem taken_of_run_write {table : String} {f : Store → Except StoreError α × Store}
    (ordinary : acc.Ordinary)
    (h : ((write table f).run acc s).1 = .error (.store (.taken column))) :
    (f s).1 = .error (.taken column) := by
  simp only [write] at h
  split at h
  · next why obstacle =>
    simp only [Except.error.injEq, LedgerError.store.injEq] at h
    exact absurd (h ▸ obstacle) (obstacle_ne_taken ordinary)
  · split at h
    · simp [StoreError.locked, StoreError.taken] at h
    · obtain ⟨why, failed, same⟩ := mapError_eq_error_iff.1 h
      exact LedgerError.store.inj same ▸ failed

theorem taken_of_run_put {table : String} {f : Store → Except StoreError (α × Store)}
    (ordinary : acc.Ordinary) (h : ((put table f).run acc s).1 = .error (.store (.taken column))) :
    f s = .error (.taken column) := by
  have found := taken_of_run_write ordinary h
  cases hfs : f s with
  | ok a => simp [hfs] at found
  | error why =>
    rw [hfs] at found
    exact congrArg Except.error (Except.error.inj found)

theorem untaken_write {table : String} {f : Store → Except StoreError α × Store}
    (hf : ∀ s, (f s).1 ≠ .error (.taken column)) : (write table f).Untaken column :=
  fun _ s ordinary h => hf s (taken_of_run_write ordinary h)

theorem untaken_put {table : String} {f : Store → Except StoreError (α × Store)}
    (hf : ∀ s, f s ≠ .error (.taken column)) : (put table f).Untaken column :=
  fun _ s ordinary h => hf s (taken_of_run_put ordinary h)

/-- After a part that never finds a value taken it is the rest that does. -/
theorem Untaken.rest {p : Action α} {f : α → Action β} (hp : p.Untaken column)
    (ordinary : acc.Ordinary)
    (h : ((p >>= f).run acc s).1 = .error (.store (.taken column))) :
    ∃ a t, p.run acc s = (.ok a, t) ∧ ((f a).run acc t).1 = .error (.store (.taken column)) := by
  rcases run_bind_eq_error_iff.1 (Prod.ext h rfl) with first | ⟨a, t, run, rest⟩
  · exact absurd (congrArg Prod.fst first) (hp acc s ordinary)
  · exact ⟨a, t, run, congrArg Prod.fst rest⟩

theorem Untaken.bind {p : Action α} {f : α → Action β} (hp : p.Untaken column)
    (hf : ∀ a, (f a).Untaken column) : (p >>= f).Untaken column := by
  intro acc s ordinary h
  obtain ⟨a, t, -, rest⟩ := hp.rest ordinary h
  exact hf a acc t ordinary rest

/-! ## The first fault -/

/-- The action fails with the fault, or it succeeds if there is none. -/
def Answers (p : Action α) (acc : Access) (s : Store) : Option LedgerError → Prop
  | some e => (p.run acc s).1 = .error e
  | none => ∃ a, (p.run acc s).1 = .ok a

variable {p : Action α} {f : α → Action β} {fault rest : Option LedgerError}

theorem answers_pure (a : α) : (Pure.pure a : Action α).Answers acc s none := ⟨a, rfl⟩

theorem answers_refuse (why : Refusal) :
    (refuse why : Action α).Answers acc s (some (.refused why)) := rfl

/-- The fault of arithmetic, if there is one. -/
def overflow? (result : Except Overflow α) : Option LedgerError :=
  match result with
  | .ok _ => none
  | .error why => some (.overflow why)

@[simp] theorem overflow?_ne_refused (result : Except Overflow α) (why : Refusal) :
    overflow? result ≠ some (.refused why) := by
  cases result <;> simp [overflow?]

theorem answers_ofOverflow (result : Except Overflow α) :
    (ofOverflow result).Answers acc s (overflow? result) := by
  cases result with
  | ok a => exact answers_pure a
  | error why => rfl

/-- Only the answer counts, not the store that is left. -/
theorem Answers.of_fst {q : Action α} {t : Store} (h : q.Answers acc t fault)
    (same : (p.run acc s).1 = (q.run acc t).1) : p.Answers acc s fault := by
  cases fault with
  | some e => exact same.trans h
  | none =>
    obtain ⟨a, done⟩ := h
    exact ⟨a, same.trans done⟩

/-- After a step that succeeds the fault is that of the rest. -/
theorem Answers.bind_of_ok {a : α} {t : Store} (first : p.run acc s = (.ok a, t))
    (later : (f a).Answers acc t fault) : (p >>= f).Answers acc s fault :=
  later.of_fst (congrArg Prod.fst (run_bind_of_ok first))

/-- A chain stops at the first fault. -/
theorem Answers.bind (first : p.Answers acc s fault)
    (later : ∀ a t, p.run acc s = (.ok a, t) → (f a).Answers acc t rest) :
    (p >>= f).Answers acc s (fault.or rest) := by
  cases fault with
  | some e =>
    have failed : p.run acc s = (.error e, (p.run acc s).2) := Prod.ext first rfl
    exact congrArg Prod.fst (run_bind_of_error failed)
  | none =>
    obtain ⟨a, done⟩ := first
    exact .bind_of_ok (Prod.ext done rfl) (later a _ (Prod.ext done rfl))

theorem Answers.atomically (h : p.Answers acc s fault) :
    (atomically p).Answers acc s fault :=
  h.of_fst (run_atomically_fst p)

/-- What cannot fail adds no fault. -/
theorem Answers.bind_none (first : p.Answers acc s fault)
    (later : ∀ a t, p.run acc s = (.ok a, t) → (f a).Answers acc t none) :
    (p >>= f).Answers acc s fault := by
  have whole := first.bind later
  rwa [Option.or_none] at whole

/-- What is read from a table that can be read decides about the rest. -/
theorem Answers.of_read {table : String} {look : Store → Except StoreError α} {a : α}
    (readable : acc.Readable) (told : look s = .ok a) (later : (f a).Answers acc s fault) :
    (read table look >>= f).Answers acc s fault :=
  later.bind_of_ok (run_read_eq_ok_iff.2 ⟨readable, told, rfl⟩)

/-- A statement that finds a rule of the tables broken fails with it. -/
theorem run_put_of_error {table : String} {g : Store → Except StoreError (α × Store)}
    {why : StoreError} (writable : acc.Writable) (broken : g s = .error why) :
    (put table g).run acc s = (.error (.store why), s) := by
  have free := (obstacle_eq_none_iff table).2 writable.1
  simp [put, write, free, writable.2, broken]

/-- An action succeeds if it has no fault. -/
theorem Answers.ok_iff (h : p.Answers acc s fault) :
    (∃ a, (p.run acc s).1 = .ok a) ↔ fault = none := by
  cases fault with
  | some e =>
    change (p.run acc s).1 = .error e at h
    simp [h]
  | none => exact ⟨fun _ => rfl, fun _ => h⟩

/-- An action with at most one fault fails with it and with nothing else. -/
theorem Answers.error_iff (h : p.Answers acc s fault) (e : LedgerError) :
    (p.run acc s).1 = .error e ↔ fault = some e := by
  cases fault with
  | some other =>
    rw [h]
    simp
  | none =>
    obtain ⟨a, done⟩ := h
    rw [done]
    simp

end Action

end Tillbook
