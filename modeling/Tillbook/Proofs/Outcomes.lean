/-!
# Outcomes of checked steps

A computation that may be refused has a result exactly if each of its steps has one.  These are
the steps in a row, a step for each part of a list and a step for the part that may be there.

## Main statements

* `bind_eq_ok_iff` — two steps, one after the other.
* `ite_error_eq_ok_iff` — a check before a step.
* `mapError_eq_ok_iff`, `mapError_eq_error_iff` — a step whose failure gets another name.
* `forM_eq_ok_iff`, `exists_mapM_eq_ok_iff` — a step for each part of a list.
* `mapM_eq_ok_some_iff` — a step for a part that may be missing.
-/

namespace Tillbook

theorem bind_eq_ok_iff {ε α β : Type} {x : Except ε α} {f : α → Except ε β} {b : β} :
    (x >>= f) = .ok b ↔ ∃ a, x = .ok a ∧ f a = .ok b := by
  cases x <;> simp [bind, Except.bind]

theorem bind_unit_eq_ok_iff {ε β : Type} {x : Except ε Unit} {f : Unit → Except ε β} {b : β} :
    (x >>= f) = .ok b ↔ x = .ok () ∧ f () = .ok b :=
  bind_eq_ok_iff.trans ⟨fun ⟨_, h⟩ => h, fun h => ⟨(), h⟩⟩

/-- What comes after a check is reached if the check finds nothing. -/
theorem ite_error_eq_ok_iff {ε α : Type} {p : Prop} [Decidable p] {err : ε} {x : Except ε α}
    {a : α} : (if p then .error err else x) = .ok a ↔ ¬p ∧ x = .ok a := by
  by_cases h : p <;> simp [h]

theorem forM_eq_ok_iff {ε α : Type} {f : α → Except ε Unit} {as : List α} :
    as.forM f = .ok () ↔ ∀ a ∈ as, f a = .ok () := by
  induction as with
  | nil => simp [List.forM, pure, Except.pure]
  | cons a rest ih =>
    rw [List.forall_mem_cons, ← ih, List.forM]
    cases f a <;> simp [bind, Except.bind]

@[simp] theorem mapError_eq_ok_iff {ε ε' α : Type} {x : Except ε α} {f : ε → ε'} {a : α} :
    x.mapError f = .ok a ↔ x = .ok a := by
  cases x with
  | error err => exact ⟨nofun, nofun⟩
  | ok b =>
    change Except.ok b = Except.ok a ↔ _
    rw [Except.ok.injEq, Except.ok.injEq]

@[simp] theorem mapError_eq_error_iff {ε ε' α : Type} {x : Except ε α} {f : ε → ε'} {e : ε'} :
    x.mapError f = .error e ↔ ∃ err, x = .error err ∧ f err = e := by
  cases x with
  | error err =>
    change Except.error (f err) = Except.error e ↔ _
    simp
  | ok b => exact ⟨nofun, fun ⟨_, failed, _⟩ => nomatch failed⟩

/-- What is made of a value is there if the value is. -/
theorem exists_bind_pure_eq_ok_iff {ε α β : Type} {x : Except ε α} {f : α → β} :
    (∃ b, (x >>= fun a => pure (f a)) = .ok b) ↔ ∃ a, x = .ok a := by
  cases x with
  | error err => simp [bind, Except.bind]
  | ok a => exact ⟨fun _ => ⟨a, rfl⟩, fun _ => ⟨f a, rfl⟩⟩

/-- A list is gone through to its end if each of its parts gives a result. -/
theorem exists_mapM_eq_ok_iff {ε α β : Type} {f : α → Except ε β} {as : List α} :
    (∃ bs, as.mapM f = .ok bs) ↔ ∀ a ∈ as, ∃ b, f a = .ok b := by
  induction as with
  | nil => simp [pure, Except.pure]
  | cons a rest ih =>
    simp only [List.mapM_cons, bind_eq_ok_iff, List.forall_mem_cons, ← ih]
    constructor
    · rintro ⟨_, b, first, bs, others, -⟩
      exact ⟨⟨b, first⟩, bs, others⟩
    · rintro ⟨⟨b, first⟩, bs, others⟩
      exact ⟨b :: bs, b, first, bs, others, rfl⟩

/-- Each result is that of a part. -/
theorem exists_of_mem_mapM {ε α β : Type} {f : α → Except ε β} {as : List α} {bs : List β}
    (h : as.mapM f = .ok bs) {b : β} (hb : b ∈ bs) : ∃ a ∈ as, f a = .ok b := by
  induction as generalizing bs with
  | nil =>
    cases h
    cases hb
  | cons a rest ih =>
    simp only [List.mapM_cons, bind_eq_ok_iff] at h
    obtain ⟨first, hfirst, others, hothers, same⟩ := h
    cases same
    rcases List.mem_cons.1 hb with rfl | later
    · exact ⟨a, List.mem_cons_self, hfirst⟩
    · obtain ⟨part, hpart, told⟩ := ih hothers later
      exact ⟨part, List.mem_cons_of_mem _ hpart, told⟩

/-- An answer put beside what a table becomes. -/
theorem pair_eq_ok_iff {ε α β : Type} {x : Except ε β} {a a' : α} {b : β} :
    (x >>= fun y => pure (a, y)) = Except.ok (a', b) ↔ a = a' ∧ x = .ok b := by
  cases x <;> simp [bind, Except.bind, pure, Except.pure, eq_comm]

theorem mapM_eq_ok_some_iff {ε α β : Type} {f : α → Except ε β} {o : Option α} {b : β} :
    o.mapM f = .ok (some b) ↔ ∃ a, o = some a ∧ f a = .ok b := by
  cases o with
  | none => simp [pure, Except.pure]
  | some a => cases h : f a <;> simp [Functor.map, Except.map, h]

end Tillbook
