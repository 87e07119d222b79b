import Mathlib.Data.List.Nodup
import Tillbook.Json.Fields

/-!
# Edits of a record

Who writes a record by hand, or with another version of its type, puts its members into another
order, leaves out what is null, and adds members of which the type knows nothing.  One edit of an
object, and that a reader of its fields does not see it.

## Main definitions

* `Field` — a field of a record, with the edits inside its value.
* `Edit`, `ElementEdit` — one edit of an object, or of an element of an array.
* `Kept` — a result is not lost.

## Main statements

* `Edit.fields?` — an edit leaves each field as it is, leaves out a null, or is inside its value.
* `Edit.kept` — so a record is read as before, if each of its fields is.
* `Edit.tame`, `ElementEdit.tame` — edits make no value deeper.
-/

namespace Tillbook.Json

/-- A field of a record: whether its value may be null, and the edits inside its value. -/
structure Field where
  name : String
  mayBeNull : Bool
  inner : Json → Json → Prop

namespace Field

/-- A field whose value is one text, number or truth value. -/
def leaf (name : String) : Field := ⟨name, false, fun _ _ => False⟩

/-- The same, where the value may be null. -/
def nullable (name : String) : Field := ⟨name, true, fun _ _ => False⟩

/-- A field whose value has edits of its own. -/
def within (name : String) (inner : Json → Json → Prop) : Field := ⟨name, false, inner⟩

end Field

/-- One edit of an object with known fields.  Members are left out, added and edited at its
front, to which any member may be moved. -/
inductive Edit (extra : Json → Prop) (fields : List Field) : Json → Json → Prop
  | reorder {ms ms' : List (Option String × Json)} (h : ms.Perm ms') :
      Edit extra fields (.obj ms) (.obj ms')
  | leaveOut {field : Field} (known : field ∈ fields) (nullable : field.mayBeNull = true)
      (ms : List (Option String × Json)) :
      Edit extra fields (.obj ((some field.name, .null) :: ms)) (.obj ms)
  | add {name : String} {j : Json} (unknown : ∀ field ∈ fields, field.name ≠ name) (h : extra j)
      (ms : List (Option String × Json)) :
      Edit extra fields (.obj ms) (.obj ((some name, j) :: ms))
  | inside {field : Field} {j j' : Json} (known : field ∈ fields) (h : field.inner j j')
      (ms : List (Option String × Json)) :
      Edit extra fields (.obj ((some field.name, j) :: ms)) (.obj ((some field.name, j') :: ms))

/-- A value without parts. -/
def IsScalar : Json → Prop
  | .arr _ | .obj _ => False
  | _ => True

/-- A value without parts that is a text, or a number that is finite. -/
def IsPlainScalar (j : Json) : Prop := j.IsScalar ∧ j.isPlain = true

theorem IsScalar.depth_eq {j : Json} (h : j.IsScalar) : j.depth = 0 := by
  cases j with
  | arr | obj => nomatch h
  | _ => rfl

/-- One edit of an element of an array. -/
inductive ElementEdit (inner : Json → Json → Prop) : Json → Json → Prop
  | intro {e e' : Json} (h : inner e e') (front back : List Json) :
      ElementEdit inner (.arr (front ++ e :: back)) (.arr (front ++ e' :: back))

/-! ## Results that are not lost -/

/-- If there is a result, it is still the same. -/
def Kept (x x' : Option α) : Prop := ∀ a, x = some a → x' = some a

namespace Kept

theorem refl (x : Option α) : Kept x x := fun _ h => h

theorem bind {x x' : Option α} {f f' : α → Option β} (first : Kept x x')
    (rest : ∀ a, Kept (f a) (f' a)) : Kept (x.bind f) (x'.bind f') := by
  intro b h
  obtain ⟨a, found, result⟩ := Option.bind_eq_some_iff.1 h
  rw [first a found]
  exact rest a b result

end Kept

/-- An edit of an element is an edit of the list, if no element is lost. -/
theorem ElementEdit.list? {inner : Json → Json → Prop} {f : Json → Option α} {j j' : Json}
    (edit : ElementEdit inner j j') (element : ∀ e e', inner e e' → Kept (f e) (f e')) :
    Kept (list? f j) (list? f j') := by
  cases edit with
  | @intro e e' h front back =>
    simp only [Json.list?, List.mapM_append, List.mapM_cons]
    exact .bind (.refl _) fun _ => .bind (.bind (element e e' h) fun _ => .refl _) fun _ => .refl _

namespace Slot

/-- What an edit of a record does to one field. -/
inductive Edited (field : Field) : Slot → Slot → Prop
  | same (s : Slot) : Edited field s s
  | leftOut (h : field.mayBeNull = true) : Edited field (.given .null) .absent
  | inside {j j' : Json} (h : field.inner j j') : Edited field (.given j) (.given j')

namespace Edited

variable {name : String} {inner : Json → Json → Prop} {s s' : Slot} {f : Json → Option α}

theorem leaf (h : Edited (.leaf name) s s') : Kept (s.required f) (s'.required f) := by
  cases h with
  | same => exact .refl _
  | leftOut nullable => nomatch nullable
  | inside h => nomatch h

theorem leafOr (h : Edited (.leaf name) s s') (a : α) : Kept (s.orElse a f) (s'.orElse a f) := by
  cases h with
  | same => exact .refl _
  | leftOut nullable => nomatch nullable
  | inside h => nomatch h

/-- To leave out a field that may be null is to say that it is null. -/
theorem nullable (h : Edited (.nullable name) s s') :
    Kept (s.optionalOr f) (s'.optionalOr f) := by
  cases h with
  | same | leftOut => exact .refl _
  | inside h => nomatch h

theorem within (h : Edited (.within name inner) s s')
    (kept : ∀ j j', inner j j' → Kept (f j) (f j')) : Kept (s.required f) (s'.required f) := by
  cases h with
  | same => exact .refl _
  | leftOut nullable => nomatch nullable
  | inside h => exact kept _ _ h

end Edited

end Slot

/-! ## The fields of an edited object -/

/-- The member of a name in an object. -/
def slot (ms : List (Option String × Json)) (name : String) : Slot :=
  match ms.find? (·.1 == some name) with
  | some m => .given m.2
  | none => .absent

/-- Each member has a name, and none of the given names stands twice. -/
def Unambiguous (names : List String) (ms : List (Option String × Json)) : Prop :=
  (∀ m ∈ ms, m.1.isSome = true) ∧ ∀ name ∈ names, ms.countP (·.1 == some name) ≤ 1

theorem fields?_obj_eq_some_iff {names : List String} {ms : List (Option String × Json)}
    {f : String → Slot} :
    (obj ms).fields? names = some f ↔ Unambiguous names ms ∧ slot ms = f := by
  have value : (obj ms).fields? names =
      if ms.any (·.1.isNone) ∨ names.any fun n => 1 < ms.countP (·.1 == some n) then none
      else some (slot ms) := rfl
  have unambiguous : ¬(ms.any (·.1.isNone) ∨ names.any fun n => 1 < ms.countP (·.1 == some n)) ↔
      Unambiguous names ms := by
    unfold Unambiguous
    rw [not_or, List.any_eq_true, List.any_eq_true]
    simp only [not_exists, not_and, Bool.not_eq_true, Option.isNone_eq_false_iff,
      decide_eq_true_eq, Nat.not_lt]
  rw [value, ← unambiguous]
  by_cases clash : ms.any (·.1.isNone) ∨ names.any fun n => 1 < ms.countP (·.1 == some n)
  · rw [if_pos clash]
    exact ⟨fun h => (nomatch h), fun h => absurd clash h.1⟩
  · rw [if_neg clash, Option.some.injEq]
    exact ⟨fun h => ⟨clash, h⟩, And.right⟩

namespace Unambiguous

variable {names : List String} {ms ms' : List (Option String × Json)}

theorem perm (h : Unambiguous names ms) (perm : ms.Perm ms') : Unambiguous names ms' := by
  refine ⟨fun m hm => h.1 m (perm.mem_iff.2 hm), fun name hname => ?_⟩
  rw [← perm.countP_eq]
  exact h.2 name hname

theorem tail {m : Option String × Json} (h : Unambiguous names (m :: ms)) :
    Unambiguous names ms := by
  refine ⟨fun m hm => h.1 m (List.mem_cons_of_mem _ hm), fun name hname => ?_⟩
  exact Nat.le_trans (List.sublist_cons_self m ms).countP_le (h.2 name hname)

/-- A member that nobody reads may have any name. -/
theorem cons {name : String} (h : Unambiguous names ms) (unknown : name ∉ names) (j : Json) :
    Unambiguous names ((some name, j) :: ms) := by
  constructor
  · intro m hm
    rcases List.mem_cons.1 hm with rfl | hm
    · rfl
    · exact h.1 m hm
  · intro other hother
    have ne : name ≠ other := by
      rintro rfl
      exact unknown hother
    rw [List.countP_cons_of_neg (by simpa using ne)]
    exact h.2 other hother

/-- The values do not matter. -/
theorem replace {name : String} {j : Json} (h : Unambiguous names ((some name, j) :: ms))
    (j' : Json) : Unambiguous names ((some name, j') :: ms) := by
  constructor
  · intro m hm
    rcases List.mem_cons.1 hm with rfl | hm
    · rfl
    · exact h.1 m (List.mem_cons_of_mem _ hm)
  · intro other hother
    have once := h.2 other hother
    rwa [List.countP_cons] at once ⊢

end Unambiguous

theorem slot_cons_self (name : String) (j : Json) (ms : List (Option String × Json)) :
    slot ((some name, j) :: ms) name = .given j := by
  simp [slot]

theorem slot_cons_of_ne {name other : String} (h : name ≠ other) (j : Json)
    (ms : List (Option String × Json)) : slot ((some name, j) :: ms) other = slot ms other := by
  simp [slot, h]

/-- A name that does not stand twice means the same wherever it stands. -/
theorem slot_perm {ms ms' : List (Option String × Json)} (h : ms.Perm ms') {name : String}
    (once : ms.countP (·.1 == some name) ≤ 1) : slot ms' name = slot ms name := by
  have found : (ms.filter (·.1 == some name)).Perm (ms'.filter (·.1 == some name)) := h.filter _
  rw [List.countP_eq_length_filter] at once
  unfold slot
  rw [← List.head?_filter, ← List.head?_filter]
  generalize ms.filter (·.1 == some name) = kept at found once
  match kept with
  | [] => rw [List.nil_perm.1 found]
  | [m] => rw [List.singleton_perm.1 found]
  | _ :: _ :: _ => simp at once

/-- A name that stands at the front and nowhere else is missing from the rest. -/
theorem slot_of_once {name : String} {j : Json} {ms : List (Option String × Json)}
    (once : ((some name, j) :: ms).countP (·.1 == some name) ≤ 1) : slot ms name = .absent := by
  have none : ms.countP (·.1 == some name) = 0 := by
    rw [List.countP_cons] at once
    simp at once
    simpa using once
  have missing : ms.find? (·.1 == some name) = Option.none := by
    rw [List.find?_eq_none]
    exact List.countP_eq_zero.1 none
  rw [slot, missing]

/-- The fields of an object in which no name stands twice. -/
theorem fields?_object {ms : List (String × Json)} (names keys : List String)
    (keyed : ms.map (·.1) = keys) (distinct : keys.Nodup) :
    (object ms).fields? names = some (slot (ms.map fun m => (some m.1, m.2))) := by
  rw [object, fields?_obj_eq_some_iff]
  refine ⟨⟨?_, ?_⟩, rfl⟩
  · intro m hm
    obtain ⟨m', -, rfl⟩ := List.mem_map.1 hm
    rfl
  · intro name _
    have count : (ms.map fun m => (some m.1, m.2)).countP (fun m => m.1 == some name) =
        keys.count name := by
      rw [← keyed, List.count, List.countP_map, List.countP_map]
      congr 1
    rw [count]
    exact List.nodup_iff_count_le_one.1 distinct name

/-- An edit leaves each field as it is, leaves it out, or is inside its value.  A reader need not
look at all the fields. -/
theorem Edit.fields? {extra : Json → Prop} {fields read : List Field} {j j' : Json}
    {f : String → Slot} (edit : Edit extra fields j j')
    (distinct : (fields.map (·.name)).Nodup) (known : ∀ field ∈ read, field ∈ fields)
    (h : j.fields? (read.map (·.name)) = some f) :
    ∃ f', j'.fields? (read.map (·.name)) = some f' ∧
      ∀ field ∈ read, Slot.Edited field (f field.name) (f' field.name) := by
  have named {field : Field} (hf : field ∈ read) : field.name ∈ read.map (·.name) :=
    List.mem_map_of_mem hf
  have same {field field' : Field} (hf : field ∈ fields) (hf' : field' ∈ fields)
      (h : field.name = field'.name) : field = field' := List.inj_on_of_nodup_map distinct hf hf' h
  cases edit with
  | @reorder ms ms' perm =>
    obtain ⟨clear, rfl⟩ := fields?_obj_eq_some_iff.1 h
    refine ⟨_, fields?_obj_eq_some_iff.2 ⟨clear.perm perm, rfl⟩, fun field hf => ?_⟩
    rw [slot_perm perm (clear.2 _ (named hf))]
    exact .same _
  | @leaveOut field hfield nullable ms =>
    obtain ⟨clear, rfl⟩ := fields?_obj_eq_some_iff.1 h
    refine ⟨_, fields?_obj_eq_some_iff.2 ⟨clear.tail, rfl⟩, fun other hother => ?_⟩
    by_cases this : field.name = other.name
    · obtain rfl := same hfield (known other hother) this
      rw [slot_cons_self, slot_of_once (clear.2 _ (named hother))]
      exact .leftOut nullable
    · rw [slot_cons_of_ne this]
      exact .same _
  | @add name j unknown _ ms =>
    obtain ⟨clear, rfl⟩ := fields?_obj_eq_some_iff.1 h
    have unread : name ∉ read.map (·.name) := by
      intro hname
      obtain ⟨field, hf, rfl⟩ := List.mem_map.1 hname
      exact unknown field (known field hf) rfl
    refine ⟨_, fields?_obj_eq_some_iff.2 ⟨clear.cons unread j, rfl⟩, fun other hother => ?_⟩
    rw [slot_cons_of_ne (unknown other (known other hother)).symm]
    exact .same _
  | @inside field j j' hfield inner ms =>
    obtain ⟨clear, rfl⟩ := fields?_obj_eq_some_iff.1 h
    refine ⟨_, fields?_obj_eq_some_iff.2 ⟨clear.replace j', rfl⟩, fun other hother => ?_⟩
    by_cases this : field.name = other.name
    · obtain rfl := same hfield (known other hother) this
      rw [slot_cons_self, slot_cons_self]
      exact .inside inner
    · rw [slot_cons_of_ne this, slot_cons_of_ne this]
      exact .same _

/-- A record is read from the edited object as before, if each of its fields is. -/
theorem Edit.kept {extra : Json → Prop} {fields : List Field} {j j' : Json}
    {g : (String → Slot) → Option α} (edit : Edit extra fields j j')
    (distinct : (fields.map (·.name)).Nodup) (read : List Field)
    (known : ∀ field ∈ read, field ∈ fields)
    (each : ∀ f f' : String → Slot,
      (∀ field ∈ read, Slot.Edited field (f field.name) (f' field.name)) → Kept (g f) (g f')) :
    Kept ((j.fields? (read.map (·.name))).bind g) ((j'.fields? (read.map (·.name))).bind g) := by
  intro a h
  obtain ⟨f, found, result⟩ := Option.bind_eq_some_iff.1 h
  obtain ⟨f', found', edited⟩ := edit.fields? distinct known found
  rw [found']
  exact each f f' edited a result

/-! ## Nesting -/

theorem elementDepth_le_iff {es : List Json} {d : Nat} :
    elementDepth es ≤ d ↔ ∀ e ∈ es, e.depth ≤ d := by
  induction es with
  | nil => simp [elementDepth]
  | cons e es ih => rw [elementDepth, Nat.max_le, ih, List.forall_mem_cons]

theorem memberDepth_le_iff {ms : List (Option String × Json)} {d : Nat} :
    memberDepth ms ≤ d ↔ ∀ m ∈ ms, m.2.depth ≤ d := by
  induction ms with
  | nil => simp [memberDepth]
  | cons m ms ih => rw [memberDepth, Nat.max_le, ih, List.forall_mem_cons]

theorem arePlain_iff {es : List Json} : arePlain es = true ↔ ∀ e ∈ es, e.isPlain = true := by
  induction es with
  | nil => simp [arePlain]
  | cons e es ih => rw [arePlain, Bool.and_eq_true, ih, List.forall_mem_cons]

theorem areMembersPlain_iff {ms : List (Option String × Json)} :
    areMembersPlain ms = true ↔ ∀ m ∈ ms, m.1.isSome = true ∧ m.2.isPlain = true := by
  induction ms with
  | nil => simp [areMembersPlain]
  | cons m ms ih =>
    rw [areMembersPlain, Bool.and_eq_true, Bool.and_eq_true, ih, List.forall_mem_cons]

/-- The value may take the place of another one inside a payment: it is plain if that was, and no
deeper. -/
def Tame (j j' : Json) : Prop := j'.depth ≤ j.depth ∧ (j.isPlain = true → j'.isPlain = true)

theorem Edit.tame {extra : Json → Prop} {fields : List Field} {j j' : Json}
    (edit : Edit extra fields j j') (scalar : ∀ e, extra e → e.IsPlainScalar)
    (inner : ∀ field ∈ fields, ∀ e e', field.inner e e' → Tame e e') : Tame j j' := by
  unfold Tame
  cases edit with
  | @reorder ms ms' perm =>
    simp only [depth, isPlain, Nat.add_le_add_iff_right, memberDepth_le_iff, areMembersPlain_iff]
    refine ⟨fun m hm => memberDepth_le_iff.1 (Nat.le_refl _) m (perm.mem_iff.2 hm), ?_⟩
    exact fun h m hm => h m (perm.mem_iff.2 hm)
  | @leaveOut field _ _ ms =>
    simp only [depth, isPlain, memberDepth, areMembersPlain, Bool.and_eq_true]
    exact ⟨by omega, And.right⟩
  | @add name e _ h ms =>
    simp only [depth, isPlain, memberDepth, areMembersPlain, Bool.and_eq_true]
    obtain ⟨scalar, plain⟩ := scalar e h
    have := scalar.depth_eq
    exact ⟨by omega, fun others => ⟨⟨rfl, plain⟩, others⟩⟩
  | @inside field e e' known h ms =>
    simp only [depth, isPlain, memberDepth, areMembersPlain, Bool.and_eq_true]
    have := inner field known e e' h
    exact ⟨by have := this.1; omega, fun plain => ⟨⟨rfl, this.2 plain.1.2⟩, plain.2⟩⟩

theorem ElementEdit.tame {inner : Json → Json → Prop} {j j' : Json}
    (edit : ElementEdit inner j j') (element : ∀ e e', inner e e' → Tame e e') : Tame j j' := by
  cases edit with
  | @intro e e' h front back =>
    have this := element e e' h
    have deep := elementDepth_le_iff.1 (Nat.le_refl (elementDepth (front ++ e :: back)))
    unfold Tame
    simp only [depth, isPlain, Nat.add_le_add_iff_right, elementDepth_le_iff, arePlain_iff,
      List.forall_mem_append, List.forall_mem_cons] at deep ⊢
    refine ⟨⟨deep.1, Nat.le_trans this.1 deep.2.1, deep.2.2⟩, ?_⟩
    rintro ⟨before, plain, after⟩
    exact ⟨before, this.2 plain, after⟩

end Tillbook.Json
