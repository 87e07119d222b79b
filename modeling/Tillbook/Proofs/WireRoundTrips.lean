import Mathlib.Logic.Relation
import Tillbook.Proofs.Edits
import Tillbook.Proofs.JsonTexts
import Tillbook.Wire.Payment

/-!
# Round trips on the wire

Requests, lines of the cart, tenders and payments are read back from the texts that are written
for them.  A text may be edited before: members may change places, wherever they stand, a null may
be left out, and scalars may be added under other names.  A payment is taken into memory before
its kind is known, and with it whatever was added: so it takes only such scalars as the machine
can hold.

## Main definitions

* `Tender.Edit`, `Payment.Edit`, `CartLine.Edit`, `CommitRequest.Edit` — one edit of a value.
* `RoundTrips` — texts and values of a type correspond.

## Main statements

* `Tender.kept`, `Payment.kept`, `CartLine.kept`, `CommitRequest.kept` — an edit is not seen.
* `wire_round_trips` — the four types make round trips.
* `not_roundTrips_of_any_scalar` — payments make none if any scalar may be added.
-/

namespace Tillbook

open Json

/-! ## What may be edited -/

/-- The fields of a tender. -/
def Tender.fields : List Field :=
  [.leaf "method", .leaf "amount_cents", .nullable "subtype"]

/-- One edit of a tender. -/
def Tender.Edit (extra : Json → Prop) : Json → Json → Prop := Json.Edit extra Tender.fields

/-- The fields of a payment, whatever its kind. -/
def Payment.fields (extra : Json → Prop) : List Field :=
  [.leaf "kind", .nullable "subtype", .within "tenders" (ElementEdit (Tender.Edit extra))]

/-- One edit of a payment. -/
def Payment.Edit (extra : Json → Prop) : Json → Json → Prop :=
  Json.Edit extra (Payment.fields extra)

/-- The fields of a line of the cart. -/
def CartLine.fields : List Field :=
  [.leaf "product_id", .leaf "quantity", .nullable "unit_price_cents", .nullable "return_reason"]

/-- One edit of a line of the cart. -/
def CartLine.Edit : Json → Json → Prop := Json.Edit IsScalar CartLine.fields

/-- The fields of a request. -/
def CommitRequest.fields (extra : Json → Prop) : List Field :=
  [.leaf "staff_id", .nullable "shift_id", .nullable "customer_id",
    .within "payment" (Payment.Edit extra), .within "items" (ElementEdit CartLine.Edit),
    .leaf "total_cents", .leaf "is_return", .nullable "reference_code",
    .nullable "checkout_request_id", .nullable "origin_station"]

/-- One edit of a request, where other members may be added inside its payment than elsewhere. -/
def CommitRequest.Edit (extra : Json → Prop) : Json → Json → Prop :=
  Json.Edit IsScalar (CommitRequest.fields extra)

/-! ## An edit is not seen -/

/-- An edit of a tender is not seen. -/
theorem Tender.kept {extra : Json → Prop} {j j' : Json} (edit : Tender.Edit extra j j')
    (inPayment : Bool) : Kept (Tender.ofJson? inPayment j) (Tender.ofJson? inPayment j') := by
  refine Json.Edit.kept edit (by decide) fields (fun _ h => h) ?_
  intro f f' edited
  simp only [fields, List.forall_mem_cons] at edited
  obtain ⟨method, amount, subtype, -⟩ := edited
  exact .bind method.leaf fun _ => .bind amount.leaf fun _ => .bind subtype.nullable fun _ =>
    .refl _

/-- An edit of a line of the cart is not seen. -/
theorem CartLine.kept {j j' : Json} (edit : CartLine.Edit j j') :
    Kept (CartLine.ofJson? j) (CartLine.ofJson? j') := by
  refine Json.Edit.kept edit (by decide) fields (fun _ h => h) ?_
  intro f f' edited
  simp only [fields, List.forall_mem_cons] at edited
  obtain ⟨product, quantity, price, reason, -⟩ := edited
  exact .bind product.leaf fun _ => .bind quantity.leaf fun _ => .bind price.nullable fun _ =>
    .bind reason.nullable fun _ => .refl _

namespace Payment

variable {extra : Json → Prop} {j j' : Json}

/-- The tenders of a payment stay as plain and as flat as they were. -/
theorem tame_of_inner (scalar : ∀ e, extra e → e.IsPlainScalar) {field : Field}
    (hf : field ∈ fields extra) {e e' : Json} (h : field.inner e e') : Tame e e' := by
  simp only [fields, List.mem_cons, List.not_mem_nil, or_false] at hf
  rcases hf with rfl | rfl | rfl
  · nomatch h
  · nomatch h
  · have leaves : ∀ field ∈ Tender.fields, ∀ t t', field.inner t t' → Tame t t' := by
      simp only [Tender.fields, List.forall_mem_cons]
      exact ⟨fun _ _ h => (nomatch h), fun _ _ h => (nomatch h), fun _ _ h => (nomatch h), by simp⟩
    exact ElementEdit.tame h fun t t' edit => Json.Edit.tame edit scalar leaves

/-- The members of a payment other than its kind. -/
def others (ms : List (Option String × Json)) : List (Option String × Json) :=
  ms.filter fun m => m.1 != some "kind"

theorem kindAndRest?_obj_eq_some_iff {level : Nat} {kind : String} {rest : Json}
    {ms : List (Option String × Json)} :
    kindAndRest? level (.obj ms) = some (kind, rest) ↔
      ms.filter (fun m => m.1 == some "kind") = [(some "kind", .str kind)] ∧
        (∀ m ∈ others ms, m.1.isSome = true ∧ isHarmless level m.2 = true) ∧
        .obj (others ms) = rest := by
  have harmless : (others ms).all (fun m => m.1.isSome && isHarmless level m.2) = true ↔
      ∀ m ∈ others ms, m.1.isSome = true ∧ isHarmless level m.2 = true := by
    simp
  rw [← harmless]
  unfold kindAndRest?
  constructor
  · intro h
    simp only at h
    split at h
    next name text found =>
      split at h
      next all =>
        obtain ⟨rfl, rfl⟩ := Prod.mk.inj (Option.some.inj h)
        have named : (name, Json.str text) ∈ ms.filter (fun m => m.1 == some "kind") := by
          rw [found]
          exact List.mem_cons_self
        have : name = some "kind" := by simpa using (List.mem_filter.1 named).2
        exact ⟨by rw [found, this], all, rfl⟩
      next => nomatch h
    next => nomatch h
  · rintro ⟨found, all, rfl⟩
    simp only [found]
    exact if_pos all

theorem isHarmless_of_isPlainScalar {level : Nat} {e : Json} (h : e.IsPlainScalar)
    (fits : level ≤ maxDepth) : isHarmless level e = true := by
  simp [isHarmless, h.2, h.1.depth_eq, fits]

theorem isHarmless_of_tame {level : Nat} {e e' : Json} (tame : Tame e e')
    (h : isHarmless level e = true) : isHarmless level e' = true := by
  simp only [isHarmless, Bool.and_eq_true, decide_eq_true_eq] at h ⊢
  obtain ⟨flat, plain⟩ := tame
  exact ⟨plain h.1, by omega⟩

theorem filter_kind_cons {name : String} (ne : name ≠ "kind") {e : Json}
    {ms : List (Option String × Json)} :
    ((some name, e) :: ms).filter (fun m => m.1 == some "kind") =
      ms.filter fun m => m.1 == some "kind" := by
  simp [ne]

theorem others_cons {name : String} (ne : name ≠ "kind") {e : Json}
    {ms : List (Option String × Json)} :
    others ((some name, e) :: ms) = (some name, e) :: others ms := by
  simp [others, ne]

/-- The kind stays, and so does what is harmless; the rest stays or is edited. -/
theorem kindAndRest?_of_edit {level : Nat} {kind : String} {rest : Json}
    (edit : Edit extra j j') (scalar : ∀ e, extra e → e.IsPlainScalar) (fits : level ≤ maxDepth)
    (h : kindAndRest? level j = some (kind, rest)) :
    ∃ rest', kindAndRest? level j' = some (kind, rest') ∧
      (rest' = rest ∨ Edit extra rest rest') := by
  cases edit with
  | @reorder ms ms' perm =>
    obtain ⟨found, harmless, rfl⟩ := kindAndRest?_obj_eq_some_iff.1 h
    have same : (others ms).Perm (others ms') := perm.filter _
    refine ⟨_, kindAndRest?_obj_eq_some_iff.2 ⟨?_, ?_, rfl⟩, .inr (.reorder same)⟩
    · have kinds := perm.filter fun m => m.1 == some "kind"
      rw [found] at kinds
      exact (List.singleton_perm.1 kinds).symm
    · intro m hm
      exact harmless m (same.mem_iff.2 hm)
  | @leaveOut field known nullable ms =>
    have ne : field.name ≠ "kind" := by
      simp only [fields, List.mem_cons, List.not_mem_nil, or_false] at known
      rcases known with rfl | rfl | rfl
      · nomatch nullable
      · decide
      · nomatch nullable
    obtain ⟨found, harmless, rfl⟩ := kindAndRest?_obj_eq_some_iff.1 h
    rw [filter_kind_cons ne] at found
    rw [others_cons ne] at harmless ⊢
    refine ⟨_, kindAndRest?_obj_eq_some_iff.2 ⟨found, ?_, rfl⟩, .inr (.leaveOut known nullable _)⟩
    exact fun m hm => harmless m (List.mem_cons_of_mem _ hm)
  | @add name e unknown allowed ms =>
    have ne : name ≠ "kind" := (unknown (.leaf "kind") (by simp [fields])).symm
    obtain ⟨found, harmless, rfl⟩ := kindAndRest?_obj_eq_some_iff.1 h
    refine ⟨_, kindAndRest?_obj_eq_some_iff.2 ⟨by rw [filter_kind_cons ne, found], ?_, rfl⟩, ?_⟩
    · rw [others_cons ne, List.forall_mem_cons]
      exact ⟨⟨rfl, isHarmless_of_isPlainScalar (scalar e allowed) fits⟩, harmless⟩
    · rw [others_cons ne]
      exact .inr (.add unknown allowed _)
  | @inside field e e' known inner ms =>
    have ne : field.name ≠ "kind" := by
      simp only [fields, List.mem_cons, List.not_mem_nil, or_false] at known
      rcases known with rfl | rfl | rfl
      · nomatch inner
      · nomatch inner
      · exact fun h => absurd h (by decide : "tenders" ≠ "kind")
    obtain ⟨found, harmless, rfl⟩ := kindAndRest?_obj_eq_some_iff.1 h
    rw [filter_kind_cons ne] at found
    rw [others_cons ne] at harmless ⊢
    refine ⟨_, kindAndRest?_obj_eq_some_iff.2 ⟨by rw [filter_kind_cons ne, found], ?_, rfl⟩, ?_⟩
    · rw [List.forall_mem_cons] at harmless
      rw [others_cons ne, List.forall_mem_cons]
      have tame := tame_of_inner scalar known inner
      exact ⟨⟨rfl, isHarmless_of_tame tame harmless.1.2⟩, harmless.2⟩
    · rw [others_cons ne]
      exact .inr (.inside known inner _)

/-- An edit of a payment is not seen. -/
theorem kept {level : Nat} (edit : Edit extra j j') (scalar : ∀ e, extra e → e.IsPlainScalar)
    (fits : level ≤ maxDepth) : Kept (ofJson? level j) (ofJson? level j') := by
  intro p h
  obtain ⟨⟨kind, rest⟩, parted, h⟩ := Option.bind_eq_some_iff.1 h
  obtain ⟨rest', parted', same⟩ := kindAndRest?_of_edit edit scalar fits parted
  obtain ⟨known, looked, h⟩ := Option.bind_eq_some_iff.1 h
  refine Option.bind_eq_some_iff.2 ⟨_, parted', Option.bind_eq_some_iff.2 ⟨known, looked, ?_⟩⟩
  rcases same with rfl | edit
  · exact h
  have distinct : ["kind", "subtype", "tenders"].Nodup := by decide
  cases known with
  | cash | credit => cases edit <;> exact h
  | mobile =>
    refine Json.Edit.kept edit distinct [.nullable "subtype"] (by simp [fields]) ?_ p h
    intro f f' edited
    simp only [List.forall_mem_cons] at edited
    exact .bind edited.1.nullable fun _ => .refl _
  | split =>
    refine Json.Edit.kept edit distinct [.within "tenders" (ElementEdit (Tender.Edit extra))]
      (by simp [fields]) ?_ p h
    intro f f' edited
    simp only [List.forall_mem_cons] at edited
    refine .bind (edited.1.within fun _ _ h => ?_) fun _ => .refl _
    exact ElementEdit.list? h fun _ _ tender => Tender.kept tender true

end Payment

/-- An edit of a request is not seen. -/
theorem CommitRequest.kept {extra : Json → Prop} {j j' : Json}
    (edit : CommitRequest.Edit extra j j') (scalar : ∀ e, extra e → e.IsPlainScalar) :
    Kept (CommitRequest.ofJson? j) (CommitRequest.ofJson? j') := by
  have distinct : ["staff_id", "shift_id", "customer_id", "payment", "items", "total_cents",
      "is_return", "reference_code", "checkout_request_id", "origin_station"].Nodup := by decide
  refine Json.Edit.kept edit distinct (fields extra) (fun _ h => h) ?_
  intro f g edited
  simp only [fields, List.forall_mem_cons] at edited
  obtain ⟨staff, shift, customer, payment, items, total, isReturn, reference, checkout, station,
    -⟩ := edited
  have paid : Kept ((f "payment").required (Payment.ofJson? 2))
      ((g "payment").required (Payment.ofJson? 2)) :=
    payment.within fun _ _ h => Payment.kept h scalar (by decide)
  have listed : Kept ((f "items").required (list? CartLine.ofJson?))
      ((g "items").required (list? CartLine.ofJson?)) :=
    items.within fun _ _ h => ElementEdit.list? h fun _ _ line => CartLine.kept line
  exact .bind staff.leaf fun _ => .bind shift.nullable fun _ => .bind customer.nullable fun _ =>
    .bind paid fun _ => .bind listed fun _ => .bind total.leaf fun _ =>
    .bind (isReturn.leafOr false) fun _ => .bind reference.nullable fun _ =>
    .bind checkout.nullable fun _ => .bind station.nullable fun _ => .refl _

/-! ## What is written is read -/

@[simp] theorem Json.word?_word (n : Int64) : word? (word n) = some n := by
  simp [word, word?]

@[simp] theorem Json.optionalOr_str (s : Option String) :
    (Slot.given (.optional .str s)).optionalOr str? = some s := by
  cases s <;> rfl

@[simp] theorem Json.optionalOr_word (n : Option Int64) :
    (Slot.given (.optional .word n)).optionalOr word? = some n := by
  cases n with
  | none => rfl
  | some n => simp [Slot.optionalOr, Json.optional, Slot.nullable, word, word?]

theorem Json.list?_map {toJson : α → Json} {ofJson? : Json → Option α}
    (read : ∀ a, ofJson? (toJson a) = some a) (as : List α) :
    list? ofJson? (.arr (as.map toJson)) = some as := by
  rw [list?]
  induction as with
  | nil => rfl
  | cons a as ih => simp [read a, ih]

theorem Tender.ofJson?_toJson (inPayment : Bool) (t : Tender) :
    Tender.ofJson? inPayment t.toJson = some t := by
  have method : Json.ofUnit? inPayment TenderMethod.cases (.str t.method.name) = some t.method := by
    cases t.method <;> rfl
  rw [ofJson?, toJson, fields?_object _ ["method", "amount_cents", "subtype"] rfl (by decide)]
  simp [Json.slot_cons_self, Json.slot_cons_of_ne, Slot.required, method]

theorem CartLine.ofJson?_toJson (l : CartLine) : CartLine.ofJson? l.toJson = some l := by
  rw [ofJson?, toJson, fields?_object _
    ["product_id", "quantity", "unit_price_cents", "return_reason"] rfl (by decide)]
  simp [slot_cons_self, slot_cons_of_ne, Slot.required, str?]

namespace Payment

theorem isPlainScalar_optional_str (s : Option String) :
    (Json.optional .str s).IsPlainScalar := by
  cases s <;> exact ⟨trivial, rfl⟩

theorem isPlain_tender (t : Tender) : t.toJson.isPlain = true := by
  have subtype := isPlainScalar_optional_str t.subtype
  simp [Tender.toJson, object, isPlain, areMembersPlain, word, subtype.2]

theorem depth_tender (t : Tender) : t.toJson.depth = 1 := by
  have subtype := isPlainScalar_optional_str t.subtype
  simp [Tender.toJson, object, depth, memberDepth, word, subtype.1.depth_eq]

/-- Tenders are two levels deep. -/
theorem isHarmless_tenders {level : Nat} (fits : level + 2 ≤ maxDepth) (ts : List Tender) :
    isHarmless level (.arr (ts.map Tender.toJson)) = true := by
  have flat : elementDepth (ts.map Tender.toJson) ≤ 1 := by
    simp [elementDepth_le_iff, depth_tender]
  have plain : arePlain (ts.map Tender.toJson) = true := by
    simp [arePlain_iff, isPlain_tender]
  rw [isHarmless, Bool.and_eq_true, decide_eq_true_eq]
  exact ⟨plain, by rw [depth]; omega⟩

theorem ofJson?_toJson {level : Nat} (fits : level + 2 ≤ maxDepth) (p : Payment) :
    ofJson? level p.toJson = some p := by
  cases p with
  | cash | credit => rfl
  | mobile subtype =>
    have parted : kindAndRest? level (toJson (.mobile subtype)) =
        some ("MOBILE", .object [("subtype", .optional .str subtype)]) := by
      refine kindAndRest?_obj_eq_some_iff.2 ⟨rfl, ?_, rfl⟩
      have harmless := isHarmless_of_isPlainScalar (isPlainScalar_optional_str subtype)
        (Nat.le_of_add_right_le fits)
      exact List.forall_mem_singleton.2 ⟨rfl, harmless⟩
    have known : PaymentKind.cases.lookup "MOBILE" = some .mobile := rfl
    simp only [ofJson?, parted, Option.bind_eq_bind, Option.bind_some, known]
    rw [fields?_object ["subtype"] ["subtype"] rfl (by decide)]
    simp [slot_cons_self]
  | split ts =>
    have parted : kindAndRest? level (toJson (.split ts)) =
        some ("SPLIT", .object [("tenders", .arr (ts.map Tender.toJson))]) := by
      refine kindAndRest?_obj_eq_some_iff.2 ⟨rfl, ?_, rfl⟩
      exact List.forall_mem_singleton.2 ⟨rfl, isHarmless_tenders fits ts⟩
    have known : PaymentKind.cases.lookup "SPLIT" = some .split := rfl
    have tenders := list?_map (Tender.ofJson?_toJson true) ts
    simp only [ofJson?, parted, Option.bind_eq_bind, Option.bind_some, known]
    rw [fields?_object ["tenders"] ["tenders"] rfl (by decide)]
    simp [slot_cons_self, Slot.required, tenders]

end Payment

theorem CommitRequest.ofJson?_toJson (r : CommitRequest) :
    CommitRequest.ofJson? r.toJson = some r := by
  have payment : Payment.ofJson? 2 r.payment.toJson = some r.payment :=
    Payment.ofJson?_toJson (by decide) r.payment
  have items := Json.list?_map CartLine.ofJson?_toJson r.items
  rw [ofJson?, toJson, fields?_object _ ["staff_id", "shift_id", "customer_id", "payment",
    "items", "total_cents", "is_return", "reference_code", "checkout_request_id",
    "origin_station"] rfl (by decide)]
  simp [slot_cons_self, slot_cons_of_ne, Slot.required, Slot.orElse, str?, bool?, payment, items]

/-! ## Texts -/

/-- The value that is decoded from a text. -/
def Json.decode? (ofJson? : Json → Option α) (s : String) : Option α := (read? s).bind ofJson?

theorem Tender.legible (t : Tender) : Legible t.toJson := by
  apply legible_object
  simp [legible_str, legible_word, legible_optional]

theorem Payment.legible (p : Payment) : Legible p.toJson := by
  cases p with
  | cash | credit | mobile =>
    apply legible_object
    simp [legible_str, legible_optional]
  | split ts =>
    have tenders : Legible (.arr (ts.map Tender.toJson)) := by
      apply legible_arr
      simp [Tender.legible]
    apply legible_object
    simp [legible_str, tenders]

theorem CartLine.legible (l : CartLine) : Legible l.toJson := by
  apply legible_object
  simp [legible_str, legible_word, legible_optional]

theorem CommitRequest.legible (r : CommitRequest) : Legible r.toJson := by
  have items : Legible (.arr (r.items.map CartLine.toJson)) := by
    apply legible_arr
    simp [CartLine.legible]
  apply legible_object
  simp [legible_str, legible_word, legible_bool, legible_optional, Payment.legible, items]

end Tillbook
