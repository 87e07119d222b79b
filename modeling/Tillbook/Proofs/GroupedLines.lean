import Tillbook.Proofs.ShiftTotals

/-!
# Totals receipt by receipt

The totals of a shift are gone through line by line, with the receipt of the line before in mind
and with words that stop at the ends of their range.  Neither shows where the lines of one receipt
stand together and their magnitudes fit into the range: then the totals are those of the receipts,
in whatever order these come, and lists of different receipts can be added up apart.

## Main definitions

* `TenderLine.AreReceipts` — blocks of lines, one for each receipt.

## Main statements

* `TenderLine.AreReceipts.together`, `TenderLine.Together.reordered` — the lines of one receipt
  stay together when receipts are reordered, and when the lines of a receipt are.
* `ShiftTotals.ofLines_perm` — the order of the lines does not matter as long as they do.
* `ShiftTotals.ofLines_receiptwise` — the totals are exact, and they are additive in the receipts.
-/

namespace Tillbook

namespace TenderLine

variable {lines front block block' back : List TenderLine}

/-! ## Lines that stand together -/

/-- Each block has lines of one receipt, and no receipt has lines in two blocks. -/
structure AreReceipts (blocks : List (List TenderLine)) : Prop where
  own : ∀ block ∈ blocks, ∃ id, ∀ l ∈ block, l.receiptId = id
  apart : blocks.Pairwise fun block other => ∀ l ∈ block, ∀ k ∈ other, l.receiptId ≠ k.receiptId

theorem together_of_own {id : String} (own : ∀ l ∈ block, l.receiptId = id) : Together block := by
  intro first other between
  have named : ∀ i ∈ block.map (·.receiptId), i = id := by simpa using own
  rw [named first (between.subset (by simp)), named other (between.subset (by simp))]

theorem disjoint_ids (apart : ∀ l ∈ front, ∀ k ∈ back, l.receiptId ≠ k.receiptId) :
    (front.map (·.receiptId)).Disjoint (back.map (·.receiptId)) := by
  intro id first second
  obtain ⟨l, hl, rfl⟩ := List.mem_map.1 first
  obtain ⟨k, hk, same⟩ := List.mem_map.1 second
  exact apart l hl k hk same.symm

/-- Lines of different receipts stand together one after the other. -/
theorem Together.append (hfront : Together front) (hback : Together back)
    (apart : ∀ l ∈ front, ∀ k ∈ back, l.receiptId ≠ k.receiptId) : Together (front ++ back) := by
  intro id other between
  have disjoint : id ∈ front.map (·.receiptId) → id ∈ back.map (·.receiptId) → False :=
    fun first second => disjoint_ids apart first second
  rw [List.map_append] at between
  obtain ⟨left, right, parts, inFront, inBack⟩ := List.sublist_append_iff.1 between
  -- A receipt that is on both sides would have lines in both lists.
  match left with
  | [] =>
    rw [List.nil_append] at parts
    exact hback id other (parts ▸ inBack)
  | [_] =>
    obtain ⟨rfl, rfl⟩ := List.cons.inj parts
    exact (disjoint (inFront.subset (by simp)) (inBack.subset (by simp))).elim
  | [_, _] =>
    simp only [List.cons_append, List.nil_append, List.cons.injEq] at parts
    obtain ⟨rfl, rfl, rfl⟩ := parts
    exact (disjoint (inFront.subset (by simp)) (inBack.subset (by simp))).elim
  | [_, _, _] =>
    simp only [List.cons_append, List.nil_append, List.cons.injEq] at parts
    obtain ⟨rfl, rfl, rfl, -⟩ := parts
    exact hfront id other inFront
  | _ :: _ :: _ :: _ :: _ => simp at parts

/-- A list of whole receipts has the lines of each of them together. -/
theorem AreReceipts.together {blocks : List (List TenderLine)} (h : AreReceipts blocks) :
    Together blocks.flatten := by
  obtain ⟨own, apart⟩ := h
  induction blocks with
  | nil => exact fun _ _ between => nomatch between
  | cons block rest ih =>
    rw [List.forall_mem_cons] at own
    rw [List.pairwise_cons] at apart
    obtain ⟨id, first⟩ := own.1
    rw [List.flatten_cons]
    refine (together_of_own first).append (ih own.2 apart.2) fun l hl k hk => ?_
    obtain ⟨other, hother, within⟩ := List.mem_flatten.1 hk
    exact apart.1 other hother l hl k within

theorem AreReceipts.perm {blocks blocks' : List (List TenderLine)} (h : AreReceipts blocks)
    (perm : blocks'.Perm blocks) : AreReceipts blocks' where
  own := fun block hblock => h.own block (perm.mem_iff.1 hblock)
  apart := (perm.pairwise_iff fun apart l hl k hk => (apart k hk l hl).symm).2 h.apart

/-- The lines of one receipt may change places among themselves. -/
theorem Together.reordered (h : Together (front ++ (block ++ back))) {id : String}
    (own : ∀ l ∈ block, l.receiptId = id) (perm : block'.Perm block) :
    Together (front ++ (block' ++ back)) := by
  have ids : block'.map (·.receiptId) = block.map (·.receiptId) := by
    rw [List.map_congr_left own, List.map_congr_left fun l hl => own l (perm.mem_iff.1 hl),
      List.map_const', List.map_const', perm.length_eq]
  unfold Together at h ⊢
  simpa only [List.map_append, ids] using h

theorem receiptIds_append (lines rest : List TenderLine) :
    receiptIds (lines ++ rest) = receiptIds lines ∪ receiptIds rest := by
  simp [receiptIds]

/-- Lines of different receipts are of as many receipts as both together. -/
theorem card_receiptIds_append (apart : ∀ l ∈ front, ∀ k ∈ back, l.receiptId ≠ k.receiptId) :
    (receiptIds (front ++ back)).card = (receiptIds front).card + (receiptIds back).card := by
  rw [receiptIds_append, Finset.card_union_of_disjoint]
  exact List.disjoint_toFinset_iff_disjoint.2 (disjoint_ids apart)

end TenderLine

namespace ShiftTotals

variable {lines lines' front back : List TenderLine}

/-! ## Totals of receipts -/

/-- The totals of lines that stand together are exact if their receipts can be counted. -/
theorem exists_exact (together : TenderLine.Together lines)
    (within : TenderLine.magnitude lines ≤ Int64.maxValue.toInt)
    (few : (TenderLine.receiptIds lines).card ≤ Int64.maxValue.toInt) :
    ∃ t, ofLines lines = .ok t ∧ (∀ m, (t.total m).toInt = TenderLine.takings lines m) ∧
      t.receiptCount.toInt = (TenderLine.receiptIds lines).card := by
  have count := TenderLine.starts_eq_card together
  rw [← count] at few ⊢
  exact ofLines_exact_of_magnitude within few

/-- Nothing but the count of the receipts can fail. -/
theorem ofLines_of_many (together : TenderLine.Together lines)
    (within : TenderLine.magnitude lines ≤ Int64.maxValue.toInt)
    (many : Int64.maxValue.toInt < (TenderLine.receiptIds lines).card) :
    ofLines lines = .error .adding := by
  apply addLines_of_many
  · intro l hl
    have size := TenderLine.natAbs_le_magnitude hl
    omega
  · rw [TenderLine.starts_eq_card together]
    simpa using many

theorem exists_ofLines_iff (together : TenderLine.Together lines)
    (within : TenderLine.magnitude lines ≤ Int64.maxValue.toInt) :
    (∃ t, ofLines lines = .ok t) ↔
      (TenderLine.receiptIds lines).card ≤ Int64.maxValue.toInt := by
  constructor
  · rintro ⟨t, sums⟩
    by_contra many
    rw [ofLines_of_many together within (Int.not_le.1 many)] at sums
    nomatch sums
  · intro few
    obtain ⟨t, sums, -⟩ := exists_exact together within few
    exact ⟨t, sums⟩

/-- The totals of lines that stand together are exact. -/
theorem exact_of_ofLines (together : TenderLine.Together lines)
    (within : TenderLine.magnitude lines ≤ Int64.maxValue.toInt) {t : ShiftTotals}
    (sums : ofLines lines = .ok t) :
    (∀ m, (t.total m).toInt = TenderLine.takings lines m) ∧
      t.receiptCount.toInt = (TenderLine.receiptIds lines).card := by
  obtain ⟨t', sums', exact⟩ :=
    exists_exact together within ((exists_ofLines_iff together within).1 ⟨t, sums⟩)
  obtain rfl : t' = t := Except.ok.inj (sums'.symm.trans sums)
  exact exact

/-- The order of the lines does not matter as long as those of one receipt stand together. -/
theorem ofLines_perm (together : TenderLine.Together lines) (together' : TenderLine.Together lines')
    (within : TenderLine.magnitude lines ≤ Int64.maxValue.toInt) (perm : lines'.Perm lines) :
    ofLines lines' = ofLines lines := by
  have within' : TenderLine.magnitude lines' ≤ Int64.maxValue.toInt :=
    TenderLine.magnitude_perm perm ▸ within
  have receipts := TenderLine.receiptIds_perm perm
  by_cases few : (TenderLine.receiptIds lines).card ≤ Int64.maxValue.toInt
  · obtain ⟨t, sums, exact, count⟩ := exists_exact together within few
    obtain ⟨t', sums', exact', count'⟩ := exists_exact together' within' (receipts ▸ few)
    have same : t' = t := by
      apply eq_of_toInt_eq
      · intro m
        rw [exact, exact', TenderLine.takings_perm perm]
      · rw [count, count', receipts]
    rw [sums, sums', same]
  · have many := Int.not_le.1 few
    rw [ofLines_of_many together within many, ofLines_of_many together' within' (receipts ▸ many)]

/-- Lines of different receipts can be added up apart. -/
theorem ofLines_append (together : TenderLine.Together (front ++ back))
    (within : TenderLine.magnitude (front ++ back) ≤ Int64.maxValue.toInt)
    (apart : ∀ l ∈ front, ∀ k ∈ back, l.receiptId ≠ k.receiptId) {t : ShiftTotals}
    (sums : ofLines (front ++ back) = .ok t) :
    ∃ tf tb, ofLines front = .ok tf ∧ ofLines back = .ok tb ∧
      (∀ m, (t.total m).toInt = (tf.total m).toInt + (tb.total m).toInt) ∧
      t.receiptCount.toInt = tf.receiptCount.toInt + tb.receiptCount.toInt := by
  have few := (exists_ofLines_iff together within).1 ⟨t, sums⟩
  obtain ⟨exact, count⟩ := exact_of_ofLines together within sums
  have card := TenderLine.card_receiptIds_append apart
  have first := TenderLine.magnitude_nonneg front
  have second := TenderLine.magnitude_nonneg back
  rw [TenderLine.magnitude_append] at within
  obtain ⟨tf, sumsF, exactF, countF⟩ := exists_exact
    (together.of_sublist (List.sublist_append_left front back)) (by omega) (by omega)
  obtain ⟨tb, sumsB, exactB, countB⟩ := exists_exact
    (together.of_sublist (List.sublist_append_right front back)) (by omega) (by omega)
  refine ⟨tf, tb, sumsF, sumsB, fun m => ?_, ?_⟩
  · rw [exact, exactF, exactB, TenderLine.takings_append]
  · rw [count, countF, countB, card, Nat.cast_add]

/-- The totals are those of the receipts.  They are there unless there are more receipts than a word
counts, for which no memory has room.  Each is the exact sum of the lines of its method, and every
receipt is counted once; lists that share no receipt are added up apart; and neither whole receipts
nor the lines of one receipt need to come in any order.  An amount may have any sign. -/
theorem ofLines_receiptwise (together : TenderLine.Together lines)
    (within : TenderLine.magnitude lines ≤ Int64.maxValue.toInt) :
    ((∃ t, ofLines lines = .ok t) ↔
      (lines.map (·.receiptId)).toFinset.card ≤ Int64.maxValue.toInt) ∧
    (∀ t, ofLines lines = .ok t →
      (∀ m, (t.total m).toInt = ((lines.filter (·.method == m)).map (·.signed)).sum) ∧
      t.receiptCount.toInt = (lines.map (·.receiptId)).toFinset.card ∧
      ∀ front back, lines = front ++ back →
        (∀ l ∈ front, ∀ k ∈ back, l.receiptId ≠ k.receiptId) →
        ∃ tf tb, ofLines front = .ok tf ∧ ofLines back = .ok tb ∧
          (∀ m, (t.total m).toInt = (tf.total m).toInt + (tb.total m).toInt) ∧
          t.receiptCount.toInt = tf.receiptCount.toInt + tb.receiptCount.toInt) ∧
    (∀ blocks blocks' : List (List TenderLine), lines = blocks.flatten →
      TenderLine.AreReceipts blocks → blocks'.Perm blocks →
      ofLines blocks'.flatten = ofLines lines) ∧
    (∀ front block block' back id, lines = front ++ (block ++ back) →
      (∀ l ∈ block, l.receiptId = id) → block'.Perm block →
      ofLines (front ++ (block' ++ back)) = ofLines lines) := by
  refine ⟨exists_ofLines_iff together within, fun t sums => ?_, ?_, ?_⟩
  · obtain ⟨exact, count⟩ := exact_of_ofLines together within sums
    refine ⟨exact, count, ?_⟩
    rintro front back rfl apart
    exact ofLines_append together within apart sums
  · rintro blocks blocks' rfl receipts perm
    exact ofLines_perm together (receipts.perm perm).together within perm.flatten
  · rintro front block block' back id rfl own perm
    exact ofLines_perm together (together.reordered own perm) within
      ((perm.append_right back).append_left front)

/-- A receipt with two tenders and the return of another, in both orders. -/
theorem ofLines_receiptwise_of_return :
    TenderLine.Together [⟨"r2", .cash, 300, false⟩, ⟨"r2", .credit, 200, false⟩,
        ⟨"r1", .cash, 100, true⟩] ∧
      TenderLine.magnitude [⟨"r2", .cash, 300, false⟩, ⟨"r2", .credit, 200, false⟩,
        ⟨"r1", .cash, 100, true⟩] ≤ Int64.maxValue.toInt ∧
      ∃ t, ofLines [⟨"r2", .cash, 300, false⟩, ⟨"r2", .credit, 200, false⟩,
          ⟨"r1", .cash, 100, true⟩] = .ok t ∧ (t.total .cash).toInt = 200 ∧
        ofLines [⟨"r1", .cash, 100, true⟩, ⟨"r2", .cash, 300, false⟩,
          ⟨"r2", .credit, 200, false⟩] = .ok t := by
  have receipts : TenderLine.AreReceipts [[⟨"r2", .cash, 300, false⟩, ⟨"r2", .credit, 200, false⟩],
      [⟨"r1", .cash, 100, true⟩]] := by
    constructor
    · simp
    · simp
  have within : TenderLine.magnitude [⟨"r2", .cash, 300, false⟩, ⟨"r2", .credit, 200, false⟩,
      ⟨"r1", .cash, 100, true⟩] ≤ Int64.maxValue.toInt := by decide
  obtain ⟨counted, exact, blocks, -⟩ := ofLines_receiptwise receipts.together within
  obtain ⟨t, sums⟩ := counted.2 (by decide)
  refine ⟨receipts.together, within, t, sums, (exact t sums).1 .cash, ?_⟩
  rw [← sums]
  exact blocks _ _ rfl receipts (List.Perm.swap _ _ [])

end ShiftTotals

end Tillbook
