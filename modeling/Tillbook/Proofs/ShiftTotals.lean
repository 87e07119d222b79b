import Mathlib.Algebra.Order.BigOperators.Group.List
import Mathlib.Algebra.Order.Group.Int
import Mathlib.Algebra.Ring.Int.Defs
import Mathlib.Data.Finset.Card
import Mathlib.Data.Finset.Dedup
import Tillbook.Reconciliation

/-!
# Shift totals in exact integers

The totals of a shift are words that stop at the ends of their range, and the receipts are
counted by the changes of the identity from line to line.  As long as the magnitudes of all
lines together are a word, every total is the exact sum; and where the lines of one receipt
stand together, the count is the number of receipts.

## Main definitions

* `Money.movement` — an amount with the sign of its receipt.
* `TenderLine.takings` — the sum of the lines of a method, returns taken off.
* `TenderLine.magnitude` — what the lines move at most.
* `TenderLine.starts` — the lines at which another receipt starts.
* `TenderLine.Together` — the lines of one receipt stand together.

## Main statements

* `ShiftTotals.exists_ofLines` — lines have totals.
* `ShiftTotals.ofLines_exact` — nothing stops at an end of the range.
* `TenderLine.starts_eq_card` — each receipt starts once.
-/

namespace Tillbook

namespace Money

/-- The amount as an integer, backwards for a return. -/
def movement (m : Money) (isReturn : Bool) : Int := if isReturn then -m.toInt else m.toInt

theorem signed_eq_ok_iff {m w : Money} {isReturn : Bool} :
    m.signed isReturn = .ok w ↔ w.toInt = m.movement isReturn := by
  unfold signed movement
  cases isReturn with
  | true => exact Word.neg_eq_ok_iff
  | false => simp [← Int64.toInt_inj, eq_comm]

theorem natAbs_movement (m : Money) (isReturn : Bool) :
    (m.movement isReturn).natAbs = m.toInt.natAbs := by
  cases isReturn <;> simp [movement]

/-- Every amount but the least one has a sign of either kind. -/
theorem exists_signed_of_above {m : Money} (above : -Int64.maxValue.toInt ≤ m.toInt)
    (isReturn : Bool) : ∃ w, m.signed isReturn = .ok w ∧ w.toInt = m.movement isReturn := by
  have most := m.toInt_le
  rw [Int64.toInt_maxValue] at above most
  have word : (Int64.ofInt (m.movement isReturn)).toInt = m.movement isReturn := by
    apply Int64.toInt_ofInt_of_le
    all_goals
      unfold movement
      split <;> omega
  exact ⟨_, signed_eq_ok_iff.2 word, word⟩

theorem exists_signed {m : Money} (amount : 0 ≤ m.toInt) (isReturn : Bool) :
    ∃ w, m.signed isReturn = .ok w ∧ w.toInt = m.movement isReturn := by
  have most : 0 ≤ Int64.maxValue.toInt := by decide
  exact exists_signed_of_above (by omega) isReturn

end Money

namespace TenderLine

/-- The amount of a line with the sign of its receipt. -/
def signed (l : TenderLine) : Int := l.amount.movement l.isReturn

/-- The sum of the lines of a method, returns taken off. -/
def takings (lines : List TenderLine) (m : TenderMethod) : Int :=
  ((lines.filter (·.method == m)).map signed).sum

/-- The amount of some lines, without their signs. -/
def volume (lines : List TenderLine) : Int := (lines.map (·.amount.toInt)).sum

/-- What some lines move at most, whichever way each of them goes. -/
def magnitude (lines : List TenderLine) : Int :=
  (lines.map fun l => (l.amount.toInt.natAbs : Int)).sum

/-- The number of lines at which another receipt starts, after a line of the receipt `last`. -/
def starts (last : Option String) : List TenderLine → Nat
  | [] => 0
  | l :: rest => (if last = some l.receiptId then 0 else 1) + starts (some l.receiptId) rest

variable {l : TenderLine} {lines rest : List TenderLine} {m : TenderMethod}

@[simp] theorem takings_nil (m : TenderMethod) : takings [] m = 0 := rfl

theorem takings_cons (l : TenderLine) (rest : List TenderLine) (m : TenderMethod) :
    takings (l :: rest) m = (if l.method = m then l.signed else 0) + takings rest m := by
  unfold takings
  by_cases own : l.method = m <;> simp [own]

theorem takings_append (lines rest : List TenderLine) (m : TenderMethod) :
    takings (lines ++ rest) m = takings lines m + takings rest m := by
  simp [takings]

theorem takings_perm (h : lines.Perm rest) (m : TenderMethod) : takings lines m = takings rest m :=
  ((h.filter _).map _).sum_eq

/-- The methods together take what all lines move. -/
theorem sum_takings (lines : List TenderLine) :
    takings lines .cash + takings lines .mobile + takings lines .credit =
      (lines.map signed).sum := by
  induction lines with
  | nil => rfl
  | cons l rest ih =>
    rw [List.map_cons, List.sum_cons, ← ih, takings_cons, takings_cons, takings_cons]
    cases l.method <;> simp <;> omega

theorem volume_append (lines rest : List TenderLine) :
    volume (lines ++ rest) = volume lines + volume rest := by
  simp [volume]

theorem volume_nonneg (amounts : ∀ l ∈ lines, 0 ≤ l.amount.toInt) : 0 ≤ volume lines :=
  List.sum_nonneg (by simpa using amounts)

theorem natAbs_signed (l : TenderLine) : l.signed.natAbs = l.amount.toInt.natAbs :=
  l.amount.natAbs_movement l.isReturn

theorem magnitude_cons (l : TenderLine) (rest : List TenderLine) :
    magnitude (l :: rest) = l.amount.toInt.natAbs + magnitude rest := by
  simp [magnitude]

theorem magnitude_append (lines rest : List TenderLine) :
    magnitude (lines ++ rest) = magnitude lines + magnitude rest := by
  simp [magnitude]

theorem magnitude_nonneg (lines : List TenderLine) : 0 ≤ magnitude lines :=
  List.sum_nonneg (by simp)

theorem magnitude_perm (h : lines.Perm rest) : magnitude lines = magnitude rest :=
  (h.map _).sum_eq

theorem natAbs_le_magnitude (h : l ∈ lines) : l.amount.toInt.natAbs ≤ magnitude lines :=
  List.single_le_sum (by simp) _ (List.mem_map_of_mem h)

/-- Amounts that are not below zero move what they are. -/
theorem magnitude_eq_volume (amounts : ∀ l ∈ lines, 0 ≤ l.amount.toInt) :
    magnitude lines = volume lines := by
  unfold magnitude volume
  congr 1
  exact List.map_congr_left fun l hl => Int.natAbs_of_nonneg (amounts l hl)

theorem starts_cons (last : Option String) (l : TenderLine) (rest : List TenderLine) :
    starts last (l :: rest) = starts last [l] + starts (some l.receiptId) rest := rfl

/-- Fewer receipts start in the first lines than in all of them. -/
theorem starts_le_append (last : Option String) (lines rest : List TenderLine) :
    starts last lines ≤ starts last (lines ++ rest) := by
  induction lines generalizing last with
  | nil => exact Nat.zero_le _
  | cons l more ih => exact Nat.add_le_add_left (ih (some l.receiptId)) _

/-- The identities of the receipts of some lines. -/
def receiptIds (lines : List TenderLine) : Finset String := (lines.map (·.receiptId)).toFinset

theorem receiptIds_cons (l : TenderLine) (rest : List TenderLine) :
    receiptIds (l :: rest) = insert l.receiptId (receiptIds rest) := by
  simp [receiptIds]

/-- A line makes its receipt one more than those of the other lines. -/
theorem card_receiptIds_cons (l : TenderLine) (rest : List TenderLine) :
    (receiptIds (l :: rest)).card = 1 + ((receiptIds rest).erase l.receiptId).card := by
  rw [receiptIds_cons, Nat.add_comm]
  by_cases more : l.receiptId ∈ receiptIds rest
  · rw [Finset.insert_eq_of_mem more, Finset.card_erase_add_one more]
  · rw [Finset.card_insert_of_notMem more, Finset.erase_eq_of_notMem more]

theorem receiptIds_perm (h : lines.Perm rest) : receiptIds lines = receiptIds rest :=
  List.toFinset_eq_of_perm _ _ (h.map _)

/-- No line of another receipt stands between two lines of one receipt. -/
def Together (lines : List TenderLine) : Prop :=
  ∀ id other, [id, other, id].Sublist (lines.map (·.receiptId)) → other = id

theorem Together.of_sublist (h : Together lines) (part : rest.Sublist lines) : Together rest :=
  fun id other between => h id other (between.trans (part.map _))

theorem Together.tail (h : Together (l :: rest)) : Together rest :=
  h.of_sublist (List.sublist_cons_self l rest)

/-- As long as lines of the first receipt follow, no other receipt has a line. -/
theorem Together.after_head (h : Together (l :: rest)) :
    ∀ other, [other, l.receiptId].Sublist (rest.map (·.receiptId)) → other = l.receiptId :=
  fun other between => h l.receiptId other (between.cons_cons _)

/-- Lines in the order of their receipts stand together. -/
theorem together_of_pairwise (sorted : lines.Pairwise fun a b => a.receiptId ≤ b.receiptId) :
    Together lines := by
  intro id other between
  have ordered : [id, other, id].Pairwise (· ≤ ·) := (List.pairwise_map.2 sorted).sublist between
  rw [List.pairwise_cons, List.pairwise_cons] at ordered
  exact String.le_antisymm (ordered.2.1 id (by simp)) (ordered.1 other (by simp))

/-- Where the lines of one receipt stand together, each receipt but the last one starts once. -/
theorem starts_eq_card_erase {last : String} (together : Together lines)
    (after : ∀ other, [other, last].Sublist (lines.map (·.receiptId)) → other = last) :
    starts (some last) lines = ((receiptIds lines).erase last).card := by
  induction lines generalizing last with
  | nil => rfl
  | cons l rest ih =>
    rw [starts, ih together.tail together.after_head]
    by_cases own : last = l.receiptId
    · rw [if_pos (by rw [own]), own, receiptIds_cons, Finset.erase_insert_eq_erase, Nat.zero_add]
    · -- The last receipt has no line any more, or this one would stand before it.
      have gone : last ∉ receiptIds (l :: rest) := by
        rw [receiptIds_cons, Finset.mem_insert, not_or]
        refine ⟨own, fun listed => own (after l.receiptId ?_).symm⟩
        exact (List.singleton_sublist.2 (List.mem_toFinset.1 listed)).cons_cons _
      rw [if_neg (by simpa using own), Finset.erase_eq_of_notMem gone, card_receiptIds_cons]

/-- Where the lines of one receipt stand together, each receipt starts once. -/
theorem starts_eq_card (together : Together lines) :
    starts none lines = (receiptIds lines).card := by
  cases lines with
  | nil => rfl
  | cons l rest =>
    rw [starts, if_neg nofun, starts_eq_card_erase together.tail together.after_head,
      card_receiptIds_cons]

end TenderLine

namespace ShiftTotals

/-- The total of a method. -/
def total (t : ShiftTotals) : TenderMethod → Money
  | .cash => t.cash
  | .mobile => t.mobile
  | .credit => t.credit

theorem total_addTo (t : ShiftTotals) (method m : TenderMethod) (amount : Money) :
    (t.addTo method amount).total m =
      if method = m then Word.addClamped (t.total m) amount else t.total m := by
  cases method <;> cases m <;> rfl

theorem receiptCount_addTo (t : ShiftTotals) (method : TenderMethod) (amount : Money) :
    (t.addTo method amount).receiptCount = t.receiptCount := by
  cases method <;> rfl

/-- Every total stays inside the range when at most `n` is added to it or taken off. -/
def Room (t : ShiftTotals) (n : Int) : Prop :=
  ∀ m, -Int64.maxValue.toInt ≤ (t.total m).toInt - n ∧
    (t.total m).toInt + n ≤ Int64.maxValue.toInt

/-- The totals are those of some lines, added to others, without a word that has stopped. -/
structure Exact (t t' : ShiftTotals) (last : Option String) (lines : List TenderLine) : Prop where
  total : ∀ m, (t'.total m).toInt = (t.total m).toInt + TenderLine.takings lines m
  count : t'.receiptCount.toInt = t.receiptCount.toInt + TenderLine.starts last lines

theorem eq_of_toInt_eq {t t' : ShiftTotals} (total : ∀ m, (t.total m).toInt = (t'.total m).toInt)
    (count : t.receiptCount.toInt = t'.receiptCount.toInt) : t = t' := by
  have cash : t.cash = t'.cash := Int64.toInt_inj.1 (total .cash)
  have mobile : t.mobile = t'.mobile := Int64.toInt_inj.1 (total .mobile)
  have credit : t.credit = t'.credit := Int64.toInt_inj.1 (total .credit)
  cases t
  cases t'
  simp_all [Int64.toInt_inj]

/-- The amount of a line is added exactly to the total of its method. -/
theorem total_addTo_exact {t : ShiftTotals} {l : TenderLine} {w : Money}
    (room : t.Room l.amount.toInt.natAbs) (signed : w.toInt = l.signed) (m : TenderMethod) :
    ((t.addTo l.method w).total m).toInt = (t.total m).toInt + TenderLine.takings [l] m := by
  have size := l.natAbs_signed
  have within := room m
  rw [total_addTo, TenderLine.takings_cons, TenderLine.takings_nil]
  by_cases own : l.method = m
  · have clamped := Word.toInt_clamp ((t.total m).toInt + w.toInt)
    rw [if_pos own, if_pos own, Word.addClamped, clamped, signed]
    simp only [Int64.toInt_maxValue, Int64.toInt_minValue] at within ⊢
    omega
  · rw [if_neg own, if_neg own]
    omega

/-- A line is added as long as the receipts can be counted. -/
theorem exists_addLine {t : ShiftTotals} {last : Option String} {l : TenderLine}
    (above : -Int64.maxValue.toInt ≤ l.amount.toInt)
    (count : t.receiptCount.toInt + TenderLine.starts last [l] ≤ Int64.maxValue.toInt) :
    ∃ (n : Int64) (w : Money), n.toInt = t.receiptCount.toInt + TenderLine.starts last [l] ∧
      w.toInt = l.signed ∧
      t.addLine last l = .ok ({ t with receiptCount := n }.addTo l.method w) := by
  obtain ⟨w, signed, hw⟩ := Money.exists_signed_of_above above l.isReturn
  by_cases own : last = some l.receiptId
  · refine ⟨t.receiptCount, w, by simp [TenderLine.starts, own], hw, ?_⟩
    simp only [addLine, own, if_true, signed]
    rfl
  · have least := t.receiptCount.minValue_le_toInt
    have start : TenderLine.starts last [l] = 1 := by simp [TenderLine.starts, own]
    rw [start] at count
    obtain ⟨n, next⟩ : ∃ n : Int64, n.toInt = t.receiptCount.toInt + 1 :=
      Word.exists_toInt_eq (by omega) count
    have counted : Word.add t.receiptCount 1 = .ok n := Word.add_eq_ok_iff.2 next
    refine ⟨n, w, by rw [start]; exact next, hw, ?_⟩
    simp only [addLine, own, if_false, counted, signed]
    rfl

/-- One line is added exactly. -/
theorem addLine_exact {t : ShiftTotals} {last : Option String} {l : TenderLine}
    (room : t.Room l.amount.toInt.natAbs)
    (count : t.receiptCount.toInt + TenderLine.starts last [l] ≤ Int64.maxValue.toInt) :
    ∃ t', t.addLine last l = .ok t' ∧ Exact t t' last [l] := by
  have within := room .cash
  obtain ⟨n, w, counted, signed, added⟩ := exists_addLine (by omega) count
  have same_room : ({ t with receiptCount := n } : ShiftTotals).Room l.amount.toInt.natAbs := room
  refine ⟨_, added, total_addTo_exact same_room signed, ?_⟩
  rw [receiptCount_addTo]
  exact counted

/-- Lines are added exactly as long as their magnitudes fit into the range together. -/
theorem addLines_exact {t : ShiftTotals} {last : Option String} {lines : List TenderLine}
    (room : t.Room (TenderLine.magnitude lines))
    (count : t.receiptCount.toInt + TenderLine.starts last lines ≤ Int64.maxValue.toInt) :
    ∃ t', t.addLines last lines = .ok t' ∧ Exact t t' last lines := by
  induction lines generalizing t last with
  | nil => exact ⟨t, rfl, fun m => by simp, by simp [TenderLine.starts]⟩
  | cons l rest ih =>
    have later := TenderLine.magnitude_nonneg rest
    have size := l.natAbs_signed
    rw [TenderLine.magnitude_cons] at room
    rw [TenderLine.starts_cons] at count
    have first_room : t.Room l.amount.toInt.natAbs := fun m => by
      have within := room m
      omega
    have first_count : t.receiptCount.toInt + TenderLine.starts last [l] ≤
        Int64.maxValue.toInt := by
      omega
    obtain ⟨t₁, first, exact₁⟩ := addLine_exact first_room first_count
    have rest_room : t₁.Room (TenderLine.magnitude rest) := fun m => by
      have within := room m
      have moved := exact₁.total m
      rw [TenderLine.takings_cons, TenderLine.takings_nil] at moved
      split at moved <;> omega
    have rest_count : t₁.receiptCount.toInt + TenderLine.starts (some l.receiptId) rest ≤
        Int64.maxValue.toInt := by
      rw [exact₁.count]
      omega
    obtain ⟨t', others, exact'⟩ := ih rest_room rest_count
    refine ⟨t', ?_, fun m => ?_, ?_⟩
    · rw [addLines, first]
      exact others
    · have parts : TenderLine.takings (l :: rest) m =
          TenderLine.takings [l] m + TenderLine.takings rest m :=
        TenderLine.takings_append [l] rest m
      rw [exact'.total, exact₁.total, parts]
      omega
    · rw [exact'.count, exact₁.count, TenderLine.starts_cons last l rest]
      omega

/-- Lines are added as long as their receipts can be counted, whatever the totals come to. -/
theorem exists_addLines {t : ShiftTotals} {last : Option String} {lines : List TenderLine}
    (above : ∀ l ∈ lines, -Int64.maxValue.toInt ≤ l.amount.toInt)
    (count : t.receiptCount.toInt + TenderLine.starts last lines ≤ Int64.maxValue.toInt) :
    ∃ t', t.addLines last lines = .ok t' := by
  induction lines generalizing t last with
  | nil => exact ⟨t, rfl⟩
  | cons l rest ih =>
    rw [List.forall_mem_cons] at above
    rw [TenderLine.starts_cons] at count
    have first : t.receiptCount.toInt + TenderLine.starts last [l] ≤ Int64.maxValue.toInt := by
      omega
    obtain ⟨n, w, counted, -, added⟩ := exists_addLine above.1 first
    rw [addLines, added]
    apply ih above.2
    rw [receiptCount_addTo]
    change n.toInt + _ ≤ _
    omega

/-- A receipt beyond the last that can be counted is not added. -/
theorem addLine_of_many {t : ShiftTotals} {last : Option String} {l : TenderLine}
    (many : Int64.maxValue.toInt < t.receiptCount.toInt + TenderLine.starts last [l]) :
    t.addLine last l = .error .adding := by
  have most := t.receiptCount.toInt_le
  have own : last ≠ some l.receiptId := by
    intro own
    simp only [TenderLine.starts, own, if_true] at many
    omega
  have start : TenderLine.starts last [l] = 1 := by simp [TenderLine.starts, own]
  rw [start] at many
  have beyond : Word.ofInt? (t.receiptCount.toInt + 1) = none :=
    Word.ofInt?_eq_none_iff.2 (.inr many)
  have uncounted : Word.add t.receiptCount 1 = .error .adding := by
    change Word.checked .adding (t.receiptCount.toInt + 1) = _
    rw [Word.checked, beyond]
  simp only [addLine, own, if_false, uncounted]
  rfl

/-- Lines are not added if they have more receipts than can be counted. -/
theorem addLines_of_many {t : ShiftTotals} {last : Option String} {lines : List TenderLine}
    (above : ∀ l ∈ lines, -Int64.maxValue.toInt ≤ l.amount.toInt)
    (many : Int64.maxValue.toInt < t.receiptCount.toInt + TenderLine.starts last lines) :
    t.addLines last lines = .error .adding := by
  induction lines generalizing t last with
  | nil =>
    have most := t.receiptCount.toInt_le
    simp only [TenderLine.starts] at many
    omega
  | cons l rest ih =>
    rw [List.forall_mem_cons] at above
    rw [TenderLine.starts_cons] at many
    by_cases first : t.receiptCount.toInt + TenderLine.starts last [l] ≤ Int64.maxValue.toInt
    · obtain ⟨n, w, counted, -, added⟩ := exists_addLine above.1 first
      rw [addLines, added]
      apply ih above.2
      rw [receiptCount_addTo]
      change _ < n.toInt + _
      omega
    · rw [addLines, addLine_of_many (Int.not_le.1 first)]
      rfl

/-- Lines have totals as long as their receipts can be counted. -/
theorem exists_ofLines {lines : List TenderLine} (amounts : ∀ l ∈ lines, 0 ≤ l.amount.toInt)
    (count : TenderLine.starts none lines ≤ Int64.maxValue.toInt) :
    ∃ t, ofLines lines = .ok t := by
  have most : 0 ≤ Int64.maxValue.toInt := by decide
  have above : ∀ l ∈ lines, -Int64.maxValue.toInt ≤ l.amount.toInt := fun l hl => by
    have amount := amounts l hl
    omega
  exact exists_addLines above (by simpa using count)

/-- The totals of lines whose magnitudes fit into the range together are exact. -/
theorem ofLines_exact_of_magnitude {lines : List TenderLine}
    (within : TenderLine.magnitude lines ≤ Int64.maxValue.toInt)
    (count : TenderLine.starts none lines ≤ Int64.maxValue.toInt) :
    ∃ t, ofLines lines = .ok t ∧ (∀ m, (t.total m).toInt = TenderLine.takings lines m) ∧
      t.receiptCount.toInt = TenderLine.starts none lines := by
  have room : ({} : ShiftTotals).Room (TenderLine.magnitude lines) := by
    intro m
    cases m <;> exact ⟨by simp [total]; omega, by simpa [total] using within⟩
  obtain ⟨t, added, exact⟩ := addLines_exact room (by simpa using count)
  refine ⟨t, added, fun m => ?_, by simpa using exact.count⟩
  rw [exact.total]
  cases m <;> simp [total]

/-- The totals of lines whose amounts fit into the range together are exact. -/
theorem ofLines_exact {lines : List TenderLine} (amounts : ∀ l ∈ lines, 0 ≤ l.amount.toInt)
    (volume : TenderLine.volume lines ≤ Int64.maxValue.toInt)
    (count : TenderLine.starts none lines ≤ Int64.maxValue.toInt) :
    ∃ t, ofLines lines = .ok t ∧ (∀ m, (t.total m).toInt = TenderLine.takings lines m) ∧
      t.receiptCount.toInt = TenderLine.starts none lines :=
  ofLines_exact_of_magnitude (TenderLine.magnitude_eq_volume amounts ▸ volume) count

end ShiftTotals

end Tillbook
