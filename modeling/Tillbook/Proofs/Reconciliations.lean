import Tillbook.Proofs.Shifts
import Tillbook.Proofs.Takings

/-!
# Reconciliations

The reports of a running shift, before its end and at its end, agree with the receipts of
the shift in exact integers, as long as these are not more than ninety million: no amount
is larger than a hundred thousand million, so all of them together are a word.

## Main definitions

* `ZReport.Reconciles` — a report agrees with the receipts of its shift.

## Main statements

* `Store.Carried.exact_of_prefix` — no total stops on the way.
* `ZReport.reconciles_ofTotals` — a report that is made from exact totals agrees.
* `History.reports_reconcile` — the reports of every run.
-/

namespace Tillbook

/-! ## Exact totals -/

namespace TenderLine

/-- What is taken by a method is not more than what there is. -/
theorem takings_within {lines : List TenderLine} (amounts : ∀ l ∈ lines, 0 ≤ l.amount.toInt)
    (m : TenderMethod) : -volume lines ≤ takings lines m ∧ takings lines m ≤ volume lines := by
  induction lines with
  | nil => exact ⟨Int.le_refl 0, Int.le_refl 0⟩
  | cons l rest ih =>
    rw [List.forall_mem_cons] at amounts
    have others := ih amounts.2
    have first := amounts.1
    have volume_eq : volume (l :: rest) = l.amount.toInt + volume rest := by simp [volume]
    rw [takings_cons, volume_eq]
    unfold signed Money.movement
    split <;> [split; skip] <;> omega

end TenderLine

namespace Store.Carried

variable {s : Store} {shiftId : String}

theorem volume_linesOf_le_of_few (carried : s.Carried) (sound : s.Sound)
    (few : (s.receiptsOf shiftId).length ≤ 90000000) :
    TenderLine.volume (Shifts.linesOf shiftId s) ≤ 9000000000000000000 := by
  have most := carried.volume_linesOf_le sound shiftId
  have amount : Validation.maxAmount.toInt = 100000000000 := by decide
  rw [amount] at most
  omega

/-- No total stops on the way: those of the first lines are exact, however many they are.  There
is room for two million receipts more than a report may have. -/
theorem exact_of_prefix_of_room (carried : s.Carried) (sound : s.Sound)
    (few : (s.receiptsOf shiftId).length ≤ 92000000) {lines : List TenderLine}
    (part : lines <+: Shifts.linesOf shiftId s) :
    ∃ totals, ShiftTotals.ofLines lines = .ok totals ∧
      (∀ m, (totals.total m).toInt = TenderLine.takings lines m) ∧
      totals.receiptCount.toInt = TenderLine.starts none lines := by
  have amounts := carried.amount_nonneg sound shiftId
  have volume := carried.volume_linesOf_le sound shiftId
  have amount : Validation.maxAmount.toInt = 100000000000 := by decide
  have starts := carried.starts_linesOf sound shiftId
  obtain ⟨rest, whole⟩ := part
  rw [← whole] at amounts volume starts
  rw [TenderLine.volume_append, amount] at volume
  have later := TenderLine.volume_nonneg fun l hl => amounts l (List.mem_append_right lines hl)
  have fewer := TenderLine.starts_le_append none lines rest
  apply ShiftTotals.ofLines_exact
  · exact fun l hl => amounts l (List.mem_append_left rest hl)
  · rw [Int64.toInt_maxValue]
    omega
  · rw [Int64.toInt_maxValue]
    omega

theorem exact_of_prefix (carried : s.Carried) (sound : s.Sound)
    (few : (s.receiptsOf shiftId).length ≤ 90000000) {lines : List TenderLine}
    (part : lines <+: Shifts.linesOf shiftId s) :
    ∃ totals, ShiftTotals.ofLines lines = .ok totals ∧
      (∀ m, (totals.total m).toInt = TenderLine.takings lines m) ∧
      totals.receiptCount.toInt = TenderLine.starts none lines :=
  carried.exact_of_prefix_of_room sound (few.trans (by omega)) part

/-- The totals of a shift are what its receipts come to. -/
theorem exists_exact_totals (carried : s.Carried) (sound : s.Sound) (shiftId : String)
    (few : (s.receiptsOf shiftId).length ≤ 92000000) :
    ∃ totals, ShiftTotals.ofLines (Shifts.linesOf shiftId s) = .ok totals ∧
      (∀ m, (totals.total m).toInt = s.takings shiftId m) ∧
      totals.receiptCount.toInt = (s.receiptsOf shiftId).length := by
  obtain ⟨totals, sums, exact, count⟩ :=
    carried.exact_of_prefix_of_room sound few (List.prefix_refl (Shifts.linesOf shiftId s))
  refine ⟨totals, sums, fun m => ?_, ?_⟩
  · rw [exact, carried.takings_linesOf sound]
  · rw [count, carried.starts_linesOf sound]

end Store.Carried

/-! ## The receipts of a shift -/

/-- The receipts of a shift can be told, in one order or another. -/
theorem Settlement.exists_run_receiptsForShift {acc : Access} {s : Store} {shiftId : String}
    (readable : acc.Readable) (present : Validation.present "shift_id" shiftId = .ok ()) :
    ∃ receipts, (receiptsForShift shiftId).run acc s = (.ok receipts, s) ∧
      receipts.Perm ((s.receiptsOf shiftId).map s.receipt) := by
  simp only [receiptsForShift, Receipts.ofShift, Action.run_bind_eq_ok_iff,
    Till.run_check_eq_ok_iff, Action.run_read_eq_ok_iff]
  refine ⟨_, ⟨(), s, ⟨present, rfl⟩, readable, rfl, rfl⟩, List.Perm.map _ ?_⟩
  exact (List.mergeSort_perm ..).trans (List.mergeSort_perm ..)

/-- The totals of receipts have signs of either kind. -/
theorem Receipt.exists_signedTotals {receipts : List Receipt}
    (totals : ∀ r ∈ receipts, 0 ≤ r.total.toInt) :
    ∃ signed, receipts.mapM (·.signedTotal) = .ok signed ∧
      (signed.map (·.toInt)).sum = (receipts.map fun r => r.total.movement r.isReturn).sum := by
  induction receipts with
  | nil => exact ⟨[], rfl, rfl⟩
  | cons r rest ih =>
    rw [List.forall_mem_cons] at totals
    obtain ⟨w, first, hw⟩ := Money.exists_signed totals.1 r.isReturn
    obtain ⟨signed, others, sum⟩ := ih totals.2
    refine ⟨w :: signed, ?_, ?_⟩
    · rw [List.mapM_cons, others, signedTotal, first]
      rfl
    · rw [List.map_cons, List.sum_cons, List.map_cons, List.sum_cons, sum, hw]

/-! ## Reports -/

/-- A report agrees with the receipts of its shift, in exact integers. -/
structure ZReport.Reconciles (z : ZReport) (s : Store) (shift : Shift) (receipts : List Receipt) :
    Prop where
  cash : z.cashSales.toInt = s.takings shift.id .cash
  mobile : z.mobileSales.toInt = s.takings shift.id .mobile
  credit : z.creditSales.toInt = s.takings shift.id .credit
  total : ∃ signed, receipts.mapM (·.signedTotal) = .ok signed ∧
    z.cashSales.toInt + z.mobileSales.toInt + z.creditSales.toInt = (signed.map (·.toInt)).sum
  count : z.transactionCount.toInt = receipts.length
  expected : z.expected.toInt = shift.openingFloat.toInt + z.cashSales.toInt
  variance : z.variance.toInt = z.actual.toInt - z.expected.toInt

/-- A report that is made from exact totals agrees with the receipts. -/
theorem ZReport.reconciles_ofTotals {s : Store} {shift shift' : Shift} {totals : ShiftTotals}
    {actual : Money} {receipts : List Receipt} (carried : s.Carried) (sound : s.Sound)
    (few : (s.receiptsOf shift.id).length ≤ 90000000) (float : shift.Sound s)
    (same : shift'.openingFloat = shift.openingFloat)
    (told : receipts.Perm ((s.receiptsOf shift.id).map s.receipt))
    (exact : ∀ m, (totals.total m).toInt = TenderLine.takings (Shifts.linesOf shift.id s) m)
    (count : totals.receiptCount.toInt = TenderLine.starts none (Shifts.linesOf shift.id s))
    (counted : 0 ≤ actual.toInt ∧ actual.toInt ≤ Validation.maxAmount.toInt) :
    (ZReport.ofTotals shift' totals actual).Reconciles s shift receipts := by
  have byMethod : ∀ m, (totals.total m).toInt = s.takings shift.id m := fun m =>
    (exact m).trans (carried.takings_linesOf sound shift.id m)
  -- The float and the cash together are a word, and so is what the cash counted is beyond them.
  have within := TenderLine.takings_within (carried.amount_nonneg sound shift.id) .cash
  have volume := carried.volume_linesOf_le_of_few sound few
  have amount : Validation.maxAmount.toInt = 100000000000 := by decide
  have opening := float.float
  have cash := exact .cash
  have expected : (totals.expectedCash shift.openingFloat).toInt =
      shift.openingFloat.toInt + totals.cash.toInt := by
    have clamped := Word.toInt_clamp (shift.openingFloat.toInt + totals.cash.toInt)
    simp only [Int64.toInt_minValue, Int64.toInt_maxValue, ShiftTotals.total] at clamped cash
    rw [ShiftTotals.expectedCash, Word.addClamped, clamped]
    omega
  have variance : (Word.subClamped actual (totals.expectedCash shift.openingFloat)).toInt =
      actual.toInt - (totals.expectedCash shift.openingFloat).toInt := by
    have clamped := Word.toInt_clamp
      (actual.toInt - (totals.expectedCash shift.openingFloat).toInt)
    simp only [Int64.toInt_minValue, Int64.toInt_maxValue, ShiftTotals.total] at clamped cash
    rw [Word.subClamped, clamped]
    omega
  rw [← same] at expected variance
  refine ⟨byMethod .cash, byMethod .mobile, byMethod .credit, ?_, ?_, ?_, variance⟩
  · have totals_nonneg : ∀ r ∈ receipts, 0 ≤ r.total.toInt := by
      intro r hr
      obtain ⟨row, hrow, rfl⟩ := List.mem_map.1 (told.mem_iff.1 hr)
      obtain ⟨p, hp⟩ := carried row (List.mem_of_mem_filter hrow)
      exact hp.total.1
    obtain ⟨signed, all, sum⟩ := Receipt.exists_signedTotals totals_nonneg
    refine ⟨signed, all, ?_⟩
    have together := carried.sum_signed_linesOf sound shift.id
    rw [← TenderLine.sum_takings, ← exact, ← exact, ← exact] at together
    rw [sum, (told.map _).sum_eq, List.map_map]
    exact together
  · rw [told.length_eq, List.length_map, ← carried.starts_linesOf sound]
    exact count
  · rw [← same]
    exact expected

namespace History

/-- In every store the reports of a running shift with no more than ninety million receipts
reconcile, and they agree.  Identities are given out and are never blank.  On the way no
total stops at an end of the range and no sign is lost: the totals of the first lines are
exact, however many they are. -/
theorem reports_reconcile (calls : List Call)
    (named : ∀ call ∈ calls, ¬Text.Blank call.stamp.id) :
    let s := (of calls).store
    ∀ shift ∈ s.shifts, shift.isOpen = true → (s.receiptsOf shift.id).length ≤ 90000000 →
      (∀ lines, lines <+: Shifts.linesOf shift.id s →
        ∃ totals, ShiftTotals.ofLines lines = .ok totals ∧
          ∀ m, (totals.total m).toInt = TenderLine.takings lines m) ∧
      ∀ (acc : Access) (stamp : Stamp) (actual : Money), acc.Writable →
        Validation.amount "closing actual" actual = .ok () →
        ∃ receipts before atEnd s',
          (Settlement.receiptsForShift shift.id).run acc s = (.ok receipts, s) ∧
          (Till.zReport shift.id).run acc s = (.ok before, s) ∧
          (Till.closeShift stamp shift.id actual).run acc s = (.ok atEnd, s') ∧
          before.Reconciles s shift receipts ∧ atEnd.Reconciles s shift receipts ∧
          before.cashSales = atEnd.cashSales ∧ before.mobileSales = atEnd.mobileSales ∧
          before.creditSales = atEnd.creditSales ∧
          before.transactionCount = atEnd.transactionCount ∧
          before.expected = atEnd.expected ∧ atEnd.actual = actual := by
  intro s shift hshift running few
  have sound := History.sound calls
  have carried := History.carried calls
  have shifts := soundShifts calls
  have shift_sound := shifts.each shift hshift
  refine ⟨fun lines part => ?_, fun acc stamp actual writable counted => ?_⟩
  · obtain ⟨totals, sums, exact, -⟩ := carried.exact_of_prefix sound few part
    exact ⟨totals, sums, exact⟩
  · obtain ⟨call, hcall, own⟩ := stamped_of_shift calls shift hshift
    have present : Validation.present "shift_id" shift.id = .ok () :=
      if_neg (own ▸ named call hcall)
    have found := shifts.shift?_of_mem hshift
    obtain ⟨totals, sums, exact, count⟩ := carried.exact_of_prefix sound few List.prefix_rfl
    obtain ⟨receipts, told, perm⟩ :=
      Settlement.exists_run_receiptsForShift (s := s) writable.1 present
    rw [Validation.amount_eq_ok_iff] at counted
    have none_counted : 0 ≤ (shift.closingActual.getD 0).toInt ∧
        (shift.closingActual.getD 0).toInt ≤ Validation.maxAmount.toInt := by
      rw [shift_sound.closingActual_eq_none running]
      decide
    refine ⟨receipts, _, _, _, told,
      Till.run_zReport_eq_ok_iff.2 ⟨writable.1, present, rfl, shift, totals, found, running, sums,
        rfl⟩,
      Till.run_closeShift_eq_ok_iff.2 ⟨writable, present, counted.1, counted.2, shift, totals,
        found, running, sums, rfl, rfl⟩, ?_, ?_, rfl, rfl, rfl, rfl, rfl, rfl⟩
    · exact ZReport.reconciles_ofTotals carried sound few shift_sound rfl perm exact count
        none_counted
    · exact ZReport.reconciles_ofTotals carried sound few shift_sound rfl perm exact count counted

/-- A shift with four receipts, one of them a return and one split, has taken five hundred in
cash beyond its float. -/
theorem reports_reconcile_of_day :
    let s := (of Day.shift).store
    let shift : Shift := ⟨"s1", "amina", Day.moment, 500, none, none, none⟩
    (∀ call ∈ Day.shift, ¬Text.Blank call.stamp.id) ∧ shift ∈ s.shifts ∧
      (s.receiptsOf shift.id).length = 4 ∧
      [.cash, .mobile, .credit].map (s.takings shift.id) = [500, 200, 300] ∧
      ∃ receipts before atEnd s',
        (Settlement.receiptsForShift shift.id).run {} s = (.ok receipts, s) ∧
        (Till.zReport shift.id).run {} s = (.ok before, s) ∧
        (Till.closeShift (Day.ask "close" .debtors).stamp shift.id 990).run {} s =
          (.ok atEnd, s') ∧
        before.Reconciles s shift receipts ∧ atEnd.Reconciles s shift receipts := by
  have taken : [.cash, .mobile, .credit].map ((of Day.shift).store.takings "s1") =
      [500, 200, 300] := by
    decide_cbv
  intro s shift
  have named : ∀ call ∈ Day.shift, ¬Text.Blank call.stamp.id := by decide +kernel
  have there : shift ∈ s.shifts := by decide +kernel
  have four : (s.receiptsOf shift.id).length = 4 := by decide +kernel
  have few : (s.receiptsOf shift.id).length ≤ 90000000 := by
    rw [four]
    decide
  obtain ⟨receipts, before, atEnd, s', told, reported, closed, first, last, -⟩ :=
    (reports_reconcile Day.shift named shift there rfl few).2 {}
      (Day.ask "close" .debtors).stamp 990 (by decide) (by decide)
  exact ⟨named, there, four, taken, receipts, before, atEnd, s', told, reported, closed, first,
    last⟩

end History

end Tillbook
