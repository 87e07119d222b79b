import Tillbook.Proofs.StoredReceipts
import Tillbook.Proofs.TenderLines

/-!
# The end of a payment

A payment that waits for the gateway comes to its end by one call.  That call changes one
receipt, and of this the status and the confirmation code alone.  Whatever the gateway says
later and however often, the receipt stays as it is.

## Main definitions

* `Settlement.Ended` — one payment has come to its end, and nothing else has changed.
* `History.StatusMoves` — a call gives a receipt another status.

## Main statements

* `Settlement.exists_run_settle_iff` — which payments come to an end.
* `Settlement.ended_of_run` — what changes with that.
* `History.mem_of_ended` — an end is for ever.
* `History.payments_end_once` — the payments of every run.
-/

namespace Tillbook

variable {acc : Access} {s s' : Store} {checkoutId : String} {status : PaymentStatus}
  {reference : Option String} {r : Receipt}

namespace Store

/-- Of the receipts before and after the one of a name none has the name. -/
theorem SoundReceipts.ne_of_split (hs : s.SoundReceipts) {before after : List ReceiptRow}
    {row : ReceiptRow} (split : s.receipts = before ++ row :: after)
    (named : row.checkoutId = some checkoutId) :
    ∀ other ∈ before ++ after, other.checkoutId ≠ some checkoutId := by
  intro other hother own
  have unique := hs.checkouts
  have parts : (before ++ row :: after).filterMap (·.checkoutId) =
      before.filterMap (·.checkoutId) ++ checkoutId :: after.filterMap (·.checkoutId) := by
    simp [named]
  rw [split, parts, List.nodup_middle, List.nodup_cons, ← List.filterMap_append] at unique
  exact unique.1 (List.mem_filterMap.2 ⟨other, hother, own⟩)

/-- The end of a payment changes the row of its receipt and no other. -/
theorem SoundReceipts.map_settled (hs : s.SoundReceipts) {before after : List ReceiptRow}
    {row : ReceiptRow} (split : s.receipts = before ++ row :: after)
    (named : row.checkoutId = some checkoutId) (pending : row.status = .pending) :
    s.receipts.map (·.settled checkoutId status reference) =
      before ++ row.ended status reference :: after := by
  have others := hs.ne_of_split split named
  have kept {rows : List ReceiptRow} (part : ∀ other ∈ rows, other ∈ before ++ after) :
      rows.map (·.settled checkoutId status reference) = rows :=
    (List.map_congr_left fun other hother =>
      ReceiptRow.settled_of_ne (others other (part other hother))).trans (List.map_id rows)
  have awaits : row.awaits checkoutId = true := by simp [ReceiptRow.awaits, named, pending]
  rw [split, List.map_append, List.map_cons, ReceiptRow.settled_of_awaits awaits,
    kept fun _ => List.mem_append_left _, kept fun _ => List.mem_append_right _]

end Store

namespace Till

variable {shiftId : String} {z : ZReport}

/-- A report depends on the shift and its lines alone. -/
theorem zReport_congr (shift : s'.shift? shiftId = s.shift? shiftId)
    (lines : Shifts.linesOf shiftId s' = Shifts.linesOf shiftId s) :
    ((zReport shiftId).run acc s').1 = .ok z ↔ ((zReport shiftId).run acc s).1 = .ok z := by
  simp only [Action.fst_eq_ok_iff, run_zReport_eq_ok_iff, shift, lines]
  constructor
  · rintro ⟨_, readable, present, -, told⟩
    exact ⟨s, readable, present, rfl, told⟩
  · rintro ⟨_, readable, present, -, told⟩
    exact ⟨s', readable, present, rfl, told⟩

/-- So does the report at its end. -/
theorem closeShift_congr {stamp : Stamp} {actual : Money}
    (shift : s'.shift? shiftId = s.shift? shiftId)
    (lines : Shifts.linesOf shiftId s' = Shifts.linesOf shiftId s) :
    ((closeShift stamp shiftId actual).run acc s').1 = .ok z ↔
      ((closeShift stamp shiftId actual).run acc s).1 = .ok z := by
  simp only [Action.fst_eq_ok_iff, run_closeShift_eq_ok_iff, shift, lines]
  constructor
  · rintro ⟨_, writable, present, nonnegative, most, ended, totals, found, running, sums, told, -⟩
    exact ⟨_, writable, present, nonnegative, most, ended, totals, found, running, sums, told, rfl⟩
  · rintro ⟨_, writable, present, nonnegative, most, ended, totals, found, running, sums, told, -⟩
    exact ⟨_, writable, present, nonnegative, most, ended, totals, found, running, sums, told, rfl⟩

end Till

/-! ## One call -/

namespace Settlement

/-- The payment of one receipt has come to its end, and nothing else has changed.  The receipt
that is told is the one that is stored, and every report of a shift is what it was. -/
structure Ended (checkoutId : String) (status : PaymentStatus) (reference : Option String)
    (s : Store) (r : Receipt) (s' : Store) : Prop where
  moved : ∃ before row after, s.receipts = before ++ row :: after ∧
    row.checkoutId = some checkoutId ∧ row.status = .pending ∧
    s' = { s with receipts := before ++
      { row with status := status, reference := reference.or row.reference } :: after } ∧
    r = { s.receipt row with status := status, reference := reference.or row.reference }
  told : ∀ acc : Access, acc.Readable →
    (Receipts.find r.id).run acc s' = (.ok (some r), s') ∧
      (Receipts.findByCheckout checkoutId).run acc s' = (.ok (some r), s')
  reported : ∀ (acc : Access) shiftId z,
    ((Till.zReport shiftId).run acc s').1 = .ok z ↔ ((Till.zReport shiftId).run acc s).1 = .ok z
  closed : ∀ (acc : Access) stamp shiftId actual z,
    ((Till.closeShift stamp shiftId actual).run acc s').1 = .ok z ↔
      ((Till.closeShift stamp shiftId actual).run acc s).1 = .ok z

/-- A payment comes to an end if it waits for one. -/
theorem exists_run_settle_iff (writable : acc.Writable) :
    (∃ r, ((settle checkoutId status reference).run acc s).1 = .ok r) ↔
      ¬Text.Blank checkoutId ∧ (status = .completed ∨ status = .failed) ∧
        ∃ row ∈ s.receipts, row.checkoutId = some checkoutId ∧ row.status = .pending := by
  have ends : status ≠ .pending ↔ status = .completed ∨ status = .failed := by
    cases status <;> simp
  have waiting : s.receipts.any (·.awaits checkoutId) = true ↔
      ∃ row ∈ s.receipts, row.checkoutId = some checkoutId ∧ row.status = .pending := by
    simp [ReceiptRow.awaits]
  simp only [Action.fst_eq_ok_iff, run_settle_eq_ok_iff, Validation.present_eq_ok_iff, ends,
    waiting]
  constructor
  · rintro ⟨_, _, -, named, ended, there, -⟩
    exact ⟨named, ended, there⟩
  · rintro ⟨named, ended, row, hrow, own, pending⟩
    have hit : ((s.receipts.map (·.settled checkoutId status reference)).find?
        (·.checkoutId == some checkoutId)).isSome :=
      List.find?_isSome.2 ⟨_, List.mem_map_of_mem hrow, by simpa using own⟩
    obtain ⟨found, hfound⟩ := Option.isSome_iff_exists.1 hit
    exact ⟨_, _, writable, named, ended, ⟨row, hrow, own, pending⟩, rfl,
      congrArg (Option.map _) hfound⟩

/-- What changes with the end of a payment. -/
theorem ended_of_run (sound : s.Sound) (receipts : s.SoundReceipts)
    (h : (settle checkoutId status reference).run acc s = (.ok r, s')) :
    Ended checkoutId status reference s r s' := by
  obtain ⟨writable, present, ends, waiting, left, told⟩ := run_settle_eq_ok_iff.1 h
  have lines (shiftId : String) : Shifts.linesOf shiftId s' = Shifts.linesOf shiftId s := by
    rw [left, Shifts.linesOf_settled]
  obtain ⟨row, hrow, awaits⟩ := List.any_eq_true.1 waiting
  simp only [ReceiptRow.awaits, Bool.and_eq_true, beq_iff_eq] at awaits
  obtain ⟨named, pending⟩ := awaits
  obtain ⟨before, after, split⟩ := List.append_of_mem hrow
  have others := receipts.ne_of_split split named
  rw [receipts.map_settled split named pending] at left
  have found : s'.receipts.find? (·.checkoutId == some checkoutId) =
      some (row.ended status reference) := by
    have none_before : before.find? (·.checkoutId == some checkoutId) = none := by
      rw [List.find?_eq_none]
      intro other hother
      simpa using others other (List.mem_append_left _ hother)
    rw [left, List.find?_append, none_before, Option.none_or]
    exact List.find?_cons_of_pos (beq_iff_eq.2 named)
  have told_row : s'.receipt (row.ended status reference) = r := by
    rw [found] at told
    exact Option.some.inj told
  have unique : (s'.receipts.map (·.id)).Nodup := by
    have ids : s'.receipts.map (·.id) = s.receipts.map (·.id) := by
      rw [left, split, List.map_append, List.map_append]
      rfl
    exact ids ▸ sound.receipts
  refine ⟨⟨before, row, after, split, named, pending, left, ?_⟩, fun acc readable => ⟨?_, ?_⟩,
    fun acc shiftId z => ?_, fun acc stamp shiftId actual z => ?_⟩
  · rw [← told_row, left]
    rfl
  · have there : row.ended status reference ∈ s'.receipts := by
      rw [left]
      exact List.mem_append_right _ List.mem_cons_self
    have byId := Table.find?_of_mem (fun row : ReceiptRow => row.id) unique there
    rw [← told_row]
    exact Action.run_read_eq_ok_iff.2
      ⟨readable, congrArg (fun found => Except.ok (Option.map s'.receipt found)) byId, rfl⟩
  · exact Action.run_read_eq_ok_iff.2 ⟨readable, congrArg Except.ok told, rfl⟩
  · exact Till.zReport_congr (by rw [left]; rfl) (lines shiftId)
  · exact Till.closeShift_congr (by rw [left]; rfl) (lines shiftId)

end Settlement

/-- The answer to the call tells the receipt. -/
theorem Call.run_settle_eq_ok_iff {call : Call} {reply : Reply}
    (op : call.operation = .settle checkoutId status reference) :
    call.run s = (.ok reply, s') ↔ ∃ r, reply = .receipt (some r) ∧
      (Settlement.settle checkoutId status reference).run call.access s = (.ok r, s') :=
  run_eq_ok_iff_of_action (by rw [op]; rfl)

/-! ## All calls -/

namespace History

/-- A receipt that every call leaves as it is stays there. -/
theorem mem_of_fixed {calls : List Call} {row : ReceiptRow}
    (hrow : row ∈ (of calls).store.receipts)
    (fixed : ∀ (call : Call) more, row ∈ (of (calls ++ more)).store.receipts →
      row.after ⟨call, (call.run (of (calls ++ more)).store).1⟩ = row) (more : List Call) :
    row ∈ (of (calls ++ more)).store.receipts := by
  induction more using List.reverseRecOn with
  | nil => simpa using hrow
  | append_singleton more call ih =>
    have effect := call.effect (of (calls ++ more)).store
    rw [← List.append_assoc, of_append_singleton, add, effect.receipts_eq (soundReceipts _)]
    exact List.mem_append_left _ (List.mem_map.2 ⟨row, ih, fixed call more ih⟩)

/-- An end is for ever. -/
theorem mem_of_ended {calls : List Call} {row : ReceiptRow}
    (hrow : row ∈ (of calls).store.receipts) (ended : row.status ≠ .pending) (more : List Call) :
    row ∈ (of (calls ++ more)).store.receipts := by
  refine mem_of_fixed hrow (fun call more there => ?_) more
  exact (call.effect (of (calls ++ more)).store).after_of_ended (soundReceipts _) there ended

/-- A call gives a receipt another status. -/
def StatusMoves (before : List Call) (call : Call) (id : String) : Prop :=
  ∃ row ∈ (of before).store.receipts, ∃ row' ∈ (of (before ++ [call])).store.receipts,
    row.id = id ∧ row'.id = id ∧ row'.status ≠ row.status

theorem eq_of_id {calls : List Call} {row row' : ReceiptRow}
    (hrow : row ∈ (of calls).store.receipts) (hrow' : row' ∈ (of calls).store.receipts)
    (same : row.id = row'.id) : row = row' :=
  List.inj_on_of_nodup_map (sound calls).receipts hrow hrow' same

/-- Another status is an end. -/
theorem StatusMoves.ended {before : List Call} {call : Call} {id : String}
    (h : StatusMoves before call id) :
    ∃ row ∈ (of (before ++ [call])).store.receipts, row.id = id ∧ row.status ≠ .pending := by
  obtain ⟨row, hrow, row', hrow', own, own', other⟩ := h
  have receipts := soundReceipts before
  have effect := call.effect (of before).store
  have there : row.after ⟨call, (call.run (of before).store).1⟩ ∈
      (of (before ++ [call])).store.receipts := by
    rw [of_append_singleton, add, effect.receipts_eq receipts]
    exact List.mem_append_left _ (List.mem_map_of_mem hrow)
  obtain rfl := eq_of_id hrow' there (own'.trans (own.symm.trans row.id_after.symm))
  refine ⟨_, hrow', own', ?_⟩
  cases settled : Entry.settlement? ⟨call, (call.run (of before).store).1⟩ row.checkoutId with
  | none => exact absurd (by rw [ReceiptRow.after_of_none settled]) other
  | some settlement =>
    rw [ReceiptRow.after_of_some settled]
    exact (effect.pending_of_settlement? receipts hrow settled).2

/-- After a call that gives a receipt another status none does so again. -/
theorem StatusMoves.not_again {before before' : List Call} {call call' : Call} {id : String}
    (h : StatusMoves before call id) (later : before ++ [call] <+: before') :
    ¬StatusMoves before' call' id := by
  rintro ⟨row, hrow, row', hrow', own, own', other⟩
  obtain ⟨more, rfl⟩ := later
  obtain ⟨last, hlast, same, ended⟩ := h.ended
  have now := mem_of_ended hlast ended more
  have next := mem_of_ended hlast ended (more ++ [call'])
  rw [← List.append_assoc] at next
  rw [eq_of_id hrow now (own.trans same.symm), eq_of_id hrow' next (own'.trans same.symm)] at other
  exact other rfl

/-- A call about a payment succeeds if it names an end and some receipt waits for one under
the name.  It then changes that receipt alone.  A receipt whose payment has come to an end
stays as it is, whatever calls follow, so that its status moves once at most. -/
theorem payments_end_once (calls : List Call) :
    let s := (of calls).store
    (∀ (call : Call) checkoutId status reference,
      call.operation = .settle checkoutId status reference → call.access.Writable →
      ((∃ reply, (call.run s).1 = .ok reply) ↔
        ¬Text.Blank checkoutId ∧ (status = .completed ∨ status = .failed) ∧
          ∃ row ∈ s.receipts, row.checkoutId = some checkoutId ∧ row.status = .pending) ∧
      ∀ reply, (call.run s).1 = .ok reply → ∃ r, reply = .receipt (some r) ∧
        Settlement.Ended checkoutId status reference s r (call.run s).2) ∧
    (∀ row ∈ s.receipts, row.status ≠ .pending → ∀ more : List Call,
      (of (calls ++ more)).store.receipts.filter (·.id == row.id) = [row]) ∧
    ∀ id before call before' call', before ++ [call] <+: calls → before' ++ [call'] <+: calls →
      StatusMoves before call id → StatusMoves before' call' id → before = before' := by
  intro s
  refine ⟨fun call checkoutId status reference op writable => ⟨?_, fun reply done => ?_⟩,
    fun row hrow ended more => ?_, fun id before call before' call' part part' moves moves' => ?_⟩
  · refine Iff.trans ?_ (@Settlement.exists_run_settle_iff _ _ _ _ reference writable)
    constructor
    · rintro ⟨_, done⟩
      obtain ⟨r, -, run⟩ := (Call.run_settle_eq_ok_iff op).1 (Prod.ext done rfl)
      exact ⟨r, congrArg Prod.fst run⟩
    · rintro ⟨r, done⟩
      exact ⟨_, congrArg Prod.fst
        ((Call.run_settle_eq_ok_iff op).2 ⟨r, rfl, Prod.ext done rfl⟩)⟩
  · obtain ⟨r, told, run⟩ := (Call.run_settle_eq_ok_iff op).1 (Prod.ext done rfl)
    exact ⟨r, told, Settlement.ended_of_run (sound calls) (soundReceipts calls) run⟩
  · exact Table.filter_of_mem (fun row : ReceiptRow => row.id) (sound (calls ++ more)).receipts
      (mem_of_ended hrow ended more)
  · have whole : before <+: calls := (List.prefix_append before [call]).trans part
    have whole' : before' <+: calls := (List.prefix_append before' [call']).trans part'
    rcases Nat.lt_trichotomy before.length before'.length with earlier | same | later
    · have first := List.prefix_of_prefix_length_le part whole' (by simp; omega)
      exact absurd moves' (moves.not_again first)
    · exact (List.prefix_of_prefix_length_le whole whole' same.le).eq_of_length same
    · have first := List.prefix_of_prefix_length_le part' whole (by simp; omega)
      exact absurd moves (moves'.not_again first)

/-- The gateway confirms a payment and then takes that back in vain. -/
theorem payments_end_once_of_confirmed :
    let sale := Day.ask "r1" (.commit
      { Day.purchase (.mobile (some "MPESA")) 2 400 with checkoutId := some "ws-1" })
    let confirm := Day.ask "ok" (.settle "ws-1" .completed (some "QX71"))
    let deny := Day.ask "no" (.settle "ws-1" .failed none)
    let calls := Day.opening ++ [sale]
    let row : ReceiptRow :=
      ⟨⟨"r1", "POS-01-00001", Day.moment, none, "amina", some "otieno", 400, .completed,
        some "QX71", some "ws-1", false, "POS-01"⟩, .mobile, some "MPESA"⟩
    (∃ r, (confirm.run (of calls).store).1 = .ok (.receipt (some r)) ∧
      Settlement.Ended "ws-1" .completed (some "QX71") (of calls).store r
        (confirm.run (of calls).store).2) ∧
    (of (calls ++ [confirm] ++ [deny])).store.receipts.filter (·.id == "r1") = [row] ∧
    StatusMoves calls confirm "r1" ∧ ¬StatusMoves (calls ++ [confirm]) deny "r1" := by
  intro sale confirm deny calls row
  have waits : ∃ row ∈ (of calls).store.receipts,
      row.checkoutId = some "ws-1" ∧ row.status = .pending := by
    decide +kernel
  obtain ⟨succeeds, changes⟩ :=
    (payments_end_once calls).1 confirm "ws-1" .completed (some "QX71") rfl (by decide)
  obtain ⟨reply, done⟩ := succeeds.2 ⟨by decide, .inl rfl, waits⟩
  obtain ⟨r, rfl, ended⟩ := changes reply done
  have there : row ∈ (of (calls ++ [confirm])).store.receipts := by decide +kernel
  have moves : StatusMoves calls confirm "r1" := by
    obtain ⟨old, hold, -, pending⟩ := waits
    refine ⟨old, hold, row, there, ?_, rfl, by rw [pending]; decide⟩
    have only : ∀ other ∈ (of calls).store.receipts, other.id = "r1" := by decide +kernel
    exact only old hold
  refine ⟨⟨r, done, ended⟩,
    (payments_end_once (calls ++ [confirm])).2.1 row there (by decide) [deny], moves,
    fun again => ?_⟩
  have once := (payments_end_once (calls ++ [confirm] ++ [deny])).2.2 "r1" calls confirm
    (calls ++ [confirm]) deny (List.prefix_append _ _) List.prefix_rfl moves again
  exact absurd (congrArg List.length once) (by simp)

end History

end Tillbook
