import Tillbook.Proofs.PaymentEnds

/-!
# Payments that wait

A payment waits for the gateway under a name, and no other payment has this name.  If it is not
blank, one call brings the payment to its end, whatever has happened before.  Only this call
looks at the name, though, and the commit does not: a payment is also taken under a blank name,
and then it waits for ever.

## Main definitions

* `Store.Awaited` — every payment that waits has a name.

## Main statements

* `Effect.keeps_awaited` — no call takes the name away.
* `Settlement.run_settle_of_pending` — a payment under a name that is not blank comes to its end.
* `ReceiptRow.after_of_blank` — one under a blank name stays as it is.
* `History.pending_settles_unless_blank` — the payments of every run that wait.
-/

namespace Tillbook

/-- Every payment that waits has a name at the gateway. -/
def Store.Awaited (s : Store) : Prop :=
  ∀ row ∈ s.receipts, row.status = .pending → row.checkoutId.isSome

/-- A payment waits only if the request has a name for it. -/
theorem CommitRequest.isSome_of_pending {request : CommitRequest}
    (h : request.initialStatus = .pending) : request.checkoutId.isSome := by
  unfold initialStatus at h
  split at h
  · next named => exact named
  · nomatch h

variable {acc : Access} {s s' : Store} {checkoutId : String} {status : PaymentStatus}
  {reference : Option String} {row : ReceiptRow}

/-- No call takes the name of a payment that waits away. -/
theorem Effect.keeps_awaited {call : Call} {answer : Except LedgerError Reply}
    (h : Effect call s answer s') (receipts : s.SoundReceipts) (hs : s.Awaited) : s'.Awaited := by
  intro row hrow pending
  rw [h.receipts_eq receipts] at hrow
  rcases List.mem_append.1 hrow with before | made
  · obtain ⟨old, hold, rfl⟩ := List.mem_map.1 before
    cases settled : Entry.settlement? ⟨call, answer⟩ old.checkoutId with
    | none =>
      rw [ReceiptRow.after_of_none settled] at pending ⊢
      exact hs old hold pending
    | some settlement =>
      rw [ReceiptRow.after_of_some settled] at pending
      exact absurd pending (h.pending_of_settlement? receipts hold settled).2
  · obtain ⟨c, hc, rfl⟩ := List.mem_map.1 made
    obtain ⟨request, -, booked⟩ := h.booked_of_committed? (Option.mem_toList.1 hc)
    obtain ⟨n, -, receipt⟩ := booked.number
    rw [receipt] at pending ⊢
    exact CommitRequest.isSome_of_pending pending

theorem History.awaited (calls : List Call) : (of calls).store.Awaited := by
  induction calls using List.reverseRecOn with
  | nil => exact List.forall_mem_nil _
  | append_singleton calls call ih =>
    rw [of_append_singleton]
    exact (call.effect (of calls).store).keeps_awaited (soundReceipts calls) ih

namespace Settlement

/-- A payment that waits under a name that is not blank comes to the end that the call names. -/
theorem run_settle_of_pending (sound : s.Sound) (receipts : s.SoundReceipts)
    (hrow : row ∈ s.receipts) (own : row.checkoutId = some checkoutId)
    (pending : row.status = .pending) (named : ¬Text.Blank checkoutId)
    (ends : status = .completed ∨ status = .failed) (reference : Option String)
    (writable : acc.Writable) :
    ∃ s', (settle checkoutId status reference).run acc s =
        (.ok ((s.receipt row).ended status reference), s') ∧
      Ended checkoutId status reference s ((s.receipt row).ended status reference) s' := by
  obtain ⟨r, done⟩ := (@exists_run_settle_iff _ _ _ _ reference writable).2
    ⟨named, ends, row, hrow, own, pending⟩
  have ended := ended_of_run sound receipts (Prod.ext done rfl)
  obtain ⟨before, row', after, split, own', -, -, told⟩ := ended.moved
  have hrow' : row' ∈ s.receipts := by
    rw [split]
    exact List.mem_append_right _ List.mem_cons_self
  obtain rfl := receipts.eq_of_checkoutId hrow' hrow own' own
  have same : r = (s.receipt row').ended status reference := told
  exact ⟨_, Prod.ext (same ▸ done) rfl, same ▸ ended⟩

/-- No payment under a blank name comes to an end. -/
theorem not_blank_of_run {r : Receipt}
    (h : (settle checkoutId status reference).run acc s = (.ok r, s')) :
    ¬Text.Blank checkoutId :=
  ((exists_run_settle_iff (run_settle_eq_ok_iff.1 h).1).1 ⟨r, congrArg Prod.fst h⟩).1

end Settlement

/-- A call about a payment under a blank name fails. -/
theorem Call.run_settle_of_blank {call : Call}
    (op : call.operation = .settle checkoutId status reference) (blank : Text.Blank checkoutId) :
    ∃ err, (call.run s).1 = .error err := by
  cases done : (call.run s).1 with
  | error err => exact ⟨err, rfl⟩
  | ok reply =>
    obtain ⟨r, -, run⟩ := (run_settle_eq_ok_iff op).1 (Prod.ext done rfl)
    exact absurd blank (Settlement.not_blank_of_run run)

/-- No call changes a receipt whose payment has a blank name. -/
theorem ReceiptRow.after_of_blank {call : Call} (own : row.checkoutId = some checkoutId)
    (blank : Text.Blank checkoutId) : row.after ⟨call, (call.run s).1⟩ = row := by
  apply after_of_none
  unfold Entry.settlement?
  split
  · next id status reference reply op done =>
    rw [own, if_neg]
    rintro ⟨⟩
    obtain ⟨err, failed⟩ := Call.run_settle_of_blank (s := s) op blank
    nomatch done.symm.trans failed
  · rfl

namespace History

/-- A payment that waits does so under a name.  If the name is not blank, a call that gives it
and an end brings this payment to that end.  If the name is blank, every such call fails at any
time, and the payment waits for ever. -/
theorem pending_settles_unless_blank (calls : List Call) (row : ReceiptRow)
    (hrow : row ∈ (of calls).store.receipts) (pending : row.status = .pending) :
    let s := (of calls).store
    ∃ checkoutId, row.checkoutId = some checkoutId ∧
      (¬Text.Blank checkoutId → ∀ (call : Call) status reference,
        call.operation = .settle checkoutId status reference → call.access.Writable →
        status = .completed ∨ status = .failed →
        (call.run s).1 = .ok (.receipt (some ((s.receipt row).ended status reference))) ∧
          Settlement.Ended checkoutId status reference s ((s.receipt row).ended status reference)
            (call.run s).2) ∧
      (Text.Blank checkoutId → ∀ more : List Call,
        row ∈ (of (calls ++ more)).store.receipts ∧ ∀ (call : Call) status reference,
          call.operation = .settle checkoutId status reference →
          ∃ err, (call.run (of (calls ++ more)).store).1 = .error err) := by
  intro s
  obtain ⟨checkoutId, own⟩ := Option.isSome_iff_exists.1 (awaited calls row hrow pending)
  refine ⟨checkoutId, own, fun named call status reference op writable ends => ?_,
    fun blank more => ⟨?_, fun call status reference op => Call.run_settle_of_blank op blank⟩⟩
  · obtain ⟨s', run, ended⟩ := Settlement.run_settle_of_pending (sound calls)
      (soundReceipts calls) hrow own pending named ends reference writable
    have answered := (Call.run_settle_eq_ok_iff op).2 ⟨_, rfl, run⟩
    rw [answered]
    exact ⟨rfl, ended⟩
  · exact mem_of_fixed hrow (fun call more there => ReceiptRow.after_of_blank own blank) more

/-- The gateway confirms the payment that waits. -/
theorem pending_settles_unless_blank_of_confirmed :
    let sale := Day.ask "r1" (.commit
      { Day.purchase (.mobile (some "MPESA")) 2 400 with checkoutId := some "ws-1" })
    let confirm := Day.ask "ok" (.settle "ws-1" .completed (some "QX71"))
    let s := (of (Day.opening ++ [sale])).store
    let row : ReceiptRow :=
      ⟨⟨"r1", "POS-01-00001", Day.moment, none, "amina", some "otieno", 400, .pending,
        none, some "ws-1", false, "POS-01"⟩, .mobile, some "MPESA"⟩
    row ∈ s.receipts ∧ row.status = .pending ∧
      (confirm.run s).1 =
        .ok (.receipt (some ((s.receipt row).ended .completed (some "QX71")))) := by
  intro sale confirm s row
  have there : row ∈ s.receipts := by decide +kernel
  obtain ⟨_, ⟨⟩, settles, -⟩ := pending_settles_unless_blank (Day.opening ++ [sale]) row there rfl
  exact ⟨there, rfl, (settles (by decide) confirm _ _ rfl (by decide) (.inl rfl)).1⟩

/-- The name of a payment is a blank.  The commit takes it, and the payment waits under it, but
the gateway cannot confirm it. -/
theorem pending_under_blank_name :
    let sale := Day.ask "r1" (.commit
      { Day.purchase (.mobile (some "MPESA")) 2 400 with checkoutId := some " " })
    let confirm := Day.ask "ok" (.settle " " .completed (some "QX71"))
    let s := (of (Day.opening ++ [sale])).store
    let row : ReceiptRow :=
      ⟨⟨"r1", "POS-01-00001", Day.moment, none, "amina", some "otieno", 400, .pending,
        none, some " ", false, "POS-01"⟩, .mobile, some "MPESA"⟩
    s.receipts = [row] ∧ confirm.access.Writable ∧
      (confirm.run s).1 = .error (.refused (.invalid (.required "checkout_request_id"))) ∧
      (confirm.run s).2.receipts = [row] := by
  decide +kernel

end History

end Tillbook
