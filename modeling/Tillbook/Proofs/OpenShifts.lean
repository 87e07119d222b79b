import Tillbook.Proofs.Shifts
import Tillbook.Proofs.Takings

/-!
# Running shifts

A member of staff has one running shift at most.  To open a shift while one runs tells that
one and changes nothing; it goes on to be told until it is closed.  To close a shift succeeds
just if it runs, and the failure says whether it was closed before or never there.

## Main definitions

* `Store.running`, `Store.OneRunning` — the running shifts, of which nobody has two.
* `Till.closeFault?` — why a shift cannot be closed, if it cannot.
* `Store.Storable` — there are no more receipts than a word counts.

## Main statements

* `Effect.keeps_oneRunning` — no call begins a second shift.
* `Till.answers_closeShift` — a shift that cannot be closed says why.
* `History.running_iff` — a shift runs until it is closed.
* `History.shifts_open_once` — the shifts of every run.
-/

namespace Tillbook

variable {acc : Access} {s s' : Store} {staffId shiftId : String} {shift : Shift}

/-! ## One running shift -/

namespace Store

/-- The shifts that run. -/
def running (s : Store) : List Shift := s.shifts.filter (·.isOpen)

/-- Nobody has two running shifts. -/
def OneRunning (s : Store) : Prop := (s.running.map (·.staffId)).Nodup

theorem mem_running_iff : shift ∈ s.running ↔ shift ∈ s.shifts ∧ shift.isOpen = true :=
  List.mem_filter

/-- The running shift of a member of staff is looked up among those that run. -/
theorem openShift?_eq : s.openShift? staffId = s.running.find? (·.staffId == staffId) := by
  rw [running, List.find?_filter, openShift?]
  congr 1
  funext shift
  by_cases own : shift.staffId = staffId <;> simp [own]

theorem openShift?_eq_none_iff :
    s.openShift? staffId = none ↔ staffId ∉ s.running.map (·.staffId) := by
  rw [openShift?_eq]
  exact Table.find?_eq_none_iff

/-- A running shift is the one that is found. -/
theorem OneRunning.openShift?_eq_some_iff (one : s.OneRunning) :
    s.openShift? staffId = some shift ↔ shift ∈ s.running ∧ shift.staffId = staffId := by
  rw [openShift?_eq]
  exact Table.find?_eq_some_iff (fun shift : Shift => shift.staffId) one

end Store

/-- A shift that is closed is not among those that run. -/
theorem Shifts.running_change_ended (now : Timestamp) (actual expected : Money) :
    (Shifts.change shiftId (·.ended now actual expected) s).running =
      s.running.filter (·.id != shiftId) := by
  rw [Store.running, Shifts.change, Store.running, List.filter_filter, List.filter_map]
  have others : (fun shift : Shift => shift.isOpen) ∘ (fun shift : Shift =>
      if shift.id == shiftId then shift.ended now actual expected else shift) =
        fun shift => shift.id != shiftId && shift.isOpen := by
    funext shift
    by_cases own : shift.id = shiftId <;> simp [own, Shift.ended, Shift.isOpen]
  rw [others]
  refine (List.map_congr_left fun shift hshift => ?_).trans (List.map_id _)
  have kept := (List.mem_filter.1 hshift).2
  simp only [Bool.and_eq_true, bne_iff_ne] at kept
  simp [kept.1]

namespace Effect

variable {call : Call} {answer : Except LedgerError Reply}

/-- No call begins a second shift. -/
theorem keeps_oneRunning (h : Effect call s answer s') (one : s.OneRunning) : s'.OneRunning := by
  cases h.on_shifts with
  | kept unclosed shifts => rwa [Store.OneRunning, Store.running, shifts]
  | begun unclosed free new begun float shifts =>
    rw [Store.OneRunning, Store.running, shifts, List.filter_append]
    subst begun
    exact Table.nodup_append_singleton.2 ⟨one, Store.openShift?_eq_none_iff.1 free⟩
  | ended closed found running sums left =>
    rw [Store.OneRunning, left, Shifts.running_change_ended]
    exact one.sublist (List.filter_sublist.map _)

/-- A shift runs on unless the call closes it. -/
theorem mem_running (h : Effect call s answer s') (runs : shift ∈ s.running)
    (kept : Entry.closed? ⟨call, answer⟩ ≠ some shift.id) : shift ∈ s'.running := by
  cases h.on_shifts with
  | kept unclosed shifts => rwa [Store.running, shifts]
  | begun unclosed free new begun float shifts =>
    rw [Store.running, shifts, List.filter_append]
    exact List.mem_append_left _ runs
  | ended closed found running sums left =>
    rw [left, Shifts.running_change_ended, List.mem_filter, bne_iff_ne]
    exact ⟨runs, fun own => kept (own ▸ closed)⟩

/-- A shift that a call closes is closed after it. -/
theorem shift?_of_closed? (h : Effect call s answer s')
    (closed : Entry.closed? ⟨call, answer⟩ = some shiftId) :
    ∃ ended, s'.shift? shiftId = some ended ∧ ended.isOpen = false := by
  cases h.on_shifts with
  | kept unclosed | begun unclosed => nomatch unclosed.symm.trans closed
  | ended closed' found running sums left =>
    obtain rfl := Option.some.inj (closed'.symm.trans closed)
    rw [left, Shifts.shift?_change, found]
    · exact ⟨_, by rw [Option.map_some, if_pos (beq_iff_eq.2 (Store.id_of_shift? found))], rfl⟩
    · intro shift
      rfl

end Effect

namespace History

theorem oneRunning (calls : List Call) : (of calls).store.OneRunning := by
  apply induction (P := fun h => h.store.OneRunning)
  · exact List.nodup_nil
  · exact fun h call answer s' one effect => effect.keeps_oneRunning one

/-- Members of staff have the identities that the calls were given. -/
theorem stamped_of_staff (calls : List Call) :
    ∀ id ∈ (of calls).store.staff.map (·.id), ∃ call ∈ calls, call.stamp.id = id := by
  induction calls using List.reverseRecOn with
  | nil => exact List.forall_mem_nil _
  | append_singleton calls call ih =>
    obtain ⟨engaged, ids, own⟩ := (call.effect (of calls).store).ids_of_staff
    intro id hid
    rw [of_append_singleton, add, ids] at hid
    rcases List.mem_append.1 hid with before | last
    · obtain ⟨other, hother, stamped⟩ := ih id before
      exact ⟨other, List.mem_append_left _ hother, stamped⟩
    · exact ⟨call, by simp, (own id last).symm⟩

/-- A closed shift does not run. -/
theorem notMem_running {calls : List Call} {ended : Shift}
    (found : (of calls).store.shift? shift.id = some ended) (closed : ended.isOpen = false) :
    shift ∉ (of calls).store.running := by
  intro runs
  obtain ⟨hshift, isOpen⟩ := Store.mem_running_iff.1 runs
  rw [(soundShifts calls).shift?_of_mem hshift] at found
  rw [Option.some.inj found, closed] at isOpen
  nomatch isOpen

theorem running_of_not_closed {calls : List Call} (runs : shift ∈ (of calls).store.running)
    (more : List Call)
    (kept : ∀ e ∈ (of (calls ++ more)).since calls.length, e.closed? ≠ some shift.id) :
    shift ∈ (of (calls ++ more)).store.running := by
  induction more using List.reverseRecOn with
  | nil => simpa using runs
  | append_singleton more call ih =>
    rw [← List.append_assoc, since_append_singleton] at kept
    rw [← List.append_assoc, of_append_singleton]
    have before := ih fun e he => kept e (List.mem_append_left _ he)
    exact (call.effect (of (calls ++ more)).store).mem_running before
      (kept _ (List.mem_append_right _ (List.mem_singleton.2 rfl)))

theorem closed_of_closed {calls : List Call} (more : List Call) {e : Entry}
    (he : e ∈ (of (calls ++ more)).since calls.length) (closed : e.closed? = some shiftId) :
    ∃ ended, (of (calls ++ more)).store.shift? shiftId = some ended ∧ ended.isOpen = false := by
  induction more using List.reverseRecOn with
  | nil => simp at he
  | append_singleton more call ih =>
    have effect := call.effect (of (calls ++ more)).store
    rw [← List.append_assoc, since_append_singleton] at he
    rw [← List.append_assoc, of_append_singleton]
    rcases List.mem_append.1 he with before | last
    · obtain ⟨ended, found, past⟩ := ih before
      exact ⟨ended, effect.shift?_of_closed found past, past⟩
    · rw [List.mem_singleton.1 last] at closed
      exact effect.shift?_of_closed? closed

/-- A shift runs until it is closed. -/
theorem running_iff {calls : List Call} (runs : shift ∈ (of calls).store.running)
    (more : List Call) :
    shift ∈ (of (calls ++ more)).store.running ↔
      ∀ e ∈ (of (calls ++ more)).since calls.length, e.closed? ≠ some shift.id := by
  refine ⟨fun now e he closed => ?_, running_of_not_closed runs more⟩
  obtain ⟨ended, found, past⟩ := closed_of_closed more he closed
  exact notMem_running found past now

end History

/-! ## To close a shift -/

/-- There are no more receipts than a word counts.  A database is far too small for more. -/
def Store.Storable (s : Store) : Prop := (s.receipts.length : Int) ≤ Int64.maxValue.toInt

instance (s : Store) : Decidable s.Storable :=
  inferInstanceAs (Decidable ((s.receipts.length : Int) ≤ Int64.maxValue.toInt))

/-- The lines of a shift have totals. -/
theorem Store.Carried.exists_totals (carried : s.Carried) (sound : s.Sound)
    (storable : s.Storable) (shiftId : String) :
    ∃ totals, ShiftTotals.ofLines (Shifts.linesOf shiftId s) = .ok totals := by
  apply ShiftTotals.exists_ofLines (carried.amount_nonneg sound shiftId)
  have part : (s.receiptsOf shiftId).length ≤ s.receipts.length := List.length_filter_le _ _
  rw [carried.starts_linesOf sound]
  exact (Int.ofNat_le.2 part).trans storable

theorem Store.SoundShifts.shift?_eq_some_iff (hs : s.SoundShifts) :
    s.shift? shiftId = some shift ↔ shift ∈ s.shifts ∧ shift.id = shiftId :=
  Table.find?_eq_some_iff (fun shift : Shift => shift.id) hs.ids

namespace Till

variable {stamp : Stamp} {actual : Money}

/-- Why a shift cannot be closed, if it cannot. -/
def closeFault? (shiftId : String) (s : Store) : Option LedgerError :=
  match s.shift? shiftId with
  | none => some (.refused (.shiftNotFound shiftId))
  | some shift =>
    if shift.isOpen then Action.overflow? (ShiftTotals.ofLines (Shifts.linesOf shiftId s))
    else some (.refused (.shiftAlreadyClosed shiftId))

/-- A shift that cannot be closed says why. -/
theorem answers_closeShift (writable : acc.Writable)
    (present : Validation.present "shift_id" shiftId = .ok ())
    (counted : Validation.amount "closing actual" actual = .ok ()) :
    (closeShift stamp shiftId actual).Answers acc s (closeFault? shiftId s) := by
  have named : (check (Validation.present "shift_id" shiftId)).run acc s = (.ok (), s) :=
    run_check_eq_ok_iff.2 ⟨present, rfl⟩
  have amount : (check (Validation.amount "closing actual" actual)).run acc s = (.ok (), s) :=
    run_check_eq_ok_iff.2 ⟨counted, rfl⟩
  refine .bind_of_ok named (.bind_of_ok amount (.atomically ?_))
  unfold closeFault?
  cases found : s.shift? shiftId with
  | none =>
    have kept : (Shifts.markClosed stamp.now shiftId).run acc s = (.ok false, s) :=
      Shifts.run_markClosed_eq_ok_iff.2 ⟨writable, by rw [found]; rfl, rfl⟩
    exact .bind_of_ok kept
      (.of_read writable.1 (congrArg Except.ok found) (Action.answers_refuse _))
  | some shift =>
    by_cases running : shift.isOpen = true
    · have marked : (Shifts.markClosed stamp.now shiftId).run acc s = (.ok true,
          Shifts.change shiftId (fun shift => { shift with closedAt := some stamp.now }) s) :=
        Shifts.run_markClosed_eq_ok_iff.2 ⟨writable, by rw [found]; exact running, rfl⟩
      have there : (Shifts.change shiftId (fun shift =>
          { shift with closedAt := some stamp.now }) s).shift? shiftId =
            some { shift with closedAt := some stamp.now } := by
        rw [Shifts.shift?_change, found]
        · simp [Store.id_of_shift? found]
        · intro shift
          rfl
      dsimp only
      rw [if_pos running]
      refine .bind_of_ok marked (.of_read writable.1 (congrArg Except.ok there)
        (.of_read writable.1 rfl ?_))
      exact (Action.answers_ofOverflow _).bind_none fun totals t _ =>
        .bind_of_ok (a := ()) (Shifts.run_recordClose_eq_ok_iff.2 ⟨writable, rfl⟩)
          (Action.answers_pure _)
    · have kept : (Shifts.markClosed stamp.now shiftId).run acc s = (.ok false, s) :=
        Shifts.run_markClosed_eq_ok_iff.2 ⟨writable, by rw [found]; simpa using running, rfl⟩
      dsimp only
      rw [if_neg running]
      exact .bind_of_ok kept
        (.of_read writable.1 (congrArg Except.ok found) (Action.answers_refuse _))

theorem run_currentShift_eq_ok_iff {told : Option Shift} :
    (currentShift staffId).run acc s = (.ok told, s') ↔
      acc.Readable ∧ Validation.present "staff_id" staffId = .ok () ∧
        s.openShift? staffId = told ∧ s = s' := by
  simp only [currentShift, Action.run_bind_eq_ok_iff, run_check_eq_ok_iff, Shifts.findOpen,
    Action.run_read_eq_ok_iff, Except.ok.injEq]
  constructor
  · rintro ⟨_, _, ⟨present, rfl⟩, readable, told, rfl⟩
    exact ⟨readable, present, told, rfl⟩
  · rintro ⟨readable, present, told, rfl⟩
    exact ⟨(), s, ⟨present, rfl⟩, readable, told, rfl⟩

/-- A shift is closed before if it is there and does not run. -/
theorem closeFault?_eq_closed_iff :
    closeFault? shiftId s = some (.refused (.shiftAlreadyClosed shiftId)) ↔
      ∃ shift, s.shift? shiftId = some shift ∧ shift.isOpen = false := by
  unfold closeFault?
  cases found : s.shift? shiftId with
  | none => simp
  | some shift => cases running : shift.isOpen <;> simp [running]

theorem closeFault?_eq_notFound_iff :
    closeFault? shiftId s = some (.refused (.shiftNotFound shiftId)) ↔
      s.shift? shiftId = none := by
  unfold closeFault?
  cases found : s.shift? shiftId with
  | none => simp
  | some shift => cases running : shift.isOpen <;> simp [running]

/-- Nothing stands in the way of closing a shift that runs. -/
theorem closeFault?_eq_none_iff (sums : ∃ totals,
      ShiftTotals.ofLines (Shifts.linesOf shiftId s) = .ok totals) :
    closeFault? shiftId s = none ↔
      ∃ shift, s.shift? shiftId = some shift ∧ shift.isOpen = true := by
  obtain ⟨totals, sums⟩ := sums
  unfold closeFault? Action.overflow?
  cases found : s.shift? shiftId with
  | none => simp
  | some shift => cases running : shift.isOpen <;> simp [running, sums]

end Till

/-! ## The calls -/

namespace Call

variable {call : Call} {openingFloat actual : Money}

/-- An active member of staff gets a running shift: the one that there is, or a new one. -/
theorem run_openShift (op : call.operation = .openShift staffId openingFloat)
    (writable : call.access.Writable) (present : Validation.present "staff_id" staffId = .ok ())
    (fresh : s.shift? call.stamp.id = none)
    (float : 0 ≤ openingFloat.toInt ∧ openingFloat.toInt ≤ Validation.maxAmount.toInt)
    (member : ∃ m, s.staffMember? staffId = some m ∧ m.isActive = true) :
    ∃ shift s', call.run s = (.ok (.shift (some shift)), s') ∧
      (s.openShift? staffId = some shift ∧ s' = s ∨
        s.openShift? staffId = none ∧ shift = Shifts.begun call.stamp staffId openingFloat ∧
          s' = { s with shifts := s.shifts ++ [shift] }) := by
  have told {shift : Shift} {s' : Store}
      (done : (Till.openShift call.stamp staffId openingFloat).run call.access s =
        (.ok shift, s')) : call.run s = (.ok (.shift (some shift)), s') := by
    rw [run, op]
    exact Action.run_bind_pure_eq_ok_iff.2 ⟨shift, done, rfl⟩
  cases running : s.openShift? staffId with
  | some shift =>
    exact ⟨shift, s, told (Till.run_openShift_eq_ok_iff.2
      ⟨writable, present, float.1, float.2, member, .inl ⟨running, rfl⟩⟩), .inl ⟨rfl, rfl⟩⟩
  | none =>
    exact ⟨_, _, told (Till.run_openShift_eq_ok_iff.2
      ⟨writable, present, float.1, float.2, member, .inr ⟨running, fresh, rfl, rfl⟩⟩),
      .inr ⟨rfl, rfl, rfl⟩⟩

/-- A call that closes a shift fails as that does. -/
theorem answers_closeShift (op : call.operation = .closeShift shiftId actual)
    (writable : call.access.Writable) (present : Validation.present "shift_id" shiftId = .ok ())
    (counted : Validation.amount "closing actual" actual = .ok ()) :
    (call.operation.action call.ledger call.stamp).Answers call.access s
      (Till.closeFault? shiftId s) := by
  rw [op]
  exact (Till.answers_closeShift writable present counted).bind_none fun _ _ _ =>
    Action.answers_pure _

end Call

namespace Day

/-- A shift runs. -/
def running : List Call :=
  opening ++ [ask "s1" (.openShift "amina" 500), ask "r1" (.commit (shiftPurchase .cash 3 600))]

/-- It has been closed. -/
def ended : List Call := running ++ [ask "close" (.closeShift "s1" 990)]

end Day

namespace History

/-- A member of staff has an identity that is not blank. -/
theorem present_of_staffMember? {calls : List Call}
    (named : ∀ call ∈ calls, ¬Text.Blank call.stamp.id) {m : Staff}
    (found : (of calls).store.staffMember? staffId = some m) :
    Validation.present "staff_id" staffId = .ok () := by
  have known : staffId ∈ (of calls).store.staff.map (·.id) :=
    Table.isSome_find?_iff.1 (Option.isSome_of_mem found)
  obtain ⟨call, hcall, stamped⟩ := stamped_of_staff calls staffId known
  exact Validation.present_eq_ok_iff.2 (stamped ▸ named call hcall)

/-- A running shift is told as the current one until it is closed. -/
theorem run_currentShift_iff {calls : List Call} (runs : shift ∈ (of calls).store.running)
    (own : shift.staffId = staffId) (present : Validation.present "staff_id" staffId = .ok ())
    (more : List Call) (readable : acc.Readable) :
    (Till.currentShift staffId).run acc (of (calls ++ more)).store =
        (.ok (some shift), (of (calls ++ more)).store) ↔
      ∀ e ∈ (of (calls ++ more)).since calls.length, e.closed? ≠ some shift.id := by
  rw [Till.run_currentShift_eq_ok_iff, (oneRunning (calls ++ more)).openShift?_eq_some_iff,
    running_iff runs]
  exact ⟨fun told => told.2.2.1.1, fun kept => ⟨readable, present, ⟨kept, own⟩, rfl⟩⟩

/-- Nobody has two running shifts.  An active member of staff who opens a shift gets a running
one: the one that runs already, and then nothing changes, or else a new one, and then nothing
else changes.  It is told as the current one until it is closed.  To close a shift succeeds
just if it runs; if not, the answer says whether it was closed before or is not there.
Identities are drawn at random, so one that a call is given is new and not blank. -/
theorem shifts_open_once (calls : List Call) :
    let s := (of calls).store
    (s.running.map (·.staffId)).Nodup ∧
    (∀ (call : Call) staffId openingFloat, call.operation = .openShift staffId openingFloat →
      call.access.Writable → (∀ earlier ∈ calls, ¬Text.Blank earlier.stamp.id) →
      (∀ other ∈ s.shifts, other.id ≠ call.stamp.id) →
      0 ≤ openingFloat.toInt ∧ openingFloat.toInt ≤ Validation.maxAmount.toInt →
      (∃ m, s.staffMember? staffId = some m ∧ m.isActive = true) →
      ∃ shift, (call.run s).1 = .ok (.shift (some shift)) ∧ shift.staffId = staffId ∧
        shift.isOpen = true ∧
        (shift ∈ s.shifts ∧ (call.run s).2 = s ∨
          (∀ other ∈ s.shifts, other.staffId = staffId → other.isOpen = false) ∧
            shift = ⟨call.stamp.id, staffId, call.stamp.now, openingFloat, none, none, none⟩ ∧
            (call.run s).2 = { s with shifts := s.shifts ++ [shift] }) ∧
        ∀ (more : List Call) (acc : Access), acc.Readable →
          let now := of (calls ++ [call] ++ more)
          (Till.currentShift staffId).run acc now.store = (.ok (some shift), now.store) ↔
            ∀ e ∈ now.since (calls ++ [call]).length, e.closed? ≠ some shift.id) ∧
    ∀ (call : Call) shiftId actual, call.operation = .closeShift shiftId actual →
      call.access.Writable → ¬Text.Blank shiftId →
      0 ≤ actual.toInt ∧ actual.toInt ≤ Validation.maxAmount.toInt →
      (s.Storable → ((∃ reply, (call.run s).1 = .ok reply) ↔
        ∃ shift ∈ s.shifts, shift.id = shiftId ∧ shift.isOpen = true)) ∧
      ((call.run s).1 = .error (.refused (.shiftAlreadyClosed shiftId)) ↔
        ∃ shift ∈ s.shifts, shift.id = shiftId ∧ shift.isOpen = false) ∧
      ((call.run s).1 = .error (.refused (.shiftNotFound shiftId)) ↔
        ∀ shift ∈ s.shifts, shift.id ≠ shiftId) := by
  intro s
  have one : s.OneRunning := oneRunning calls
  have shifts : s.SoundShifts := soundShifts calls
  refine ⟨one, fun call staffId openingFloat op writable named fresh float member => ?_,
    fun call shiftId actual op writable present counted => ?_⟩
  · have present : Validation.present "staff_id" staffId = .ok () := by
      obtain ⟨m, found, -⟩ := member
      exact present_of_staffMember? named found
    have new : s.shift? call.stamp.id = none := List.find?_eq_none.2 fun other hother => by
      simpa using fresh other hother
    obtain ⟨shift, s', run, outcome⟩ := call.run_openShift op writable present new float member
    have left : (of (calls ++ [call])).store = s' := by
      rw [of_append_singleton]
      exact congrArg Prod.snd run
    have runs : shift ∈ s'.running ∧ shift.staffId = staffId := by
      rcases outcome with ⟨before, rfl⟩ | ⟨-, rfl, rfl⟩
      · exact one.openShift?_eq_some_iff.1 before
      · exact ⟨Store.mem_running_iff.2 ⟨List.mem_append_right _ (List.mem_singleton.2 rfl), rfl⟩,
          rfl⟩
    refine ⟨shift, congrArg Prod.fst run, runs.2, (Store.mem_running_iff.1 runs.1).2, ?_,
      fun more acc readable => ?_⟩
    · rw [run]
      rcases outcome with ⟨before, rfl⟩ | ⟨free, begun, rfl⟩
      · exact .inl ⟨List.mem_of_find?_eq_some before, rfl⟩
      · refine .inr ⟨fun other hother own => Bool.eq_false_iff.2 fun isOpen => ?_, begun, rfl⟩
        exact Store.openShift?_eq_none_iff.1 free
          (own ▸ List.mem_map_of_mem (Store.mem_running_iff.2 ⟨hother, isOpen⟩))
    · exact run_currentShift_iff (left ▸ runs.1) runs.2 present more readable
  · have answers := call.answers_closeShift (s := s) op writable (if_neg present)
      (Validation.amount_eq_ok_iff.2 counted)
    refine ⟨fun storable => ?_, ?_, ?_⟩
    · have carried : s.Carried := carried calls
      have sums := carried.exists_totals (sound calls) storable shiftId
      refine answers.ok_iff.trans ((Till.closeFault?_eq_none_iff sums).trans ?_)
      simp only [shifts.shift?_eq_some_iff, and_assoc]
    · refine (answers.error_iff _).trans (Till.closeFault?_eq_closed_iff.trans ?_)
      simp only [shifts.shift?_eq_some_iff, and_assoc]
    · refine (answers.error_iff _).trans (Till.closeFault?_eq_notFound_iff.trans ?_)
      simp [Store.shift?]

/-- The cashier opens the shift once more and still has it after a sale.  It is closed, and the
next one is opened.  Then the first one is closed again, and one that never was. -/
theorem shifts_open_once_of_day :
    let again := Day.ask "s2" (.openShift "amina" 300)
    let close := Day.ask "close" (.closeShift "s1" 990)
    let first : Shift := ⟨"s1", "amina", Day.moment, 500, none, none, none⟩
    let next : Shift := ⟨"s2", "amina", Day.moment, 300, none, none, none⟩
    let store := (of Day.running).store
    let later := (of Day.ended).store
    let sold := (of (Day.running ++ [again] ++
      [Day.ask "r2" (.commit (Day.shiftPurchase .cash 1 200))])).store
    again.run store = (.ok (.shift (some first)), store) ∧
    (Till.currentShift "amina").run {} sold = (.ok (some first), sold) ∧
    (∃ reply, (close.run store).1 = .ok reply) ∧
    again.run later = (.ok (.shift (some next)), { later with shifts := later.shifts ++ [next] }) ∧
    (close.run later).1 = .error (.refused (.shiftAlreadyClosed "s1")) ∧
    ((Day.ask "close" (.closeShift "s9" 990)).run later).1 =
      .error (.refused (.shiftNotFound "s9")) := by
  intro again close first next store later sold
  have member : store.staffMember? "amina" =
      some ⟨"amina", "amina", none, .cashier, true, Day.moment⟩ := by decide +kernel
  have running : store.shifts = [first] := by decide +kernel
  obtain ⟨member_later, ended⟩ : (of Day.ended).store.staffMember? "amina" =
        some ⟨"amina", "amina", none, .cashier, true, Day.moment⟩ ∧
      (of Day.ended).store.shifts =
        [⟨"s1", "amina", Day.moment, 500, some Day.moment, some 990, some 1100⟩] := by
    decide_cbv
  obtain ⟨-, opens, closes⟩ := shifts_open_once Day.running
  obtain ⟨-, opens_later, closes_later⟩ := shifts_open_once Day.ended
  have here : first ∈ store.shifts := running ▸ List.mem_singleton_self _
  obtain ⟨shift, told, own, isOpen, ⟨there, same⟩ | ⟨free, -⟩, current⟩ :=
    opens again "amina" 300 rfl (by decide) (by decide +kernel) (running ▸ by decide) (by decide)
      ⟨_, member, rfl⟩
  case inr => exact absurd (free first here rfl) (by decide)
  obtain rfl : shift = first := List.mem_singleton.1 (running ▸ there)
  refine ⟨Prod.ext told same, (current _ {} (by decide)).2 (by decide +kernel), ?_, ?_, ?_, ?_⟩
  · exact ((closes close "s1" 990 rfl (by decide) (by decide) (by decide)).1
      (by decide +kernel)).2 ⟨first, here, rfl, rfl⟩
  · obtain ⟨shift, told, own, isOpen, ⟨here, -⟩ | ⟨-, rfl, left⟩, -⟩ :=
      opens_later again "amina" 300 rfl (by decide) (by decide +kernel) (ended ▸ by decide)
        (by decide) ⟨_, member_later, rfl⟩
    · rw [ended, List.mem_singleton] at here
      rw [here] at isOpen
      exact absurd isOpen Bool.false_ne_true
    · exact Prod.ext told left
  · exact (closes_later close "s1" 990 rfl (by decide) (by decide) (by decide)).2.1.2
      ⟨_, ended ▸ List.mem_singleton_self _, rfl, rfl⟩
  · exact (closes_later (Day.ask "close" (.closeShift "s9" 990)) "s9" 990 rfl (by decide)
      (by decide) (by decide)).2.2.2 (ended ▸ by decide)

end History

end Tillbook
