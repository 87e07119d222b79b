import Mathlib
import Tillbook.Proofs.TenderLines

/-!
# Shifts

A shift runs until it is closed, and then nothing about it changes any more: neither its
row nor the tenders of its receipts, so the cash that was expected at its end is the cash
that is expected now.

## Main definitions

* `Shift.Sound` — what holds of a shift in every store that calls have left.
* `Entry.closed?` — the shift that a call has closed.
* `ShiftEffect` — what a call does to the shifts.

## Main statements

* `Effect.on_shifts` — a call keeps the shifts, begins one or ends one.
* `Effect.keeps_shifts` — sound shifts stay sound.
* `Effect.shift?_of_closed` — the row of a closed shift stays.
* `History.closed_shift_frozen` — the shifts of every run.
-/

namespace Tillbook

/-- The float is an amount, the facts of the end are all there or all absent, and the cash
that was expected at the end is that of the lines now. -/
structure Shift.Sound (shift : Shift) (s : Store) : Prop where
  float : 0 ≤ shift.openingFloat.toInt ∧
    shift.openingFloat.toInt ≤ Validation.maxAmount.toInt
  actual : shift.closingActual.isSome = shift.closedAt.isSome
  expected : shift.closingExpected.isSome = shift.closedAt.isSome
  cash : shift.isOpen = false → ∃ totals,
    ShiftTotals.ofLines (Shifts.linesOf shift.id s) = .ok totals ∧
      shift.closingExpected = some (totals.expectedCash shift.openingFloat)

/-- Every shift is sound and has an identity of its own. -/
structure Store.SoundShifts (s : Store) : Prop where
  ids : (s.shifts.map (·.id)).Nodup
  each : ∀ shift ∈ s.shifts, shift.Sound s

variable {s s' : Store} {id : String}

theorem Store.id_of_shift? {shift : Shift} (h : s.shift? id = some shift) : shift.id = id :=
  Table.key_of_find? (fun shift : Shift => shift.id) h

/-- While a shift runs, no cash has been counted. -/
theorem Shift.Sound.closingActual_eq_none {shift : Shift} (hs : shift.Sound s)
    (running : shift.isOpen = true) : shift.closingActual = none := by
  have actual := hs.actual
  rw [Shift.isOpen, Option.isNone_iff_eq_none] at running
  rw [running, Option.isSome_none, Option.isSome_eq_false_iff, Option.isNone_iff_eq_none] at actual
  exact actual

/-- A shift stays sound as long as its lines do not change after its end. -/
theorem Shift.Sound.of_linesOf {shift : Shift} (hs : shift.Sound s)
    (same : shift.isOpen = false → Shifts.linesOf shift.id s' = Shifts.linesOf shift.id s) :
    shift.Sound s' := by
  refine { hs with cash := fun closed => ?_ }
  rw [same closed]
  exact hs.cash closed

namespace Store.SoundShifts

theorem shift?_of_mem (hs : s.SoundShifts) {shift : Shift} (h : shift ∈ s.shifts) :
    s.shift? shift.id = some shift :=
  Table.find?_of_mem (fun shift : Shift => shift.id) hs.ids h

end Store.SoundShifts

/-! ## What calls do to shifts -/

namespace Entry

/-- The shift that a call has closed. -/
def closed? (e : Entry) : Option String :=
  match e.call.operation, e.answer with
  | .closeShift id _, .ok _ => some id
  | _, _ => none

theorem closed?_eq_none {call : Call} {answer : Except LedgerError Reply}
    (other : ∀ id actual, call.operation ≠ .closeShift id actual) :
    closed? ⟨call, answer⟩ = none := by
  unfold closed?
  split
  · next op _ => exact absurd op (other _ _)
  · rfl

end Entry

/-- What a call does to the shifts. -/
inductive ShiftEffect (e : Entry) (s s' : Store) : Prop
  | kept (unclosed : e.closed? = none) (shifts : s'.shifts = s.shifts)
  | begun {staffId : String} {openingFloat : Money} {shift : Shift} (unclosed : e.closed? = none)
      (free : s.openShift? staffId = none) (new : s.shift? e.call.stamp.id = none)
      (begun : shift = Shifts.begun e.call.stamp staffId openingFloat)
      (float : 0 ≤ openingFloat.toInt ∧ openingFloat.toInt ≤ Validation.maxAmount.toInt)
      (shifts : s'.shifts = s.shifts ++ [shift])
  | ended {id : String} {actual : Money} {shift : Shift} {totals : ShiftTotals}
      (closed : e.closed? = some id) (found : s.shift? id = some shift)
      (running : shift.isOpen = true)
      (sums : ShiftTotals.ofLines (Shifts.linesOf id s) = .ok totals)
      (left : s' = Shifts.change id
        (·.ended e.call.stamp.now actual (totals.expectedCash shift.openingFloat)) s)

namespace Effect

variable {call : Call} {answer : Except LedgerError Reply}

/-- There is no fourth way. -/
theorem on_shifts (h : Effect call s answer s') : ShiftEffect ⟨call, answer⟩ s s' := by
  cases h with
  | failed | stockLost =>
    refine .kept ?_ rfl
    unfold Entry.closed?
    split <;> simp_all
  | told asks =>
    exact .kept (Entry.closed?_eq_none fun _ _ op => by simp [op, Operation.asks] at asks) rfl
  | customerAdded added =>
    exact .kept (Entry.closed?_eq_none fun _ _ op => by simp [op, Call.customer?] at added) rfl
  | shiftBegun op member free new begun float =>
    exact .begun (Entry.closed?_eq_none (by simp [op])) free new begun float rfl
  | shiftEnded op found running sums report =>
    exact .ended (by simp [Entry.closed?, op]) found running sums rfl
  | numbered op next =>
    rw [Counters.issued_eq]
    exact .kept (Entry.closed?_eq_none (by simp [op])) rfl
  | committed op booked =>
    obtain ⟨customers, -, rfl⟩ := booked.left
    exact .kept (Entry.closed?_eq_none (by simp [op])) rfl
  | staffEngaged op | staffSet op | productAdded op | stockMoved op | limitSet op | repaid op
  | settled op | shiftKept op => exact .kept (Entry.closed?_eq_none (by simp [op])) rfl

/-- The row of a closed shift stays. -/
theorem shift?_of_closed (h : Effect call s answer s') {shift : Shift}
    (found : s.shift? id = some shift) (closed : shift.isOpen = false) :
    s'.shift? id = some shift := by
  cases h.on_shifts with
  | kept unclosed shifts => rwa [Store.shift?, shifts]
  | begun unclosed free new begun float shifts =>
    rw [Store.shift?, shifts, List.find?_append, ← Store.shift?, found]
    rfl
  | @ended shiftId actual running_shift totals ended found' running sums left =>
    have other : shift.id ≠ shiftId := by
      intro own
      rw [← own, Store.id_of_shift? found, found] at found'
      rw [Option.some.inj found', running] at closed
      nomatch closed
    rw [left, Shifts.shift?_change, found]
    · simp [other]
    · intro shift
      rfl

/-- A shift was there before, or it has the identity that the call was given. -/
theorem id_of_mem_shifts (h : Effect call s answer s') {shift : Shift}
    (hshift : shift ∈ s'.shifts) : shift.id ∈ s.shifts.map (·.id) ∨ shift.id = call.stamp.id := by
  cases h.on_shifts with
  | kept unclosed shifts => exact .inl (List.mem_map_of_mem (shifts ▸ hshift))
  | begun unclosed free new begun float shifts =>
    rcases List.mem_append.1 (shifts ▸ hshift) with before | added
    · exact .inl (List.mem_map_of_mem before)
    · rw [List.mem_singleton.1 added, begun]
      exact .inr rfl
  | ended closed found running sums left =>
    obtain ⟨before, hbefore, rfl⟩ := List.mem_map.1 (left ▸ hshift)
    refine .inl (List.mem_map.2 ⟨before, hbefore, ?_⟩)
    split <;> rfl

/-- Sound shifts stay sound. -/
theorem keeps_shifts (h : Effect call s answer s') (hs : s.SoundShifts) : s'.SoundShifts := by
  -- A shift that is there before and after: its lines change only while it runs.
  have old : ∀ shift ∈ s.shifts, shift.Sound s' := by
    intro shift hshift
    refine (hs.each shift hshift).of_linesOf fun closed => h.linesOf_eq fun other found => ?_
    rw [hs.shift?_of_mem hshift] at found
    rwa [← Option.some.inj found]
  cases h.on_shifts with
  | kept unclosed shifts => exact ⟨shifts ▸ hs.ids, shifts ▸ old⟩
  | begun unclosed free new begun float shifts =>
    constructor
    · rw [shifts, begun]
      exact Table.nodup_append_singleton.2 ⟨hs.ids, Table.find?_eq_none_iff.1 new⟩
    · intro other hother
      rcases List.mem_append.1 (shifts ▸ hother) with before | added
      · exact old other before
      · rw [List.mem_singleton.1 added, begun]
        exact ⟨float, rfl, rfl, nofun⟩
  | @ended shiftId actual shift totals closed found running sums left =>
    subst left
    refine ⟨?_, fun other hother => ?_⟩
    · rw [Shifts.change, Table.map_key_map (fun shift : Shift => shift.id)]
      · exact hs.ids
      · intro shift
        split <;> rfl
    · obtain ⟨before, hbefore, rfl⟩ := List.mem_map.1 hother
      by_cases own : before.id = shiftId
      · have same := hs.shift?_of_mem hbefore
        rw [own, found] at same
        obtain rfl := Option.some.inj same
        rw [if_pos (beq_iff_eq.2 own)]
        refine ⟨(hs.each shift hbefore).float, rfl, rfl, fun _ => ⟨totals, ?_, rfl⟩⟩
        rw [← own] at sums
        exact sums
      · rw [if_neg (by simpa using own)]
        exact old before hbefore

end Effect

/-! ## A shift -/

namespace Day

/-- A purchase in the one shift. -/
def shiftPurchase (payment : Payment) (quantity : Int64) (total : Money) : CommitRequest :=
  { purchase payment quantity total with shiftId := some "s1" }

/-- A shift with a sale in cash, one that waits for the gateway, one on two tenders, and a
return. -/
def shift : List Call :=
  opening ++ [ask "s1" (.openShift "amina" 500), ask "r1" (.commit (shiftPurchase .cash 3 600)),
    ask "r2" (.commit
      { shiftPurchase (.mobile (some "MPESA")) 1 200 with checkoutId := some "ws-1" }),
    ask "r3" (.commit (shiftPurchase (.split [.plain .cash 100, .plain .credit 300]) 2 400)),
    ask "r4" (.commit { shiftPurchase .cash 1 200 with isReturn := true })]

end Day

namespace History

theorem soundShifts (calls : List Call) : (of calls).store.SoundShifts := by
  apply induction (P := fun h => h.store.SoundShifts)
  · exact ⟨List.nodup_nil, List.forall_mem_nil _⟩
  · exact fun h call answer s' hs effect => effect.keeps_shifts hs

/-- Shifts have the identities that the calls were given. -/
theorem stamped_of_shift (calls : List Call) :
    ∀ shift ∈ (of calls).store.shifts, ∃ call ∈ calls, call.stamp.id = shift.id := by
  induction calls using List.reverseRecOn with
  | nil => exact List.forall_mem_nil _
  | append_singleton calls call ih =>
    intro shift hshift
    rw [of_append_singleton] at hshift
    rcases (call.effect (of calls).store).id_of_mem_shifts hshift with before | own
    · obtain ⟨old, hold, same⟩ := List.mem_map.1 before
      obtain ⟨other, hother, stamped⟩ := ih old hold
      exact ⟨other, List.mem_append_left _ hother, stamped.trans same⟩
    · exact ⟨call, by simp, own.symm⟩

/-- Whatever comes after, a closed shift keeps its row and its lines. -/
theorem frozen_of_closed {calls : List Call} {shift : Shift}
    (found : (of calls).store.shift? id = some shift) (closed : shift.isOpen = false)
    (more : List Call) :
    (of (calls ++ more)).store.shift? id = some shift ∧
      Shifts.linesOf id (of (calls ++ more)).store = Shifts.linesOf id (of calls).store := by
  induction more using List.reverseRecOn with
  | nil => simpa using found
  | append_singleton more call ih =>
    have effect := call.effect (of (calls ++ more)).store
    rw [← List.append_assoc, of_append_singleton]
    refine ⟨effect.shift?_of_closed ih.1 closed, (effect.linesOf_eq ?_).trans ih.2⟩
    intro other hother
    rw [ih.1] at hother
    rwa [← Option.some.inj hother]

/-- The facts of the end of a shift are all absent or all there.  Once they are there, the
cash expected is that of its lines as they are now, and no call whatever changes the shift
or its lines again. -/
theorem closed_shift_frozen (calls : List Call) :
    ∀ shift ∈ (of calls).store.shifts,
      (shift.closedAt = none ∧ shift.closingActual = none ∧ shift.closingExpected = none ∨
        shift.closedAt.isSome ∧ shift.closingActual.isSome ∧ shift.closingExpected.isSome) ∧
      (shift.isOpen = false →
        (∃ totals, ShiftTotals.ofLines (Shifts.linesOf shift.id (of calls).store) = .ok totals ∧
          shift.closingExpected = some (totals.expectedCash shift.openingFloat)) ∧
        ∀ more : List Call,
          (of (calls ++ more)).store.shifts.filter (·.id == shift.id) = [shift] ∧
          Shifts.linesOf shift.id (of (calls ++ more)).store =
            Shifts.linesOf shift.id (of calls).store) := by
  intro shift hshift
  have sound := (soundShifts calls).each shift hshift
  refine ⟨?_, fun closed => ⟨sound.cash closed, fun more => ?_⟩⟩
  · have actual := sound.actual
    have expected := sound.expected
    cases hclosed : shift.closedAt with
    | none => simpa [hclosed] using And.intro actual expected
    | some at_ => simpa [hclosed] using And.intro actual expected
  · have found := (soundShifts calls).shift?_of_mem hshift
    obtain ⟨later, lines⟩ := frozen_of_closed found closed more
    refine ⟨?_, lines⟩
    exact Table.filter_of_mem (fun shift : Shift => shift.id) (soundShifts (calls ++ more)).ids
      (List.mem_of_find?_eq_some later)

/-- After the end of the shift a sale names it, the gateway confirms a payment in it, it is
closed once more, and the next one is opened. -/
theorem closed_shift_frozen_of_day :
    let closed : Shift := ⟨"s1", "amina", Day.moment, 500, some Day.moment, some 990, some 1000⟩
    let calls := Day.shift ++ [Day.ask "close" (.closeShift "s1" 990)]
    let more := [Day.ask "r5" (.commit (Day.shiftPurchase .cash 1 200)),
      Day.ask "ws" (.settle "ws-1" .completed none), Day.ask "again" (.closeShift "s1" 0),
      Day.ask "s2" (.openShift "amina" 300)]
    closed ∈ (of calls).store.shifts ∧ closed.isOpen = false ∧
      (∃ totals, ShiftTotals.ofLines (Shifts.linesOf "s1" (of calls).store) = .ok totals ∧
        some 1000 = some (totals.expectedCash 500)) ∧
      (of (calls ++ more)).store.shifts.filter (·.id == "s1") = [closed] ∧
      Shifts.linesOf "s1" (of (calls ++ more)).store = Shifts.linesOf "s1" (of calls).store := by
  intro closed calls more
  have there : closed ∈ (of calls).store.shifts := by decide_cbv
  have ended : closed.isOpen = false := rfl
  have frozen := (closed_shift_frozen calls closed there).2 ended
  exact ⟨there, ended, frozen.1, frozen.2 more⟩

end History

end Tillbook
