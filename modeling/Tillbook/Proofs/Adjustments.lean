import Tillbook.Proofs.Histories

/-!
# Stocks moved by hand

A stock that is moved by hand moves by exactly what is asked, as long as the sum is a word.  It is
the one write that is not undone when it fails: a sum that is no word is stored rounded, and only
then does the answer fail.  From then on the product cannot be read, until a further move brings
its stock back among the words.

## Main definitions

* `Catalog.Adjusted` — the stock of a product has moved, and nothing else has changed.

## Main statements

* `Catalog.exists_run_adjust_iff` — a stock that can be read is moved exactly if the sum is a word.
* `Call.adjusted_or_lost` — what a move by hand leaves, whether it succeeds or fails.
-/

namespace Tillbook

variable {acc : Access} {s s' : Store} {now : Timestamp} {id : String} {delta : Int64}
  {row : ProductRow}

namespace Catalog

/-- The stock of a product has moved.  The other products and the other tables are what they
were. -/
structure Adjusted (now : Timestamp) (id : String) (delta : Int64) (s : Store) (row : ProductRow)
    (s' : Store) : Prop where
  found : s.product? id = some row
  stored : s'.product? id = some { row with stock := row.stock.add delta, updatedAt := now }
  others : ∀ other, other ≠ id → s'.product? other = s.product? other
  ids : s'.products.map (·.id) = s.products.map (·.id)
  rest : s' = { s with products := s'.products }

theorem adjusted_moveStock (found : s.product? id = some row) :
    Adjusted now id delta s row (moveStock now id delta s) where
  found := found
  stored := by rw [product?_moveStock_of_eq_some now id delta found, moved_eq found]
  others := by
    intro other ne
    rw [product?_moveStock]
    cases there : s.product? other with
    | none => rfl
    | some row' =>
      have named : row'.id ≠ id := (Store.id_of_product? there).trans_ne ne
      rw [Option.map_some, ProductRow.moved_of_ne named]
  ids := Table.map_key_map (fun row : ProductRow => row.id) (ProductRow.id_moved now id delta) _
  rest := rfl

namespace Adjusted

/-- A stock that was moved to a word is read back. -/
theorem run_find {w : Int64} (h : Adjusted now id delta s row s')
    (sum : row.stock.add delta = .exact w) (readable : acc.Readable) :
    (find id).run acc s' =
      (.ok (some { row.toProductCard with updatedAt := now, stock := w }), s') := by
  have read : ({ row with stock := row.stock.add delta, updatedAt := now } : ProductRow).read =
      .ok { row.toProductCard with updatedAt := now, stock := w } :=
    ProductRow.read_eq_ok_iff.2 ⟨w, sum, rfl⟩
  exact run_find_eq_ok_iff.2 ⟨readable, mapM_eq_ok_some_iff.2 ⟨_, h.stored, read⟩, rfl⟩

/-- A product whose stock was moved to no word cannot be read. -/
theorem run_find_of_lost (h : Adjusted now id delta s row s')
    (lost : (row.stock.add delta).word? = none) (readable : acc.Readable) :
    (find id).run acc s' = (.error (.store (.outOfRange "stock_quantity")), s') := by
  have obstacle := (Action.obstacle_eq_none_iff "products").2 readable
  simp [find, Action.read, obstacle, h.stored, ProductRow.read, lost, Functor.map, Except.map]

end Adjusted

/-- A stock that can be read is moved exactly if the sum is a word. -/
theorem exists_run_adjust_iff {w : Int64} (writable : acc.Writable)
    (found : s.product? id = some row) (stock : row.stock = .exact w) :
    (∃ sum, ((adjust now id delta).run acc s).1 = .ok sum) ↔
      ∃ sum, Word.ofInt? (w.toInt + delta.toInt) = some sum := by
  refine exists_congr fun sum => ?_
  rw [Action.fst_eq_ok_iff, Word.ofInt?_eq_some_iff, ← Tally.add_exact_eq_exact_iff]
  constructor
  · rintro ⟨_, done⟩
    obtain ⟨-, row', found', sum, -⟩ := run_adjust_eq_ok_iff.1 done
    obtain rfl : row = row' := Option.some.inj (found.symm.trans found')
    rwa [stock] at sum
  · intro sum
    rw [← stock] at sum
    exact ⟨_, run_adjust_eq_ok_iff.2 ⟨writable, row, found, sum, rfl⟩⟩

end Catalog

namespace Call

/-- The answer to the call tells the new stock. -/
theorem run_adjustStock_eq_ok_iff {call : Call} {reply : Reply}
    (op : call.operation = .adjustStock id delta) :
    call.run s = (.ok reply, s') ↔ ∃ w, reply = .number w ∧
      (Catalog.adjust call.stamp.now id delta).run call.access s = (.ok w, s') :=
  run_eq_ok_iff_of_action (by rw [op]; rfl)

/-- A move by hand that succeeds tells the old stock and what it was moved by, together, and so
the product is read back; nothing else has changed.  One that fails leaves everything as it was,
or it has stored a sum that is no word: then the product cannot be read any longer, and still
nothing else has changed.  With a stock that can be read and nothing in the way of a write, it
succeeds exactly if the sum is a word. -/
theorem adjusted_or_lost (call : Call) (id : String) (delta : Int64)
    (op : call.operation = .adjustStock id delta) (s : Store) :
    (∀ reply, (call.run s).1 = .ok reply → ∃ row sum, reply = .number sum ∧
      Catalog.Adjusted call.stamp.now id delta s row (call.run s).2 ∧
      (∀ w, row.stock = .exact w → sum.toInt = w.toInt + delta.toInt) ∧
      ∀ acc : Access, acc.Readable → (Catalog.find id).run acc (call.run s).2 =
        (.ok (some { row.toProductCard with updatedAt := call.stamp.now, stock := sum }),
          (call.run s).2)) ∧
    (∀ e, (call.run s).1 = .error e → (call.run s).2 = s ∨ ∃ row,
      Catalog.Adjusted call.stamp.now id delta s row (call.run s).2 ∧
      (∀ w, row.stock = .exact w → Word.ofInt? (w.toInt + delta.toInt) = none) ∧
      ∀ acc : Access, acc.Readable → (Catalog.find id).run acc (call.run s).2 =
        (.error (.store (.outOfRange "stock_quantity")), (call.run s).2)) ∧
    (∀ row w, s.product? id = some row → row.stock = .exact w → call.access.Writable →
      ((∃ reply, (call.run s).1 = .ok reply) ↔
        ∃ sum, Word.ofInt? (w.toInt + delta.toInt) = some sum)) := by
  rcases outcome : call.run s with ⟨answer, s'⟩
  refine ⟨fun reply done => ?_, fun e failed => ?_, fun row w found stock writable => ?_⟩
  · obtain rfl : answer = .ok reply := done
    obtain ⟨sum, told, run⟩ := (run_adjustStock_eq_ok_iff op).1 outcome
    obtain ⟨-, row, found, total, rfl⟩ := Catalog.run_adjust_eq_ok_iff.1 run
    have adjusted : Catalog.Adjusted call.stamp.now id delta s row _ :=
      Catalog.adjusted_moveStock found
    refine ⟨row, sum, told, adjusted, fun w stock => ?_, fun acc => adjusted.run_find total⟩
    rw [stock] at total
    exact Tally.add_exact_eq_exact_iff.1 total
  · obtain rfl : answer = .error e := failed
    have effect := call.effect s
    rw [outcome] at effect
    cases effect with
    | failed => exact .inl rfl
    | stockLost e other found lost =>
      obtain ⟨rfl, rfl⟩ := Operation.adjustStock.inj (op.symm.trans other)
      have adjusted : Catalog.Adjusted call.stamp.now id delta s _ _ :=
        Catalog.adjusted_moveStock found
      refine .inr ⟨_, adjusted, fun w stock => ?_, fun acc => adjusted.run_find_of_lost lost⟩
      rw [Option.eq_none_iff_forall_ne_some]
      intro sum total
      rw [stock, Tally.add_exact (Word.ofInt?_eq_some_iff.1 total)] at lost
      nomatch lost
  · rw [← Catalog.exists_run_adjust_iff writable found stock]
    constructor
    · rintro ⟨reply, rfl⟩
      obtain ⟨sum, -, run⟩ := (run_adjustStock_eq_ok_iff op).1 outcome
      exact ⟨sum, congrArg Prod.fst run⟩
    · rintro ⟨sum, done⟩
      have told := (run_adjustStock_eq_ok_iff op).2 ⟨sum, rfl, Prod.ext done rfl⟩
      exact ⟨.number sum, congrArg Prod.fst (outcome.symm.trans told)⟩

/-- Two dozen are delivered to forty. -/
theorem adjusted_or_lost_of_delivery :
    let call := Day.ask "delivery" (.adjustStock "sugar" 24)
    let s := (History.of Day.opening).store
    call.operation = .adjustStock "sugar" 24 ∧ (call.run s).1 = .ok (.number 64) ∧
      Catalog.Adjusted Day.moment "sugar" 24 s Day.sugar.row (call.run s).2 := by
  intro call s
  have done : (call.run s).1 = .ok (.number 64) := by decide +kernel
  have there : s.product? "sugar" = some Day.sugar.row := by decide +kernel
  obtain ⟨row, sum, -, adjusted, -⟩ :=
    (adjusted_or_lost call "sugar" 24 rfl s).1 (.number 64) done
  obtain rfl : row = Day.sugar.row := Option.some.inj (adjusted.found.symm.trans there)
  exact ⟨rfl, done, adjusted⟩

/-- One more is delivered to a stock that is as large as a word can say.  The delivery fails, and
yet it leaves a product that cannot be read. -/
theorem lost_of_delivery :
    let full : Product := { Day.sugar with stock := Int64.maxValue }
    let call := Day.ask "delivery" (.adjustStock "sugar" 1)
    let s := (History.of [Day.ask "sugar" (.addProduct full)]).store
    ((Catalog.find "sugar").run {} s).1 = .ok (some full) ∧
      (call.run s).1 = .error (.store (.outOfRange "stock_quantity")) ∧ (call.run s).2 ≠ s ∧
      ((Catalog.find "sugar").run {} (call.run s).2).1 =
        .error (.store (.outOfRange "stock_quantity")) := by
  decide +kernel

end Call

end Tillbook
