import Tillbook.Proofs.Histories

/-!
# Products in the store

The prices of a product are not below zero, and its stock can be read unless it lies beyond
the words: no sum comes back among them without being kept as one.

## Main definitions

* `Tally.Kept` — the tally is a word, or it lies beyond them.
* `ProductRow.Sound` — what holds of a product in every store that calls have left.

## Main statements

* `Tally.kept_add` — every sum is kept.
* `Effect.forall_products` — what holds of the products that are added holds of all.
* `Effect.keeps_products` — sound products stay sound.
-/

namespace Tillbook

namespace Tally

/-- The tally is a word, or it lies beyond them. -/
def Kept (t : Tally) : Prop :=
  (∃ w, t = exact w) ∨ t.value ≤ Int64.minValue.toInt ∨ Int64.maxValue.toInt < t.value

theorem kept_exact (w : Int64) : (exact w).Kept := .inl ⟨w, rfl⟩

theorem kept_ofRounded (n : Int) : (ofRounded n).Kept := by
  unfold ofRounded
  split
  · exact kept_exact _
  · next beyond =>
    refine .inr ?_
    rw [value_inexact]
    omega

/-- Every sum is kept, of whatever numbers. -/
theorem kept_add (t : Tally) (delta : Int64) : (t.add delta).Kept := by
  cases t with
  | inexact n => exact kept_ofRounded _
  | exact w =>
    dsimp only [add]
    split
    · exact kept_exact _
    · exact kept_ofRounded _

/-- What does not lie beyond the words is one. -/
theorem Kept.exact_of_lt {t : Tally} (h : t.Kept) (small : t.value.natAbs < 2 ^ 62) :
    ∃ w, t = exact w := by
  rcases h with word | beyond
  · exact word
  · rw [Int64.toInt_minValue, Int64.toInt_maxValue] at beyond
    omega

end Tally

/-- The prices are not below zero, and the stock is a word or lies beyond them. -/
structure ProductRow.Sound (row : ProductRow) : Prop where
  sellingPrice : 0 ≤ row.sellingPrice
  wholesalePrice : ∀ price, row.wholesalePrice = some price → 0 ≤ price
  stock : row.stock.Kept

/-- A quantity has the retail price or the wholesale price. -/
theorem ProductCard.priceFor_cases (p : ProductCard) (quantity : Int64) :
    p.priceFor quantity = p.sellingPrice ∨ p.wholesalePrice = some (p.priceFor quantity) := by
  unfold priceFor
  split
  · next price threshold wholesale _ =>
    split
    · exact .inr wholesale
    · exact .inl rfl
  · exact .inl rfl

namespace ProductRow

variable {row : ProductRow}

/-- What the moves of a stock keep, the lines of a receipt keep. -/
theorem forall_sold {P : ProductRow → Prop}
    (moved : ∀ row now id delta, P row → P (row.moved now id delta)) (h : P row)
    (now : Timestamp) (items : List SaleItem) : P (row.sold now items) := by
  induction items generalizing row with
  | nil => exact h
  | cons i rest ih => exact ih (moved row now i.productId _ h)

/-- No quantity has a price below zero. -/
theorem Sound.priceFor_nonneg (h : row.Sound) (quantity : Int64) :
    0 ≤ row.toProductCard.priceFor quantity := by
  rcases row.toProductCard.priceFor_cases quantity with retail | wholesale
  · exact retail ▸ h.sellingPrice
  · exact h.wholesalePrice _ wholesale

theorem Sound.moved (h : row.Sound) (now : Timestamp) (id : String) (delta : Int64) :
    (row.moved now id delta).Sound := by
  unfold ProductRow.moved
  split
  · exact ⟨h.sellingPrice, h.wholesalePrice, Tally.kept_add _ _⟩
  · exact h

end ProductRow

/-- A product that breaks no rule is sound. -/
theorem Catalog.sound_of_brokenRule? {p : Product} (rules : brokenRule? p = none) :
    p.row.Sound := by
  unfold brokenRule? at rules
  split at rules
  · nomatch rules
  split at rules
  · nomatch rules
  next selling =>
  split at rules
  · nomatch rules
  next wholesale =>
  refine ⟨Int64.not_lt.1 selling, fun price hprice => ?_, .inl ⟨_, rfl⟩⟩
  change p.wholesalePrice = some price at hprice
  rw [hprice] at wholesale
  exact Int64.not_lt.1 (by simpa using wholesale)

/-- Every product is sound. -/
def Store.SoundProducts (s : Store) : Prop := ∀ row ∈ s.products, row.Sound

/-- What holds of the products that are added, and what the moves of a stock keep, holds of every
product. -/
theorem Effect.forall_products {call : Call} {s s' : Store} {answer : Except LedgerError Reply}
    {P : ProductRow → Prop} (h : Effect call s answer s')
    (added : ∀ p, call.operation = .addProduct p → Catalog.brokenRule? p = none → P p.row)
    (moved : ∀ row now id delta, P row → P (row.moved now id delta))
    (hs : ∀ row ∈ s.products, P row) : ∀ row ∈ s'.products, P row := by
  intro row hrow
  cases h with
  | productAdded op rules barcode new =>
    rcases List.mem_append.1 hrow with before | last
    · exact hs row before
    · rw [List.mem_singleton.1 last]
      exact added _ op rules
  | stockLost | stockMoved =>
    obtain ⟨before, hbefore, rfl⟩ := List.mem_map.1 hrow
    exact moved before _ _ _ (hs before hbefore)
  | committed op booked =>
    obtain ⟨customers, -, rfl⟩ := booked.left
    obtain ⟨before, hbefore, rfl⟩ := List.mem_map.1 hrow
    exact ProductRow.forall_sold moved (hs before hbefore) _ _
  | numbered op next =>
    rw [Counters.issued_eq] at hrow
    exact hs row hrow
  | _ => exact hs row hrow

/-- Sound products stay sound. -/
theorem Effect.keeps_products {call : Call} {s s' : Store} {answer : Except LedgerError Reply}
    (h : Effect call s answer s') (hs : s.SoundProducts) : s'.SoundProducts :=
  h.forall_products (fun _ _ rules => Catalog.sound_of_brokenRule? rules)
    (fun _ now id delta sound => sound.moved now id delta) hs

theorem History.soundProducts (calls : List Call) : (of calls).store.SoundProducts := by
  apply induction (P := fun h => h.store.SoundProducts)
  · exact List.forall_mem_nil _
  · exact fun h call answer s' hs effect => effect.keeps_products hs

end Tillbook
