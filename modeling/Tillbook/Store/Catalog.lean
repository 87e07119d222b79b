import Tillbook.Store.Action

/-!
# The catalog

Statements on the products: to add and look up, to move the stock, and to list
those to reorder.
-/

namespace Tillbook

/-- The product, as long as its stock can be read. -/
def ProductRow.read (row : ProductRow) : Except StoreError Product :=
  match row.stock.word? with
  | some stock => .ok { row.toProductCard with stock := stock }
  | none => .error (.outOfRange "stock_quantity")

/-- The reorder line of the product, as long as its stock can be read. -/
def ProductRow.alert (row : ProductRow) : Except StoreError StockAlert := do
  let p ← row.read
  return ⟨p.id, p.barcode, p.name, p.stock, p.minStock⟩

namespace Catalog

/-- The product with an identity. -/
def find (id : String) : Action (Option Product) :=
  .read "products" fun s => (s.product? id).mapM (·.read)

/-- The product with a barcode. -/
def findByBarcode (barcode : String) : Action (Option Product) :=
  .read "products" fun s => (s.products.find? (·.barcode == barcode)).mapM (·.read)

/-- The first `limit` active products by name. -/
def list (limit : Nat) : Action (List Product) :=
  .read "products" fun s =>
    let rows := (s.products.filter (·.isActive)).mergeSort fun a b => a.name ≤ b.name
    (rows.take limit).mapM (·.read)

/-- The number of active products. -/
def count : Action Nat := .read "products" fun s => .ok (s.products.countP (·.isActive))

/-- The first rule of the schema that a product breaks. -/
def brokenRule? (p : Product) : Option String :=
  if p.buyingPrice < 0 then some "price_buying_cents >= 0"
  else if p.sellingPrice < 0 then some "price_selling_cents >= 0"
  else if p.wholesalePrice.any (· < 0) then
    some "wholesale_price_cents IS NULL OR wholesale_price_cents >= 0"
  else if p.wholesaleThreshold.any (· ≤ 0) then
    some "wholesale_threshold IS NULL OR wholesale_threshold > 0"
  else none

/-- The store with one more product.  Barcodes and identities are taken by one
product only. -/
def add (p : Product) (s : Store) : Except StoreError Store :=
  match brokenRule? p with
  | some rule => .error (.checkFailed rule)
  | none =>
    if s.products.any (·.barcode == p.barcode) then
      .error (.duplicate "products.barcode" p.barcode)
    else if s.products.any (·.id == p.id) then
      .error (.duplicate "products.id" p.barcode)
    else .ok { s with products := s.products ++ [{ p.toProductCard with stock := .exact p.stock }] }

/-- Adds a product. -/
def insert (p : Product) : Action Product := .put "products" fun s => do return (p, ← add p s)

/-- The store after the stock of a product has moved. -/
def moveStock (now : Timestamp) (id : String) (delta : Int64) (s : Store) : Store :=
  let move (row : ProductRow) :=
    if row.id == id then { row with stock := row.stock.add delta, updatedAt := now } else row
  { s with products := s.products.map move }

/-- Moves the stock of a product and tells the new stock. -/
def adjust (now : Timestamp) (id : String) (delta : Int64) : Action Int64 :=
  .write "products" fun s =>
    let moved := moveStock now id delta s
    match moved.product? id with
    | none => (.error (.notFound "Product" id), s)
    | some row => ((·.stock) <$> row.read, moved)

/-- The active products at or below their reorder level, the lowest stock first,
then by name. -/
def alerts : Action (List StockAlert) :=
  .read "products" fun s =>
    let rows := s.products.filter fun row =>
      row.isActive && decide (row.stock.value ≤ row.minStock.toInt)
    let lowest := (rows.mergeSort fun a b => a.name ≤ b.name).mergeSort fun a b =>
      a.stock.value ≤ b.stock.value
    lowest.mapM (·.alert)

end Catalog

end Tillbook
