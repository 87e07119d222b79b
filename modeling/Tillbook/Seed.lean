import Tillbook.Operation
import Tillbook.Settings.Station

/-!
# Sample data

A new database is filled with staff, a catalog of everyday goods in three pack
sizes, and a few customers with open balances.  A database that has products is
left as it is.

## Main definitions

* `Seed.Options` — what the command line asks for.
* `Seed.products`, `Seed.customers` — the data.
* `Seed.fill` — fills a store.
-/

namespace Tillbook.Seed

/-- What the command line asks for. -/
structure Options where
  databasePath : Option String := none
  settingsPath : Option String := none
  deriving DecidableEq, Repr

/-- The options with those of a command line; `none` if it asks for help.  An
option that lacks its value, and any other word, is passed over. -/
def Options.parse (o : Options) : List String → Option Options
  | [] => some o
  | word :: rest =>
    if word = "--help" ∨ word = "-h" then none
    else if word = "--db" ∨ word = "-d" then
      match rest with
      | path :: rest => parse { o with databasePath := some path } rest
      | [] => some o
    else if word = "--config" ∨ word = "-c" then
      match rest with
      | path :: rest => parse { o with settingsPath := some path } rest
      | [] => some o
    else parse o rest

/-- The lines of the answer to a command line that asks for help. -/
def helpLines : List String :=
  ["DukaPOS Seed Data Generator",
   "",
   "Usage: seed [OPTIONS]",
   "",
   "Options:",
   "  -d, --db <PATH>      Database file path (default: from station config)",
   "  -c, --config <PATH>  Station config file (default: platform config dir)",
   "  -h, --help           Show this help message"]

/-- The answer to a command line that asks for help. -/
def help : String := String.join (helpLines.map (· ++ "\n"))

/-- The settings with the path of the command line. -/
def Options.settings (o : Options) (source : SettingsSource) :
    Except StoreError StationSettings := do
  let s ← StationSettings.load source
  return { s with databasePath := o.databasePath.or s.databasePath }

/-- The goods and their base prices in cents. -/
def goods : List (String × Nat) :=
  [("Unga wa Ugali", 18000), ("Sugar", 16000), ("Cooking Oil", 32000), ("Rice Pishori", 24000),
   ("Milk Fresha", 6000), ("Bread Supaloaf", 6500), ("Royco Mchuzi Mix", 1500), ("Kimbo", 45000),
   ("Omo", 25000), ("Geisha Soap", 5000), ("Colgate", 12000), ("Ketepa Tea", 8000),
   ("Blue Band", 14000), ("Salt", 3000), ("Soda 500ml", 8000)]

/-- The pack sizes and their prices in percent of the base price. -/
def sizes : List (String × Nat) := [("Small", 50), ("Regular", 100), ("Family", 190)]

/-- The name and the price of the `n`th product. -/
def pack (n : Nat) : String × Nat :=
  let (name, base) := goods.getD (n / sizes.length) ("", 0)
  let (size, percent) := sizes.getD (n % sizes.length) ("", 0)
  (name ++ " " ++ size, base * percent / 100)

/-- The number of products. -/
def productCount : Nat := goods.length * sizes.length

/-- The `n`th product.  It costs the shop from 70 to 85 percent; every third is
cheaper by the dozen, every seventh is short, and every fourth is free of tax. -/
def product (now : Timestamp) (id : String) (n : Nat) : Product :=
  let (name, price) := pack n
  let dozen := n % 3 = 0
  { id := id
    barcode := String.ofList (['6', '1', '6'] ++ Text.padded 10 n)
    name := name
    buyingPrice := .ofNat (price * (70 + n % 16) / 100)
    sellingPrice := .ofNat price
    wholesalePrice := if dozen then some (.ofNat (price * 92 / 100)) else none
    wholesaleThreshold := if dozen then some 12 else none
    taxRate := if n % 4 = 0 then .zero else .standard
    stock := if n % 7 = 0 then 2 else .ofNat (10 + n % 90)
    minStock := defaultMinStock
    isActive := true
    createdAt := now
    updatedAt := now }

/-- The customers: name, telephone, limit and balance. -/
def customers : List (String × String × Money × Money) :=
  [("Mama Njeri", "0712000001", 500000, 120000), ("Baba Otieno", "0712000002", 200000, 0),
   ("Wanjiru Kamau", "0712000003", 100000, 95000),
   ("Hotel Jirani", "0712000004", 2000000, 750000)]

/-- The first staff: user name, full name and role. -/
def staff : List (String × String × StaffRole) :=
  [("admin", "Shop Owner", .admin), ("cashier", "Till Operator", .cashier)]

/-- The step that adds a product; a product that cannot be added is left out. -/
def tryInsert (p : Product) : Action Unit :=
  ⟨fun acc s =>
    match (Catalog.insert p).run acc s with
    | (.ok _, s) => (.ok (), s)
    | (.error _, s) => (.ok (), s)⟩

/-- Fills a store, unless it has products, and tells whether it did.  Identities
come from `id`, by number. -/
def fill (now : Timestamp) (id : Nat → String) : Action Bool := do
  if 0 < (← Catalog.count) then return false
  else
    for ((username, fullName, role), n) in staff.zipIdx do
      let _ ← Roster.engage ⟨id n, username, some fullName, role, true, now⟩
    for n in List.range productCount do
      tryInsert (product now (id (staff.length + n)) n)
    for ((name, phone, limit, balance), n) in customers.zipIdx do
      let card : CustomerCard :=
        ⟨id (staff.length + productCount + n), name, some phone, none, none, limit, now, now⟩
      let _ ← Accounts.insert { card with balance := balance }
    return true

end Tillbook.Seed
