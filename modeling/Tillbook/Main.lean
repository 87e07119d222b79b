import Tillbook.Json.Reader
import Tillbook.Seed
import Tillbook.Session
import Tillbook.Wire.Records

/-!
# The seed program

The command line fills a new database with sample data.  The database is a file
that holds the tables as one value.
-/

namespace Tillbook.Main

/-- The state of the settings file at a path. -/
def settingsFile (path : String) : IO SettingsFile := do
  try
    return .contents (← IO.FS.readFile path)
  catch
    | .noFileOrDirectory _ _ _ => return .missing
    | e => return .unreadable (toString e)

/-- The values of the environment that settings look at. -/
def environment : IO (String → Option String) := do
  let names := ["DUKA_STATION_ID", "DUKA_SHOP_NAME", "DUKA_DB_PATH"]
  let values ← names.mapM fun name => return (name, ← IO.getEnv name)
  return fun name => (values.lookup name).join

/-- A directory of the user: the one that a variable names, or one below the home. -/
def directory (name fallback : String) : IO String := do
  match ← IO.getEnv name with
  | some path => return path ++ "/pos"
  | none => return (← IO.getEnv "HOME").getD "" ++ fallback ++ "/pos"

/-- The rows of a table that can be read, as a value. -/
def readable {α β : Type} (f : α → Except StoreError β) (g : β → Json) (rows : List α) : Json :=
  .arr (rows.filterMap fun row => (f row).toOption.map g)

/-- The tables as a value. -/
def tables (s : Store) : Json :=
  .object [("staff", .arr (s.staff.map Staff.toJson)),
    ("products", readable ProductRow.read Product.toJson s.products),
    ("customers", readable CustomerRow.read Customer.toJson s.customers)]

/-- The database file holds products. -/
def hasProducts (path : String) : IO Bool := do
  match ← settingsFile path with
  | .contents text =>
    match (Json.read? text).bind (·.fields? ["staff", "products", "customers"]) with
    | some f =>
      match f "products" with
      | .given (.arr (_ :: _)) => return true
      | _ => return false
    | none => return false
  | _ => return false

/-- The moment that the sample data carries. -/
def moment : Timestamp := ⟨2026, 1, 1, 0, 0, 0, 0⟩

/-- Fills the database at a path. -/
def fill (path : String) : IO UInt32 := do
  if ← hasProducts path then
    IO.eprintln "Database already has products; skipping seed"
    return 0
  else
    let seed ← IO.rand 0 0x3FFFFFFFFFFFFFFF
    let id (n : Nat) := Text.nat seed ++ "-" ++ Text.nat n
    match (Seed.fill moment id).run {} {} with
    | (.ok _, store) =>
      IO.FS.writeFile path (tables store).text
      return 0
    | (.error e, _) =>
      IO.eprintln e.message
      return 1

end Tillbook.Main

open Tillbook in
/-- Fills the database that the command line or the settings name. -/
def main (args : List String) : IO UInt32 := do
  match Seed.Options.parse {} args with
  | none =>
    IO.print Seed.help
    return 0
  | some options =>
    let defaultPath := (← Main.directory "XDG_CONFIG_HOME" "/.config") ++ "/station.toml"
    let file ← Main.settingsFile (options.settingsPath.getD defaultPath)
    match options.settings ⟨file, ← Main.environment⟩ with
    | .error e =>
      IO.eprintln e.message
      return 1
    | .ok settings =>
      let data : String ← Main.directory "XDG_DATA_HOME" "/.local/share"
      if settings.databasePath.isNone then IO.FS.createDirAll (data : String)
      Main.fill (settings.connection data).path
