import Tillbook.Settings.Source
import Tillbook.Validation

/-!
# Settings of a station

The name of the station, the shop, and where its database is.

## Main definitions

* `StationSettings.load` — the settings from file and environment, checked.
* `StationSettings.connection` — how the database is opened.
-/

namespace Tillbook

/-- The settings of a station. -/
structure StationSettings where
  stationId : String := "POS-01"
  shopName : String := ""
  databasePath : Option String := none
  maxConnections : Nat := 5
  /-- How long a statement waits for the lock, in milliseconds. -/
  busyTimeout : Nat := 5000
  deriving DecidableEq, Repr

/-- How the database is opened.  Times are in milliseconds. -/
structure Connection where
  path : String
  maxConnections : Nat
  minConnections : Nat
  connectTimeout : Nat
  idleTimeout : Option Nat
  busyTimeout : Nat
  runMigrations : Bool
  deriving DecidableEq, Repr

namespace StationSettings

/-- The settings with those of the station section. -/
def ofStation? (s : StationSettings) (part : Toml) : Option StationSettings := do
  let f ← part.fields? ["id", "shop_name"]
  return { s with
    stationId := ← Toml.orElse s.stationId Toml.str? (f "id")
    shopName := ← Toml.orElse s.shopName Toml.str? (f "shop_name") }

/-- The settings with those of the database section. -/
def ofDatabase? (s : StationSettings) (part : Toml) : Option StationSettings := do
  let f ← part.fields? ["path", "max_connections", "busy_timeout_ms"]
  return { s with
    databasePath := ← Toml.orElse none (fun v => (Toml.str? v).map some) (f "path")
    maxConnections :=
      ← Toml.orElse s.maxConnections (Toml.nat? (UInt32.size - 1)) (f "max_connections")
    busyTimeout := ← Toml.orElse s.busyTimeout (Toml.nat? (UInt64.size - 1)) (f "busy_timeout_ms") }

/-- The settings of a file. -/
def ofToml? (file : Toml) : Option StationSettings := do
  let f ← file.fields? ["station", "database"]
  let s ← Toml.orElse {} (ofStation? {}) (f "station")
  Toml.orElse s (ofDatabase? s) (f "database")

/-- The settings with those of the environment. -/
def withEnvironment (s : StationSettings) (environment : String → Option String) :
    StationSettings :=
  { s with
    stationId := (environment "DUKA_STATION_ID").getD s.stationId
    shopName := (environment "DUKA_SHOP_NAME").getD s.shopName
    databasePath := (environment "DUKA_DB_PATH").or s.databasePath }

/-- The settings name a station in form and leave at least one connection. -/
def check (s : StationSettings) : Except SettingsFault Unit :=
  match Validation.station s.stationId with
  | .error fault => .error (.rule fault.message)
  | .ok () =>
    if s.maxConnections = 0 then .error (.rule "max_connections must be greater than 0")
    else .ok ()

/-- The settings from file and environment, checked. -/
def load (source : SettingsSource) : Except StoreError StationSettings :=
  Except.mapError .badSettings do
    let s := (← source.file.read {} ofToml?).withEnvironment source.environment
    check s
    return s

/-- The settings from file and environment, or the defaults if those are faulty. -/
def loadOrDefault (source : SettingsSource) : StationSettings :=
  match load source with
  | .ok s => s
  | .error _ => {}

/-- How the database is opened; without a path it is in `dataDirectory`. -/
def connection (s : StationSettings) (dataDirectory : String) : Connection :=
  { path := s.databasePath.getD (dataDirectory ++ "/duka.db")
    maxConnections := s.maxConnections
    minConnections := 1
    connectTimeout := 30000
    idleTimeout := some 600000
    busyTimeout := s.busyTimeout
    runMigrations := true }

end StationSettings

end Tillbook
