import Tillbook.Money
import Tillbook.Settings.Source
import Tillbook.Text.Blank
import Tillbook.WebAddress

/-!
# Settings of tax submission

Whether invoices are submitted, where, in whose name, and at which rate.

## Main definitions

* `TaxError` — why an invoice is not submitted.
* `TaxSettings.check` — whether the settings can be used.
* `TaxSettings.load` — the settings from file and environment, checked.
-/

namespace Tillbook

/-- Why an invoice is not submitted. -/
inductive TaxError where
  | badSettings (fault : SettingsFault)
  | badAddress (detail : String)
  /-- The endpoint cannot be reached. -/
  | unreachable (detail : String)
  | rejected (invoiceNumber : String) (status : Nat) (body : String)
  | database (why : StoreError)
  deriving DecidableEq, Repr

namespace TaxError

/-- The wording of a failure. -/
def message : TaxError → String
  | badSettings fault => "Invalid tax configuration: " ++ fault.message
  | badAddress detail => "Invalid submission URL: " ++ detail
  | unreachable detail => "HTTP request failed: " ++ detail
  | rejected number status body =>
    "Tax endpoint rejected invoice " ++ number ++ " with status " ++ Text.nat status ++ ": " ++ body
  | database why => "Database error: " ++ why.message

/-- Whether the same submission may succeed when it is tried again: the endpoint
was out of reach, in trouble of its own or too busy, or the store was. -/
def retryable : TaxError → Bool
  | unreachable _ => true
  | rejected _ status _ => 500 ≤ status || status == 429
  | database _ => true
  | _ => false

end TaxError

/-- The settings of tax submission. -/
structure TaxSettings where
  isEnabled : Bool := false
  url : Option String := none
  sellerPin : String := ""
  /-- How long a submission may take, in seconds. -/
  timeout : Nat := 10
  rate : TaxRate := .standard
  deriving DecidableEq, Repr

namespace TaxSettings

/-- The schemes that invoices are submitted by. -/
def schemes : List String := ["http", "https"]

/-- The address has a scheme that invoices are submitted by. -/
def checkUrl (url : String) : Except TaxError Unit :=
  match WebAddress.scheme? url with
  | .error fault => .error (.badAddress fault.message)
  | .ok scheme =>
    if schemes.contains scheme then .ok ()
    else .error (.badAddress ("unsupported scheme '" ++ scheme ++ "'"))

/-- The settings can be used.  Settings that are not enabled are not looked at. -/
def check (s : TaxSettings) : Except TaxError Unit := do
  let rule (text : String) : Except TaxError Unit := .error (.badSettings (.rule text))
  if s.isEnabled then
    match s.url with
    | some url => checkUrl url
    | none => .ok ()
    if Text.Blank s.sellerPin then
      rule "seller_pin is required when tax submission is enabled"
    if s.timeout = 0 then rule "timeout_secs must be greater than 0"
    if 10000 < s.rate.bps then
      rule ("vat_rate_bps " ++ Text.nat s.rate.bps.toNat ++ " is above 100%")

/-- Invoices are submitted: it is enabled and there is an address. -/
def isActive (s : TaxSettings) : Bool := s.isEnabled && s.url.isSome

/-- The settings of the tax section of a file. -/
def ofSection? (part : Toml) : Option TaxSettings := do
  let f ← part.fields?
    ["enabled", "submission_url", "seller_pin", "timeout_secs", "vat_rate_bps"]
  return {
    isEnabled := ← Toml.orElse false Toml.bool? (f "enabled")
    url := ← Toml.orElse none (fun v => (Toml.str? v).map some) (f "submission_url")
    sellerPin := ← Toml.orElse "" Toml.str? (f "seller_pin")
    timeout := ← Toml.orElse 10 (Toml.nat? (UInt64.size - 1)) (f "timeout_secs")
    rate := ← Toml.orElse .standard
      (fun v => (Toml.nat? (UInt32.size - 1) v).map fun n => ⟨UInt32.ofNat n⟩) (f "vat_rate_bps") }

/-- The settings of a file. -/
def ofToml? (file : Toml) : Option TaxSettings := do
  let f ← file.fields? ["tax"]
  Toml.orElse {} ofSection? (f "tax")

/-- The settings of a text, not yet checked. -/
def ofText (text : String) : Except TaxError TaxSettings :=
  (SettingsFile.contents text).read {} ofToml? |>.mapError .badSettings

/-- The words that switch submission on. -/
def onWords : List String := ["1", "true", "yes", "on"]

/-- The settings with those of the environment.  A blank address is none. -/
def withEnvironment (s : TaxSettings) (environment : String → Option String) : TaxSettings :=
  { s with
    url := match (environment "DUKA_TAX_URL").map Text.trim with
      | some url => if url.isEmpty then none else some url
      | none => s.url
    sellerPin := ((environment "DUKA_KRA_PIN").map Text.trim).getD s.sellerPin
    isEnabled := match environment "DUKA_TAX_ENABLED" with
      | some word =>
        onWords.contains (String.ofList ((Text.trim word).toList.map Char.toLower))
      | none => s.isEnabled }

/-- The settings from file and environment, checked. -/
def load (source : SettingsSource) : Except TaxError TaxSettings := do
  let s ← (source.file.read {} ofToml?).mapError .badSettings
  let s := s.withEnvironment source.environment
  check s
  return s

/-- The settings from file and environment, or the defaults if those are faulty. -/
def loadOrDefault (source : SettingsSource) : TaxSettings :=
  match load source with
  | .ok s => s
  | .error _ => {}

end TaxSettings

end Tillbook
