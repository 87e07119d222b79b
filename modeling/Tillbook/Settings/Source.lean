import Tillbook.Failure
import Tillbook.Toml.Document

/-!
# Where settings come from

Settings come from a file that need not be there, and from named values of the
environment, which win over the file.
-/

namespace Tillbook

/-- The state of a settings file. -/
inductive SettingsFile where
  | missing
  | unreadable (detail : String)
  | contents (text : String)
  deriving DecidableEq, Repr

/-- A file of settings and an environment. -/
structure SettingsSource where
  file : SettingsFile
  environment : String → Option String

namespace SettingsFile

/-- The settings in a file, read from its table by `f`; `defaults` if there is no
file. -/
def read (file : SettingsFile) (defaults : α) (f : Toml → Option α) : Except SettingsFault α :=
  match file with
  | missing => .ok defaults
  | unreadable detail => .error (.unreadable detail)
  | contents text =>
    match Toml.read? text with
    | none => .error (.malformed "no well-formed settings text")
    | some table =>
      match f table with
      | some a => .ok a
      | none => .error (.malformed "a setting of the wrong type")

end SettingsFile

end Tillbook
