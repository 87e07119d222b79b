import Tillbook.Payment
import Tillbook.Text.Digits

/-!
# Failures

Why an operation of the ledger does not happen.  There are three layers: a
request that is not well formed, a business rule that forbids it, and a store
that cannot carry it out.  Each cause is a constructor; its wording is in one
place.

## Main definitions

* `Invalid` — a request that is not well formed.
* `Refusal` — a business rule that forbids it.
* `StoreError` — a store that cannot carry it out.
* `LedgerError` — any of them.
-/

namespace Tillbook

/-- What is wrong with the form of a request. -/
inductive Invalid where
  | required (field : String)
  | tooLong (field : String) (max : Nat)
  | outOfRange (field : String) (min max : Int64)
  | mustBePositive (field : String)
  | mustNotBeNegative (field : String)
  | badFormat (field reason : String)
  | mismatch (field : String) (expected actual : Int64)
  deriving DecidableEq, Repr

/-- The wording of a fault in the form. -/
def Invalid.message : Invalid → String
  | .required field => field ++ " is required"
  | .tooLong field max => field ++ " must be at most " ++ Text.nat max ++ " characters"
  | .outOfRange field min max =>
    field ++ " must be between " ++ Text.int min.toInt ++ " and " ++ Text.int max.toInt
  | .mustBePositive field => field ++ " must be positive"
  | .mustNotBeNegative field => field ++ " must not be negative"
  | .badFormat field reason => field ++ " has invalid format: " ++ reason
  | .mismatch field expected actual =>
    field ++ " is " ++ Text.int actual.toInt ++ ", expected " ++ Text.int expected.toInt

/-- The business rule that forbids an operation. -/
inductive Refusal where
  | invalidStaff (id : String)
  | customerNotFound (id : String)
  | customerRequired
  | debtLimitExceeded (customerId : String) (balance attempted limit : Money)
  | productNotFound (id : String)
  | shiftNotFound (id : String)
  | shiftAlreadyClosed (id : String)
  | receiptNotFound (id : String)
  | paymentMove (source target : PaymentStatus)
  | invalidPayment (reason : String)
  | invalid (fault : Invalid)
  deriving DecidableEq, Repr

/-- The wording of a refusal. -/
def Refusal.message : Refusal → String
  | .invalidStaff id => "Invalid staff: " ++ id
  | .customerNotFound id => "Customer not found: " ++ id
  | .customerRequired => "Credit payment requires a customer"
  | .debtLimitExceeded id balance attempted limit =>
    "Debt limit exceeded for customer " ++ id ++ ": balance " ++ Text.int balance.toInt
      ++ ", attempted " ++ Text.int attempted.toInt ++ ", limit " ++ Text.int limit.toInt
  | .productNotFound id => "Product not found: " ++ id
  | .shiftNotFound id => "Shift not found: " ++ id
  | .shiftAlreadyClosed id => "Shift " ++ id ++ " is already closed"
  | .receiptNotFound id => "Receipt not found: " ++ id
  | .paymentMove source target =>
    "Cannot move payment from " ++ source.name ++ " to " ++ target.name
  | .invalidPayment reason => "Invalid payment: " ++ reason
  | .invalid fault => "Validation error: " ++ fault.message

/-- What is wrong with a file of settings. -/
inductive SettingsFault where
  /-- The file cannot be read. -/
  | unreadable (detail : String)
  /-- The file is no well-formed settings text, or a setting has the wrong type. -/
  | malformed (detail : String)
  /-- The settings break a rule. -/
  | rule (text : String)
  deriving DecidableEq, Repr

/-- The wording of a fault in the settings. -/
def SettingsFault.message : SettingsFault → String
  | .unreadable detail => detail
  | .malformed detail => detail
  | .rule text => text

/-- Why the store cannot carry out an operation. -/
inductive StoreError where
  | notFound (entity id : String)
  | duplicate (field value : String)
  | foreignKey (detail : String)
  | conflict (detail : String)
  | connectionFailed (detail : String)
  | migrationFailed (detail : String)
  | queryFailed (detail : String)
  | corruptRow (entity id reason : String)
  | poolExhausted
  | badSettings (fault : SettingsFault)
  | internal (detail : String)
  deriving DecidableEq, Repr

namespace StoreError

/-- The wording of a failure of the store. -/
def message : StoreError → String
  | notFound entity id => entity ++ " not found: " ++ id
  | duplicate field value => "Duplicate " ++ field ++ ": '" ++ value ++ "' already exists"
  | foreignKey detail => "Foreign key violation: " ++ detail
  | conflict detail => "Write conflict: " ++ detail
  | connectionFailed detail => "Connection failed: " ++ detail
  | migrationFailed detail => "Migration failed: " ++ detail
  | queryFailed detail => "Query failed: " ++ detail
  | corruptRow entity id reason => "Corrupt " ++ entity ++ " row " ++ id ++ ": " ++ reason
  | poolExhausted => "Connection pool exhausted"
  | badSettings fault => "Configuration error: " ++ fault.message
  | internal detail => "Internal database error: " ++ detail

/-- Whether the same operation may succeed when it is tried again. -/
def retryable : StoreError → Bool
  | conflict _ => true
  | poolExhausted => true
  | _ => false

/-- A row that had to be there is not. -/
def rowMissing : StoreError := notFound "Record" "unknown"

/-- No connection is handed out any more. -/
def poolClosed : StoreError := connectionFailed "Pool is closed"

/-- Another transaction holds the lock, or has moved on. -/
def locked : StoreError := conflict "database is locked"

/-- A table that has not been created. -/
def noTable (table : String) : StoreError := queryFailed ("no such table: " ++ table)

/-- A rule of the schema that a row breaks. -/
def checkFailed (rule : String) : StoreError := queryFailed ("CHECK constraint failed: " ++ rule)

/-- A reference to a row that does not exist. -/
def danglingReference : StoreError := foreignKey "FOREIGN KEY constraint failed"

/-- A taken value of a unique column, where the value itself is not reported. -/
def taken (column : String) : StoreError := duplicate column "unknown"

/-- An answer of the database that makes no sense. -/
def unexpectedData (detail : String) : StoreError :=
  internal ("encountered unexpected or invalid data: " ++ detail)

/-- A migration that was applied once is no longer known. -/
def migrationMissing (version : Int) : StoreError :=
  migrationFailed ("migration " ++ Text.int version
    ++ " was previously applied but is missing in the resolved migrations")

/-- A stored number that has left the range of a word. -/
def outOfRange (column : String) : StoreError :=
  internal ("column " ++ column ++ " holds a number outside the range of a word")

end StoreError

/-- Why an operation of the ledger does not happen. -/
inductive LedgerError where
  | refused (why : Refusal)
  | store (why : StoreError)
  /-- A sum left the range of a word. -/
  | overflow (why : Overflow)
  deriving DecidableEq, Repr

namespace LedgerError

/-- The wording of a failure. -/
def message : LedgerError → String
  | refused why => why.message
  | store why => why.message
  | overflow why => why.message

/-- Whether the same operation may succeed when it is tried again. -/
def retryable : LedgerError → Bool
  | store why => why.retryable
  | _ => false

/-- The business rule behind the failure, if there is one. -/
def refusal? : LedgerError → Option Refusal
  | refused why => some why
  | _ => none

end LedgerError

end Tillbook
