import Tillbook.ReceiptNumber
import Tillbook.Store.Action

/-!
# Counters

Each station numbers its receipts by a counter of its own.
-/

namespace Tillbook

/-- The last number given out, as long as it can be read. -/
def Counter.read (c : Counter) : Except StoreError Int64 :=
  match c.last.word? with
  | some n => .ok n
  | none => .error (.outOfRange "last_number")

namespace Counters

/-- The last number that a station has given out; zero before the first. -/
def last (station : String) : Action Int64 :=
  .read "invoice_sequences" fun s =>
    match s.counter? station with
    | some c => c.read
    | none => .ok 0

/-- The store with a counter for a station. -/
def ensured (station : String) (s : Store) : Store :=
  if (s.counter? station).isSome then s
  else { s with counters := s.counters ++ [⟨station, .exact 0⟩] }

/-- Makes a counter for a station that has none. -/
def ensure (station : String) : Action Unit :=
  .put "invoice_sequences" fun s => .ok ((), ensured station s)

/-- The store with the counter of a station moved on by one. -/
def advance (station : String) (s : Store) : Store :=
  let move (c : Counter) := if c.station == station then { c with last := c.last.add 1 } else c
  { s with counters := s.counters.map move }

/-- Gives out the next number of a station that has a counter. -/
def allocate (station : String) : Action Int64 :=
  .write "invoice_sequences" fun s =>
    let moved := advance station s
    match moved.counter? station with
    | none => (.error (.notFound "Invoice sequence" station), s)
    | some c => (c.read, moved)

/-- Gives out the next receipt number of a station. -/
def nextReceiptNumber (station : String) : Action String := do
  ensure station
  return ReceiptNumber.format station (← allocate station)

end Counters

end Tillbook
