import Tillbook.Ledger.Commit
import Tillbook.Text.Quoted

/-!
# Ledgers and their sinks

A ledger belongs to a station.  Sinks registered with it are told of each receipt
after the commit, in their order; one that fails changes nothing, neither the receipt nor
what the others are told.

## Main definitions

* `Sink` — someone who is told of receipts.
* `Sink.tellAll` — the sinks are told, up to one that breaks off.
* `Ledger` — a station with its sinks.
* `Ledger.commit` — a commit, with what came of telling the sinks.
-/

namespace Tillbook

/-- Someone who is told of receipts, and may fail to take note.  A sum that leaves the range of
a word breaks the telling off. -/
structure Sink where
  name : String
  deliver : Committed → Except Overflow (Except String Unit)

/-- What came of telling a sink of a receipt. -/
inductive Telling where
  | noted
  | failed
  | brokenOff
  deriving DecidableEq, Repr

/-- What came of telling a sink, with the receipt that it was told of. -/
structure Delivery where
  sink : String
  committed : Committed
  outcome : Telling
  deriving DecidableEq, Repr

namespace Sink

/-- Tells a sink of a receipt. -/
def tell (sink : Sink) (committed : Committed) : Delivery where
  sink := sink.name
  committed := committed
  outcome :=
    match sink.deliver committed with
    | .ok (.ok ()) => .noted
    | .ok (.error _) => .failed
    | .error _ => .brokenOff

/-- Tells sinks of a receipt, one after another.  All of them are told by one task, so nobody is
told after a sink that breaks off. -/
def tellAll (committed : Committed) : List Sink → List Delivery
  | [] => []
  | sink :: rest =>
    let delivery := sink.tell committed
    if delivery.outcome = .brokenOff then [delivery] else delivery :: tellAll committed rest

end Sink

/-- A station with its sinks, in the order in which they are told. -/
structure Ledger where
  station : String
  sinks : List Sink := []

namespace Ledger

/-- The ledger of a station whose name is in form. -/
def ofStation (station : String) : Except Invalid Ledger := do
  Validation.station station
  return ⟨station, []⟩

/-- The ledger with one more sink, told last. -/
def withSink (l : Ledger) (sink : Sink) : Ledger := { l with sinks := l.sinks ++ [sink] }

/-- The ledger in one line, for diagnosis. -/
def describe (l : Ledger) : String :=
  "Ledger \x7b station: " ++ Text.quoted l.station ++ ", sinks: ["
    ++ ", ".intercalate (l.sinks.map fun sink => Text.quoted sink.name) ++ "] \x7d"

/-- Tells the sinks of a receipt in their order. -/
def tell (l : Ledger) (committed : Committed) : List Delivery := Sink.tellAll committed l.sinks

/-- Commits a receipt and then tells the sinks of it. -/
def commit (l : Ledger) (stamp : Stamp) (request : CommitRequest) :
    Action (Committed × List Delivery) := do
  let committed ← Commit.run l.station stamp request
  return (committed, l.tell committed)

end Ledger

end Tillbook
