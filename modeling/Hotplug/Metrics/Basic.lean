import Hotplug.Double.Basic
import Hotplug.Error
import Hotplug.Event
import Hotplug.Table

/-!
# Counting what the driver does

Requests are counted by their method, with their durations, and failed ones also by the code of
their status; plugging and formatting are counted besides.

## Main definitions

* `Histogram` — durations sorted into ranges.
* `Metrics` — the counts; `Metrics.empty` of a driver that has done nothing.
* `Metrics.recordOperation`, `Metrics.recordEvent` — one step of counting.
* `Metrics.observe` — what one answered request adds.
-/

namespace Hotplug

/-- The upper ends of the ranges of durations, in seconds. -/
def bucketBounds : List Double :=
  [.ofDecimal false 5 (-3), .ofDecimal false 1 (-2), .ofDecimal false 25 (-3),
    .ofDecimal false 5 (-2), .ofDecimal false 1 (-1), .ofDecimal false 25 (-2),
    .ofDecimal false 5 (-1), .ofNat 1, .ofDecimal false 25 (-1), .ofNat 5, .ofNat 10]

/-- Durations sorted into ranges. -/
structure Histogram where
  /-- For each bound, how many durations are not above it. -/
  upTo : List Nat := bucketBounds.map fun _ => 0
  /-- The sum of the durations. -/
  sum : Double := .zero false
  /-- How many durations there are. -/
  count : Nat := 0
  deriving DecidableEq, Repr, Inhabited

/-- The histogram with one duration more. -/
def Histogram.add (h : Histogram) (seconds : Double) : Histogram :=
  { upTo := (bucketBounds.zip h.upTo).map fun (bound, n) =>
      if seconds.le bound then n + 1 else n
    sum := h.sum.add seconds
    count := h.count + 1 }

/-- The counts of a driver. -/
structure Metrics where
  /-- Requests, by method. -/
  operations : Table Nat := .empty
  /-- Their durations, by method. -/
  durations : Table Histogram := .empty
  /-- Failed requests, by the name of the status code and by method. -/
  errors : Table (Table Nat) := .empty
  /-- Plugging and unplugging, by action. -/
  hotplugs : Table Nat := .empty
  /-- Formatted devices, by the type of filesystem. -/
  formats : Table Nat := .empty
  deriving DecidableEq, Repr, Inhabited

/-- The count of a key, zero where it was never counted. -/
def countOf (t : Table Nat) (key : String) : Nat :=
  (t.get? key).getD 0

/-- The table with one more of a key. -/
def countUp (t : Table Nat) (key : String) : Table Nat :=
  t.insert key (countOf t key + 1)

namespace Metrics

/-- The counts of a driver that has done nothing. -/
def empty : Metrics := {}

/-- Counts a request of a method that took some seconds and maybe failed. -/
def recordOperation (m : Metrics) (method : String) (seconds : Double) (error : Option Code) :
    Metrics :=
  { m with
    operations := countUp m.operations method
    durations := m.durations.insert method
      (((m.durations.get? method).getD {}).add seconds)
    errors :=
      match error with
      | none => m.errors
      | some code =>
        m.errors.insert code.name
          (countUp ((m.errors.get? code.name).getD .empty) method) }

/-- Counts plugging or unplugging. -/
def recordHotplug (m : Metrics) (action : String) : Metrics :=
  { m with hotplugs := countUp m.hotplugs action }

/-- Counts a formatted device. -/
def recordFormat (m : Metrics) (fsType : String) : Metrics :=
  { m with formats := countUp m.formats fsType }

/-- Counts an event. -/
def recordEvent (m : Metrics) : Event → Metrics
  | .attached => m.recordHotplug "attach"
  | .detached => m.recordHotplug "detach"
  | .formatted fsType => m.recordFormat fsType

/-- Counts what one answered request adds: its events, if it succeeded, and then itself. A request
without a method is not counted. -/
def observe {α : Type} (m : Metrics) (method : Option String) (seconds : Double)
    (answer : Except Status (Outcome α)) : Metrics :=
  match method with
  | none => m
  | some method =>
    match answer with
    | .ok outcome =>
      (outcome.events.foldl recordEvent m).recordOperation method seconds none
    | .error status => m.recordOperation method seconds (some status.code)

end Metrics

end Hotplug
