import Hotplug.Error
import Hotplug.Table
import Hotplug.Wire.Field

/-!
# Reading messages from fields

A message has named fields, each with a number and a type. Fields may come in any order and more
than once: of scalars the last counts, repeated fields collect, and a message that comes in parts
is the message of all its fields in order. A field of a known number and the wrong kind makes the
whole message unreadable; fields of unknown numbers are passed over.

## Main definitions

* `Wire.text?`, `Wire.int64?`, `Wire.int32?`, `Wire.bool?` — scalars.
* `Wire.texts?`, `Wire.messages?`, `Wire.textTable?` — repeated fields and maps.
* `Wire.message?` — a message inside a message, which may be absent.
* `Wire.oneOf?` — the last of two alternatives.
* `Wire.dispatch` — the request of a method path, from its bytes.
-/

namespace Hotplug.Wire

/-- The values of the fields with a number. -/
def valuesOf (number : Nat) (fields : List Field) : List Value :=
  (fields.filter (·.number == number)).map (·.value)

/-- A value that is a number of variable length. -/
def Value.varint? : Value → Option Nat
  | .varint n => some n
  | _ => none

/-- A value that is a counted run of bytes. -/
def Value.bytes? : Value → Option (List UInt8)
  | .bytes content => some content
  | _ => none

/-- A value that is text. -/
def Value.text? (v : Value) : Option String :=
  v.bytes?.bind Text.decode?

/-- The last number of variable length; zero where there is none. -/
def varint? (number : Nat) (fields : List Field) : Option Nat :=
  ((valuesOf number fields).mapM Value.varint?).map fun all => all.getLast?.getD 0

/-- A signed 64-bit number. -/
def int64? (number : Nat) (fields : List Field) : Option Int :=
  (varint? number fields).map fun n => Int.bmod n Width.values64

/-- A signed 32-bit number: the low bits of what is sent. -/
def int32? (number : Nat) (fields : List Field) : Option Int :=
  (varint? number fields).map fun n => Int.bmod n Width.values32

/-- A truth value. -/
def bool? (number : Nat) (fields : List Field) : Option Bool :=
  (varint? number fields).map (· != 0)

/-- All texts of a number, in order. -/
def texts? (number : Nat) (fields : List Field) : Option (List String) :=
  (valuesOf number fields).mapM Value.text?

/-- The last text; empty where there is none. -/
def text? (number : Nat) (fields : List Field) : Option String :=
  (texts? number fields).map fun all => all.getLast?.getD ""

/-- The fields of every message of a number, in order. -/
def runs? (number : Nat) (fields : List Field) : Option (List (List Field)) :=
  (valuesOf number fields).mapM fun v => v.bytes?.bind fields?

/-- All messages of a number, in order. -/
def messages? {α : Type} (number : Nat) (read? : List Field → Option α) (fields : List Field) :
    Option (List α) :=
  (runs? number fields).bind (·.mapM read?)

/-- The message of a number, from all its parts in order; it may be absent. -/
def message? {α : Type} (number : Nat) (read? : List Field → Option α) (fields : List Field) :
    Option (Option α) :=
  match runs? number fields with
  | none => none
  | some [] => some none
  | some parts => (read? parts.flatten).map some

/-- One entry of a map: a key and a value, each empty where it is absent. -/
def entry? (fields : List Field) : Option (String × String) := do
  return (← text? 1 fields, ← text? 2 fields)

/-- A map from text to text; of several entries with one key the last counts. -/
def textTable? (number : Nat) (fields : List Field) : Option (Table String) :=
  (messages? number entry? fields).map Table.ofList

/-- The parts of the alternative that came last, since it came after the other; true means the
first alternative. Every part must be readable on its own. -/
def lastAlternative? {α β : Type} (first second : Nat) (readFirst? : List Field → Option α)
    (readSecond? : List Field → Option β) :
    List Field → Option (Bool × List Field) → Option (Option (Bool × List Field))
  | [], found => some found
  | f :: rest, found =>
    let isFirst := f.number == first
    if isFirst || f.number == second then
      match f.value.bytes?.bind fields? with
      | none => none
      | some part =>
        let readable := if isFirst then (readFirst? part).isSome else (readSecond? part).isSome
        let before :=
          match found with
          | some (kind, fields) => if kind = isFirst then fields else []
          | none => []
        if readable then
          lastAlternative? first second readFirst? readSecond? rest (some (isFirst, before ++ part))
        else none
    else lastAlternative? first second readFirst? readSecond? rest found

/-- The one of two alternatives that came last; neither may have come. -/
def oneOf? {α : Type} (first second : Nat) (readFirst? readSecond? : List Field → Option α)
    (fields : List Field) : Option (Option α) :=
  match lastAlternative? first second readFirst? readSecond? fields none with
  | none => none
  | some none => some none
  | some (some (true, parts)) => (readFirst? parts).map some
  | some (some (false, parts)) => (readSecond? parts).map some

/-- The request of a method path, from its bytes. A path without a method is not served, and a
message that is not read is a failure of the server. -/
def dispatch {α : Type} (service : String) (methods : List (String × (List Field → Option α)))
    (path : String) (bytes : List UInt8) : Except Status α :=
  match methods.find? fun m => path == "/" ++ service ++ "/" ++ m.1 with
  | none => .error ⟨.unimplemented, ""⟩
  | some (_, read?) =>
    match (fields? bytes).bind read? with
    | some request => .ok request
    | none => .error ⟨.internal, "failed to decode Protobuf message"⟩

end Hotplug.Wire
