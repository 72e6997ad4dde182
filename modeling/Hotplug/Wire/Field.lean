import Hotplug.Text.Utf8
import Hotplug.Width

/-!
# The wire form of messages

A message travels as a sequence of fields, each a key and a value: a number of variable length, a
number of fixed length, a counted run of bytes, or a group of fields between two marks. The key
holds the field's number and which of these follows.

## Main definitions

* `Wire.takeVarint?` — a number of variable length.
* `Wire.Value`, `Wire.Field` — the values; groups are skipped and keep nothing.
* `Wire.fields?` — the fields of a message.
-/

namespace Hotplug.Wire

/-- The value of a field. -/
inductive Value where
  /-- A number of variable length. -/
  | varint (n : Nat)
  /-- A counted run of bytes. -/
  | bytes (content : List UInt8)
  /-- Anything that no field of ours has. -/
  | other
  deriving DecidableEq, Repr, Inhabited

/-- A field: its number and its value. -/
structure Field where
  number : Nat
  value : Value
  deriving DecidableEq, Repr, Inhabited

/-- Takes a number of variable length: seven bits in each byte, the low ones first, and at most ten
bytes, of which the last has one bit. `place` counts the bytes taken. -/
def takeVarintFrom : (room : Nat) → (place : Nat) → List UInt8 → Option (Nat × List UInt8)
  | 0, _, _ => none
  | _, _, [] => none
  | room + 1, place, b :: rest =>
    if b < 0x80 then
      if place = 9 && 2 ≤ b then none else some (b.toNat * Nat.pow 128 place, rest)
    else
      (takeVarintFrom room (place + 1) rest).map fun (n, rest) =>
        ((b.toNat - 128) * Nat.pow 128 place + n, rest)

/-- Takes a number of variable length. -/
def takeVarint? (bytes : List UInt8) : Option (Nat × List UInt8) :=
  takeVarintFrom 10 0 bytes

/-- Takes a key: a positive field number and one of six kinds, in 32 bits together. -/
def takeKey? (bytes : List UInt8) : Option (Nat × Nat × List UInt8) := do
  let (key, rest) ← takeVarint? bytes
  if key < Width.values32 && key % 8 < 6 && 0 < key / 8 then some (key / 8, key % 8, rest) else none

/-- Takes a counted run of bytes. -/
def takeRun? (bytes : List UInt8) : Option (List UInt8 × List UInt8) := do
  let (count, rest) ← takeVarint? bytes
  if count ≤ rest.length then some (rest.take count, rest.drop count) else none

/-- Takes a run of known length. -/
def takeFixed? (count : Nat) (bytes : List UInt8) : Option (List UInt8) :=
  if count ≤ bytes.length then some (bytes.drop count) else none

mutual

/-- Takes the value of a field of some kind. `depth` bounds the groups inside one another, and
`fuel` the steps. -/
def takeValue : (fuel depth : Nat) → (number kind : Nat) → List UInt8 →
    Option (Value × List UInt8)
  | 0, _, _, _, _ => none
  | fuel + 1, depth, number, kind, bytes =>
    if kind = 0 then (takeVarint? bytes).map fun (n, rest) => (.varint n, rest)
    else if kind = 1 then (takeFixed? 8 bytes).map fun rest => (.other, rest)
    else if kind = 2 then (takeRun? bytes).map fun (run, rest) => (.bytes run, rest)
    else if kind = 5 then (takeFixed? 4 bytes).map fun rest => (.other, rest)
    else if kind = 3 then
      match depth with
      | 0 => none
      | depth + 1 => (skipGroup fuel depth number bytes).map fun rest => (.other, rest)
    else none

/-- Skips the fields of a group up to the mark that ends it, which carries its number. -/
def skipGroup : (fuel depth : Nat) → (number : Nat) → List UInt8 → Option (List UInt8)
  | 0, _, _, _ => none
  | fuel + 1, depth, number, bytes =>
    match takeKey? bytes with
    | none => none
    | some (inner, kind, rest) =>
      if kind = 4 then (if inner = number then some rest else none)
      else
        match takeValue fuel depth inner kind rest with
        | none => none
        | some (_, rest) => skipGroup fuel depth number rest

end

/-- Reads fields up to the end. -/
def fieldsFrom : (fuel depth : Nat) → List UInt8 → Option (List Field)
  | _, _, [] => some []
  | 0, _, _ => none
  | fuel + 1, depth, bytes => do
    let (number, kind, rest) ← takeKey? bytes
    let (value, rest) ← takeValue fuel depth number kind rest
    let fields ← fieldsFrom fuel depth rest
    return ⟨number, value⟩ :: fields

/-- The most groups inside one another. -/
def maxDepth : Nat := 100

/-- The fields of a message. Every step takes at least a byte. -/
def fields? (bytes : List UInt8) : Option (List Field) :=
  fieldsFrom (2 * bytes.length + 1) maxDepth bytes

end Hotplug.Wire
