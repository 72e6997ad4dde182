/-!
# Decimal digits

Reading and writing of whole numbers in base ten, over lists of ASCII digits.

## Main definitions

* `Digits.value` — the number some digits stand for.
* `Digits.readNat?`, `Digits.readInt?` — digits only; an optional sign and digits.
* `Digits.ofNat`, `Digits.ofInt` — the digits of a number.
-/

namespace Hotplug.Digits

/-- The value of one ASCII digit. -/
def digitValue (c : Char) : Nat :=
  c.toNat - '0'.toNat

/-- The number some digits stand for. -/
def value (cs : List Char) : Nat :=
  cs.foldl (fun acc c => acc * 10 + digitValue c) 0

/-- Reads an unsigned number: one ASCII digit or more, and nothing else. -/
def readNat? (cs : List Char) : Option Nat :=
  if cs.isEmpty || !cs.all Char.isDigit then none else some (value cs)

/-- Takes an optional sign off the front; true means minus. -/
def takeSign : List Char → Bool × List Char
  | '+' :: rest => (false, rest)
  | '-' :: rest => (true, rest)
  | cs => (false, cs)

/-- Reads a number with an optional sign: one ASCII digit or more after it, and nothing else. -/
def readInt? (cs : List Char) : Option Int :=
  (readNat? (takeSign cs).2).map fun n => if (takeSign cs).1 then -(n : Int) else n

/-- Reads an unsigned number that may carry a plus sign. -/
def readPlusNat? (cs : List Char) : Option Nat :=
  match cs with
  | '+' :: rest => readNat? rest
  | _ => readNat? cs

/-- The digits of a number, without leading zeros. -/
def ofNat (n : Nat) : List Char :=
  Nat.toDigits 10 n

/-- The digits of a number, after a minus sign where it is negative. -/
def ofInt (n : Int) : List Char :=
  if n < 0 then '-' :: ofNat n.natAbs else ofNat n.natAbs

/-- The text of a number. -/
def text (n : Int) : String :=
  String.ofList (ofInt n)

/-- The value of a hexadecimal digit of either case. -/
def hexValue? (c : Char) : Option Nat :=
  if c.isDigit then some (c.toNat - '0'.toNat)
  else if 'a' ≤ c && c ≤ 'f' then some (c.toNat - 'a'.toNat + 10)
  else if 'A' ≤ c && c ≤ 'F' then some (c.toNat - 'A'.toNat + 10)
  else none

@[simp] theorem value_nil : value [] = 0 := rfl

end Hotplug.Digits
