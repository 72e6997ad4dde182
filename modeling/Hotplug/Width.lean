/-!
# Numbers of fixed width

Whole numbers have no bounds of their own here. Where a format or an argument has so many bits, with
or without a sign, its bounds are these.

## Main definitions

* `Width.values32`, `Width.values64` — how many numbers so many bits hold.
* `Width.inInt32`, `Width.inInt64` — the ranges of numbers with a sign.
-/

namespace Hotplug.Width

/-- How many numbers 32 bits hold. -/
def values32 : Nat := 4294967296

/-- How many numbers 64 bits hold. -/
def values64 : Nat := 18446744073709551616

/-- The least number of 32 bits with a sign. -/
def minInt32 : Int := -2147483648

/-- The largest number of 32 bits with a sign. -/
def maxInt32 : Int := 2147483647

/-- The least number of 64 bits with a sign. -/
def minInt64 : Int := -9223372036854775808

/-- The largest number of 64 bits with a sign. -/
def maxInt64 : Int := 9223372036854775807

/-- The range of numbers of 32 bits with a sign. -/
def inInt32 (n : Int) : Bool :=
  minInt32 ≤ n && n ≤ maxInt32

/-- The range of numbers of 64 bits with a sign. -/
def inInt64 (n : Int) : Bool :=
  minInt64 ≤ n && n ≤ maxInt64

end Hotplug.Width
