import Hotplug.Digits
import Hotplug.Text.Quoted
import Hotplug.Width

/-!
# Socket addresses

An IP address with a port: four octets in decimal, or eight groups in hexadecimal between brackets,
where a run of zero groups may be left out.

## Main definitions

* `SocketAddress` — the addresses.
* `SocketAddress.parse?` — reads one, without resolving names.
* `SocketAddress.text` — the canonical form: lower case, the longest run of zero groups left out.
-/

namespace Hotplug

/-- An address with a port. -/
inductive SocketAddress where
  /-- Four octets. -/
  | v4 (octets : List Nat) (port : Nat)
  /-- Eight groups of 16 bits and a scope. -/
  | v6 (groups : List Nat) (scope : Nat) (port : Nat)
  deriving DecidableEq, Repr, Inhabited

namespace SocketAddress

/-- Takes a decimal number up to `max` off the front. -/
def takeDecimal? (max : Nat) (cs : List Char) : Option (Nat × List Char) :=
  let digits := cs.takeWhile Char.isDigit
  if digits.isEmpty || max < Digits.value digits then none
  else some (Digits.value digits, cs.dropWhile Char.isDigit)

/-- Takes an octet off the front: up to three digits, without a leading zero. -/
def takeOctet? (cs : List Char) : Option (Nat × List Char) :=
  let digits := cs.takeWhile Char.isDigit
  if 3 < digits.length || (1 < digits.length && digits.head? == some '0') then none
  else takeDecimal? 255 cs

/-- Takes a group off the front: up to four hexadecimal digits. -/
def takeGroup? (cs : List Char) : Option (Nat × List Char) :=
  let digits := cs.takeWhile (fun c => (Digits.hexValue? c).isSome)
  if digits.isEmpty || 4 < digits.length then none
  else
    let value := digits.foldl (fun acc c => acc * 16 + (Digits.hexValue? c).getD 0) 0
    some (value, cs.drop digits.length)

/-- Takes one character off the front. -/
def takeChar? (c : Char) : List Char → Option (List Char)
  | d :: rest => if d = c then some rest else none
  | [] => none

/-- Takes four octets with points between them off the front. -/
def takeOctets? (cs : List Char) : Option (List Nat × List Char) := do
  let (a, cs) ← takeOctet? cs
  let cs ← takeChar? '.' cs
  let (b, cs) ← takeOctet? cs
  let cs ← takeChar? '.' cs
  let (c, cs) ← takeOctet? cs
  let cs ← takeChar? '.' cs
  let (d, cs) ← takeOctet? cs
  return ([a, b, c, d], cs)

/-- The two groups of four octets. -/
def octetGroups : List Nat → List Nat
  | [a, b, c, d] => [a * 256 + b, c * 256 + d]
  | _ => []

/-- Takes up to `room` groups with colons between them off the front. Four octets may stand in
place of the last two groups; the flag says that they do. -/
def takeGroups : (room : Nat) → (first : Bool) → List Char → List Nat × Bool × List Char
  | 0, _, cs => ([], false, cs)
  | room + 1, first, cs =>
    match if first then some cs else takeChar? ':' cs with
    | none => ([], false, cs)
    | some body =>
      match if 0 < room then takeOctets? body else none with
      | some (octets, rest) => (octetGroups octets, true, rest)
      | none =>
        match takeGroup? body with
        | none => ([], false, cs)
        | some (group, rest) =>
          let (groups, octets, rest) := takeGroups room false rest
          (group :: groups, octets, rest)

/-- Takes eight groups off the front; two colons stand for a run of zero groups. -/
def takeV6? (cs : List Char) : Option (List Nat × List Char) :=
  let (head, octets, rest) := takeGroups 8 true cs
  if head.length = 8 then some (head, rest)
  else if octets then none
  else
    match rest with
    | ':' :: ':' :: rest =>
      let (tail, _, rest) := takeGroups (7 - head.length) true rest
      some (head ++ List.replicate (8 - head.length - tail.length) 0 ++ tail, rest)
    | _ => none

/-- Reads a port up to the end. -/
def readPort? (cs : List Char) : Option Nat := do
  let cs ← takeChar? ':' cs
  match takeDecimal? 65535 cs with
  | some (port, []) => some port
  | _ => none

/-- Takes a scope, a number after a percent sign, off the front; zero where there is none. -/
def takeScope (cs : List Char) : Nat × List Char :=
  match takeChar? '%' cs with
  | none => (0, cs)
  | some rest => (takeDecimal? (Width.values32 - 1) rest).getD (0, cs)

/-- Reads an address with four octets. -/
def parseV4? (cs : List Char) : Option SocketAddress := do
  let (octets, cs) ← takeOctets? cs
  return .v4 octets (← readPort? cs)

/-- Reads an address with eight groups. -/
def parseV6? (cs : List Char) : Option SocketAddress := do
  let cs ← takeChar? '[' cs
  let (groups, cs) ← takeV6? cs
  let (scope, cs) := takeScope cs
  let cs ← takeChar? ']' cs
  return .v6 groups scope (← readPort? cs)

/-- Reads an address. -/
def parse? (text : String) : Option SocketAddress :=
  (parseV4? text.toList).orElse fun _ => parseV6? text.toList

/-- Octets with points between them. -/
def octetsText (octets : List Nat) : String :=
  ".".intercalate (octets.map fun (n : Nat) => Digits.text n)

/-- How many groups at the front are zero. -/
def zeroRun (groups : List Nat) : Nat :=
  (groups.takeWhile (· == 0)).length

/-- The start and length of the first of the longest runs of zero groups. -/
def longestZeros : List Nat → Nat → Nat × Nat
  | [], start => (start, 0)
  | g :: rest, start =>
    let here := zeroRun (g :: rest)
    let (later, length) := longestZeros rest (start + 1)
    if length ≤ here then (start, here) else (later, length)

/-- Groups in hexadecimal with colons between them. -/
def groupsText (groups : List Nat) : String :=
  ":".intercalate (groups.map fun g => String.ofList (Text.hexDigits g))

/-- An address of eight groups in canonical form. -/
def v6Text (groups : List Nat) : String :=
  match groups with
  | [0, 0, 0, 0, 0, 0xffff, high, low] =>
    "::ffff:" ++ octetsText [high / 256, high % 256, low / 256, low % 256]
  | _ =>
    let (start, length) := longestZeros groups 0
    if 1 < length then
      groupsText (groups.take start) ++ "::" ++ groupsText (groups.drop (start + length))
    else groupsText groups

/-- The canonical form of an address. -/
def text : SocketAddress → String
  | v4 octets port => octetsText octets ++ ":" ++ Digits.text port
  | v6 groups scope port =>
    "[" ++ v6Text groups ++ (if scope = 0 then "" else "%" ++ Digits.text scope) ++ "]:" ++
      Digits.text port

end SocketAddress

end Hotplug
