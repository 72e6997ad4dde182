import Hotplug.Digits
import Hotplug.Double.Text
import Hotplug.Json.Basic
import Hotplug.Text.Cut
import Hotplug.Timestamp
import Hotplug.Width

/-!
# TOML scalars

Texts stand in quotes, single or triple, of either kind. Everything else is a word: a truth value, a
number, or a time. A time has no type of its own here and is the text of itself.

## Main definitions

* `Toml.takeText?` — reads a text in quotes.
* `Toml.wordValue?` — the value of a word.
-/

namespace Hotplug.Toml

/-! ### Texts -/

/-- Whether a character may stand in a text on one line. -/
def isTextChar (c : Char) : Bool :=
  c = '\t' || (' ' ≤ c && c ≠ '\x7f')

/-- The character of a short escape. -/
def shortEscape? (c : Char) : Option Char :=
  [('b', '\x08'), ('t', '\t'), ('n', '\n'), ('f', '\x0c'), ('r', '\r'), ('e', '\x1b'),
    ('"', '"'), ('\\', '\\')].lookup c

/-- The character with a number in hexadecimal. -/
def hexChar? (digits : List Char) : Option Char := do
  let values ← digits.mapM Digits.hexValue?
  let n := values.foldl (fun acc d => acc * 16 + d) 0
  if n < 0xd800 || (0xdfff < n && n < 0x110000) then some (Char.ofNat n) else none

/-- Reads an escape after its backslash. -/
def takeEscape? : List Char → Option (Char × List Char)
  | [] => none
  | c :: rest =>
    let count := if c = 'x' then 2 else if c = 'u' then 4 else if c = 'U' then 8 else 0
    if 0 < count then
      if count ≤ rest.length then (hexChar? (rest.take count)).map fun e => (e, rest.drop count)
      else none
    else (shortEscape? c).map fun e => (e, rest)

/-- Whether a character may stand between words of a line. -/
def isBlank (c : Char) : Bool :=
  c = ' ' || c = '\t'

/-- The rest after a backslash that ends a line: blanks and line ends do not count. -/
def afterJoin? (cs : List Char) : Option (List Char) :=
  let rest := cs.dropWhile isBlank
  if rest.head? = some '\n' then some (rest.dropWhile fun c => isBlank c || c = '\n') else none

/-- Reads a text on one line up to its quote. -/
def takeLine? (quote : Char) : (fuel : Nat) → List Char → Option (List Char × List Char)
  | 0, _ => none
  | _, [] => none
  | fuel + 1, c :: rest =>
    if c = quote then some ([], rest)
    else if c = '\\' && quote = '"' then do
      let (e, rest) ← takeEscape? rest
      let (cs, rest) ← takeLine? quote fuel rest
      return (e :: cs, rest)
    else if isTextChar c then (takeLine? quote fuel rest).map fun (cs, rest) => (c :: cs, rest)
    else none

/-- Reads a text on several lines up to its three quotes; one or two more right before them belong
to it. -/
def takeLines? (quote : Char) : (fuel : Nat) → List Char → Option (List Char × List Char)
  | 0, _ => none
  | _, [] => none
  | fuel + 1, c :: rest =>
    let quotes := (c :: rest).takeWhile (· = quote)
    if 3 ≤ quotes.length then
      if quotes.length ≤ 5 then
        some (List.replicate (quotes.length - 3) quote, (c :: rest).drop quotes.length)
      else none
    else if c = '\\' && quote = '"' then
      match afterJoin? rest with
      | some rest => takeLines? quote fuel rest
      | none => do
        let (e, rest) ← takeEscape? rest
        let (cs, rest) ← takeLines? quote fuel rest
        return (e :: cs, rest)
    else if isTextChar c || c = '\n' then
      (takeLines? quote fuel rest).map fun (cs, rest) => (c :: cs, rest)
    else none

/-- Reads a text in quotes. A line end right after three quotes does not count. -/
def takeText? (cs : List Char) : Option (String × List Char) :=
  match cs with
  | [] => none
  | quote :: rest =>
    if quote = '"' || quote = '\'' then
      let read :=
        if rest.take 2 = [quote, quote] then
          let body := rest.drop 2
          takeLines? quote (body.length + 1) (if body.head? = some '\n' then body.drop 1 else body)
        else takeLine? quote (rest.length + 1) rest
      read.map fun (text, rest) => (String.ofList text, rest)
    else none

/-! ### Numbers -/

/-- Digits with single underscores between them, without the underscores. -/
def digits? (isDigit : Char → Bool) (cs : List Char) : Option (List Char) :=
  if (Text.splitChars '_' cs).all fun part => !part.isEmpty && part.all isDigit then
    some (cs.filter (· ≠ '_'))
  else none

/-- Digits that begin with no zero, or a zero alone. -/
def decimal? (cs : List Char) : Option (List Char) :=
  (digits? Char.isDigit cs).filter fun ds => ds.head? ≠ some '0' || ds.length = 1

/-- A whole number that fits in 64 bits with its sign. -/
def inRange? (n : Int) : Option Json :=
  if Width.inInt64 n then some (.int n) else none

/-- Reads digits of a base of at most 16. -/
def basedValue? (base : Nat) (cs : List Char) : Option Json := do
  let ds ← digits? (fun c => ((Digits.hexValue? c).filter (· < base)).isSome) cs
  inRange? (ds.foldl (fun acc c => acc * base + (Digits.hexValue? c).getD 0) 0 : Nat)

/-- Reads a whole number. -/
def wholeValue? (cs : List Char) : Option Json :=
  match cs with
  | '0' :: 'x' :: rest => basedValue? 16 rest
  | '0' :: 'o' :: rest => basedValue? 8 rest
  | '0' :: 'b' :: rest => basedValue? 2 rest
  | _ => do
    let (negative, body) := Digits.takeSign cs
    let size : Int := (Digits.value (← decimal? body) : Nat)
    inRange? (if negative then -size else size)

/-- Cuts an exponent off a number. -/
def cutExponent (cs : List Char) : List Char × Option (List Char) :=
  match Text.cutChars? 'e' (cs.map fun c => if c = 'E' then 'e' else c) with
  | some (front, back) => (front, some back)
  | none => (cs, none)

/-- Reads a number with a point, an exponent, or both. -/
def doubleValue? (cs : List Char) : Option Json := do
  let (negative, body) := Digits.takeSign cs
  let sign := if negative then ['-'] else []
  let (number, exponent) := cutExponent body
  let (whole, part) :=
    match Text.cutChars? '.' number with
    | some (whole, part) => (whole, some part)
    | none => (number, none)
  if part.isNone && exponent.isNone then none
  else
    let whole ← decimal? whole
    let part ←
      match part with
      | none => some []
      | some part => (digits? Char.isDigit part).map ('.' :: ·)
    let exponent ←
      match exponent with
      | none => some []
      | some e =>
        let (negative, ds) := Digits.takeSign e
        (digits? Char.isDigit ds).map fun ds => 'e' :: (if negative then '-' :: ds else ds)
    (Double.read? (sign ++ whole ++ part ++ exponent)).map Json.double

/-- Reads a number that is infinite or none. -/
def specialValue? (cs : List Char) : Option Json :=
  let (negative, body) := Digits.takeSign cs
  if body = "inf".toList then some (.double (.infinite negative))
  else if body = "nan".toList then some (.double .nan)
  else none

/-! ### Times -/

/-- A time of day: hours, minutes, seconds, and a fraction of which nine digits count. Without
seconds it is the start of its minute. -/
def timeText? (cs : List Char) : Option (List Char × List Char) := do
  let (hour, rest) ← Timestamp.takeDigits? 2 cs
  let rest ← Timestamp.takeOneOf? [':'] rest
  let (minute, rest) ← Timestamp.takeDigits? 2 rest
  if 24 ≤ hour || 60 ≤ minute then none
  else
    match rest with
    | ':' :: rest =>
      let (second, rest) ← Timestamp.takeDigits? 2 rest
      let (_, tail) ← Timestamp.takeFraction? rest
      let fraction := (rest.take (rest.length - tail.length)).take 10
      let shown := (fraction.reverse.dropWhile fun c => c = '0' || c = '.').reverse
      if second ≤ 60 then return (cs.take 8 ++ shown, tail) else none
    | _ => return (cs.take 5 ++ [':', '0', '0'], rest)

/-- An offset of the local clock. -/
def offsetText? (cs : List Char) : Option (List Char) :=
  if cs.isEmpty then some []
  else if cs = ['z'] || cs = ['Z'] then some ['Z']
  else if cs.head? = some '\u2212' then none
  else (Timestamp.readOffset? cs).bind fun ahead => if ahead.natAbs < 86400 then some cs else none

/-- A date. -/
def dateText? (cs : List Char) : Option (List Char × List Char) := do
  let (year, rest) ← Timestamp.takeDigits? 4 cs
  let rest ← Timestamp.takeOneOf? ['-'] rest
  let (month, rest) ← Timestamp.takeDigits? 2 rest
  let rest ← Timestamp.takeOneOf? ['-'] rest
  let (day, rest) ← Timestamp.takeDigits? 2 rest
  if 1 ≤ month && 1 ≤ day && day ≤ ((Timestamp.monthLengths year)[month - 1]?.getD 0) then
    return (cs.take 10, rest)
  else none

/-- The text of a date, a time of day, or both with an offset. -/
def momentText? (cs : List Char) : Option (List Char) :=
  match dateText? cs with
  | some (date, []) => some date
  | some (date, mark :: rest) => do
    if mark = 'T' || mark = 't' || mark = ' ' then
      let (time, rest) ← timeText? rest
      return date ++ 'T' :: time ++ (← offsetText? rest)
    else none
  | none => do
    let (time, rest) ← timeText? cs
    if rest.isEmpty then return time else none

/-- The value of a word. -/
def wordValue? (cs : List Char) : Option Json :=
  if cs = "true".toList then some (.bool true)
  else if cs = "false".toList then some (.bool false)
  else
    (((wholeValue? cs).or (doubleValue? cs)).or (specialValue? cs)).or
      ((momentText? cs).map fun text => .string (String.ofList text))

/-- Whether a character may stand in a word. -/
def isWordChar (c : Char) : Bool :=
  c.isAlphanum || c = '_' || c = '+' || c = '-' || c = '.' || c = ':'

/-- Reads a word. A date and a time of day may have a space between them. -/
def takeWord? (cs : List Char) : Option (Json × List Char) :=
  let first := cs.takeWhile isWordChar
  let rest := cs.dropWhile isWordChar
  let second :=
    match rest with
    | ' ' :: more => ' ' :: more.takeWhile isWordChar
    | _ => []
  let whole := first ++ second
  if (dateText? first).any (·.2.isEmpty) && (momentText? whole).isSome then
    (wordValue? whole).map fun j => (j, cs.drop whole.length)
  else (wordValue? first).map fun j => (j, rest)

end Hotplug.Toml
