import Hotplug.Digits
import Hotplug.Double.Text
import Hotplug.Text.Cut
import Hotplug.Width
import Hotplug.Yaml.Cursor

/-!
# YAML scalars

A scalar is plain, quoted, or a block of lines. A plain one is read as a number, a truth value or
nothing where it is written like one; the others are always text.

## Main definitions

* `Yaml.Scalar` — a scalar; `Scalar.value?` is its value and `Scalar.key?` its text as a key.
* `Yaml.takePlain`, `Yaml.takeQuoted?`, `Yaml.takeBlock?` — read the three styles.
-/

namespace Hotplug.Yaml

/-! ### Values -/

/-- A scalar as it is written. -/
inductive Scalar where
  /-- Without quotes; a tag may say what it is. -/
  | plain (raw : String) (tag : Option String)
  /-- With quotes, or as a block. -/
  | quoted (text : String)
  deriving DecidableEq, Repr, Inhabited

/-- A whole number that fits in 64 bits with its sign. -/
def inRange? (n : Int) : Option Int :=
  if Width.inInt64 n then some n else none

/-- Reads a whole number in base ten. -/
def readInt? (cs : List Char) : Option Int :=
  (Digits.readInt? cs).bind inRange?

/-- Reads digits of a base of at most 16. -/
def readBase? (base : Nat) (cs : List Char) : Option Int :=
  let (negative, digits) := Digits.takeSign cs
  if digits.isEmpty then none
  else do
    let values ← digits.mapM fun c => (Digits.hexValue? c).filter (· < base)
    let size : Int := (values.foldl (fun acc d => acc * base + d) 0 : Nat)
    inRange? (if negative then -size else size)

/-- Reads a whole number: in base ten, or in base 16 or 8 after a mark. -/
def readWhole? (raw : List Char) : Option Int :=
  let marked :=
    match raw with
    | '0' :: 'x' :: digits => readBase? 16 digits
    | '0' :: 'o' :: digits => readBase? 8 digits
    | '+' :: digits => readInt? digits
    | _ => none
  marked.or (readInt? raw)

/-- The texts that stand for infinity or for no number. They are numbers that have no value
here. -/
def isNoDouble (raw : String) : Bool :=
  [".inf", ".Inf", ".INF", "+.inf", "+.Inf", "+.INF", "-.inf", "-.Inf", "-.INF", ".nan", ".NaN",
    ".NAN"].contains raw

/-- Reads a number with a point or an exponent; it must have a digit. -/
def readDouble? (raw : List Char) : Option Double :=
  if raw.any Char.isDigit then Double.read? raw else none

/-- The value of a plain scalar without a tag. -/
def plainValue? (raw : String) : Option Json :=
  if raw = "" || raw = "~" || raw = "null" then some .null
  else if raw = "true" then some (.bool true)
  else if raw = "false" then some (.bool false)
  else
    match readWhole? raw.toList with
    | some n => some (.int n)
    | none =>
      if isNoDouble raw then none
      else
        match readDouble? raw.toList with
        | some d => some (.double d)
        | none => some (.string raw)

/-- The value of a plain scalar with a tag; a scalar that is not what its tag says is nothing. -/
def taggedValue? (tag raw : String) : Option Json :=
  if tag = "bool" then
    some (if raw = "true" then .bool true else if raw = "false" then .bool false else .null)
  else if tag = "int" then some (((readInt? raw.toList).map Json.int).getD .null)
  else if tag = "float" then
    if isNoDouble raw then none
    else some (((readDouble? raw.toList).map Json.double).getD .null)
  else if tag = "null" then some .null
  else some (.string raw)

/-- The value of a scalar; a number without a value has none. -/
def Scalar.value? : Scalar → Option Json
  | plain raw none => plainValue? raw
  | plain raw (some tag) => taggedValue? tag raw
  | quoted text => some (.string text)

/-- The text of a scalar as a key. Numbers and truth values are their texts, and nothing is no
key. -/
def Scalar.key? (s : Scalar) : Option String :=
  match s with
  | quoted text => some text
  | plain raw _ =>
    if isNoDouble raw then some raw
    else
      match s.value? with
      | some .null => none
      | some (.int n) => some (Digits.text n)
      | _ => some raw

/-! ### Plain scalars -/

/-- Whether a plain scalar may begin here, in brackets or outside them. -/
def startsPlain (flow : Bool) (cs : List Char) : Bool :=
  match cs with
  | [] => false
  | c :: rest =>
    if c = '-' || c = '?' || c = ':' then
      !opensBlank rest && !(flow && (rest.head?.any isFlowMark))
    else if c = '|' || c = '>' then flow
    else !(isBlank c || isFlowMark c ||
      ['\n', '#', '&', '*', '!', '\'', '"', '%', '@', '\x60'].contains c)

/-- Whether a plain scalar ends before a character, given what follows and whether a blank stands
before. -/
def endsPlain (flow afterBlank : Bool) (c : Char) (rest : List Char) : Bool :=
  c = '\n' || (c = '#' && afterBlank) || (flow && isFlowMark c) ||
    (c = ':' && (opensBlank rest || (flow && (rest.head?.any isFlowMark))))

/-- The characters up to the end of a plain scalar or of its line, blanks at the end included. -/
def plainRun (flow : Bool) : (afterBlank : Bool) → List Char → List Char
  | _, [] => []
  | afterBlank, c :: rest =>
    if endsPlain flow afterBlank c rest then []
    else c :: plainRun flow (isBlank c) rest

/-- A text without the blanks at its end. -/
def trimEnd (cs : List Char) : List Char :=
  (cs.reverse.dropWhile isBlank).reverse

/-- What line ends between two lines of text turn into: one is a space, and of more the first does
not count. -/
def folded (breaks : Nat) : List Char :=
  if breaks ≤ 1 then [' '] else List.replicate (breaks - 1) '\n'

/-- The line ends and the blanks around them, up to the first thing written. -/
def lineEnds (cs : List Char) : List Char :=
  cs.takeWhile fun c => isBlank c || c = '\n'

/-- Whether a tab stands in the first `least` columns of the last of some lines. -/
def tabIndents (least : Nat) (spaces : List Char) : Bool :=
  ((spaces.reverse.takeWhile (· != '\n')).reverse.take least).contains '\t'

/-- Reads a plain scalar. Outside brackets it goes on on lines that are indented to `least` at
least; inside brackets all lines must be. -/
def takePlainFrom (flow : Bool) (least : Nat) : (fuel : Nat) → Cursor → List Char →
    Option (List Char × Cursor)
  | 0, _, _ => none
  | fuel + 1, s, sofar =>
    let line := trimEnd (plainRun flow false s.rest)
    let text := sofar ++ line
    let s := s.drop line.length
    let spaces := lineEnds s.rest
    let breaks := spaces.count '\n'
    let next := s.drop spaces.length
    if breaks = 0 || next.atBoundary || next.rest.head? == some '#' then some (text, s)
    else if !flow && next.column < least then some (text, s)
    else if (flow && next.column < least) || tabIndents least spaces then none
    else if (plainRun flow true next.rest).isEmpty then some (text, s)
    else takePlainFrom flow least fuel next (text ++ folded breaks)

/-- Reads a plain scalar. -/
def takePlain (flow : Bool) (least : Nat) (s : Cursor) : Option (String × Cursor) :=
  if startsPlain flow s.rest then
    (takePlainFrom flow least (s.rest.length + 1) s []).map fun (cs, s) => (String.ofList cs, s)
  else none

/-! ### Quoted scalars -/

/-- One part of a quoted scalar. -/
inductive Piece where
  | char (c : Char)
  | blank (c : Char)
  /-- The end of a line. -/
  | lineEnd
  /-- The end of a line that does not count. -/
  | joined
  deriving DecidableEq, Repr

/-- The piece of an unquoted character. -/
def Piece.ofChar (c : Char) : Piece :=
  if c = '\n' then lineEnd else if isBlank c then blank c else char c

/-- Reads the pieces between single quotes, where a quote is written twice. -/
def takeSingle? : List Char → Option (List Piece × List Char)
  | [] => none
  | '\'' :: '\'' :: rest => (takeSingle? rest).map fun (ps, rest) => (.char '\'' :: ps, rest)
  | '\'' :: rest => some ([], rest)
  | c :: rest => (takeSingle? rest).map fun (ps, rest) => (Piece.ofChar c :: ps, rest)

/-- The characters of the short escapes. -/
def escapes : List (Char × Char) :=
  [('0', '\x00'), ('a', '\x07'), ('b', '\x08'), ('t', '\t'), ('\t', '\t'), ('n', '\n'),
    ('v', '\x0b'), ('f', '\x0c'), ('r', '\r'), ('e', '\x1b'), (' ', ' '), ('"', '"'), ('/', '/'),
    ('\\', '\\'), ('N', '\u0085'), ('_', '\u00a0'), ('L', '\u2028'), ('P', '\u2029')]

/-- How many hexadecimal digits follow the mark of a long escape. -/
def escapeLength? (c : Char) : Option Nat :=
  if c = 'x' then some 2 else if c = 'u' then some 4 else if c = 'U' then some 8 else none

/-- The character with a number written in hexadecimal. -/
def hexChar? (digits : List Char) : Option Char := do
  let values ← digits.mapM Digits.hexValue?
  let n := values.foldl (fun acc d => acc * 16 + d) 0
  if n < 0xd800 || (0xdfff < n && n < 0x110000) then some (Char.ofNat n) else none

/-- Reads the pieces between double quotes, where a backslash starts an escape. -/
def takeDouble? : (fuel : Nat) → List Char → Option (List Piece × List Char)
  | 0, _ => none
  | _, [] => none
  | fuel + 1, '\\' :: c :: rest =>
    if c = '\n' then (takeDouble? fuel rest).map fun (ps, rest) => (.joined :: ps, rest)
    else
      match escapeLength? c with
      | some n =>
        if n ≤ rest.length then do
          let e ← hexChar? (rest.take n)
          let (ps, rest) ← takeDouble? fuel (rest.drop n)
          return (.char e :: ps, rest)
        else none
      | none => do
        let e ← escapes.lookup c
        let (ps, rest) ← takeDouble? fuel rest
        return (.char e :: ps, rest)
  | fuel + 1, c :: rest =>
    if c = '"' then some ([], rest)
    else (takeDouble? fuel rest).map fun (ps, rest) => (Piece.ofChar c :: ps, rest)

/-- The text of line ends, or else of blanks that no line begins with. -/
def pendingText (blanks : List Char) (breaks : Nat) (leading : Bool) : List Char :=
  if 0 < breaks then folded breaks else if leading then [] else blanks

/-- The text of pieces: blanks around line ends do not count, and line ends are folded. -/
def unfold : (blanks : List Char) → (breaks : Nat) → (leading : Bool) → List Piece → List Char
  | blanks, breaks, leading, [] => pendingText blanks breaks leading
  | blanks, breaks, leading, p :: rest =>
    let pending := pendingText blanks breaks leading
    match p with
    | .char c => pending ++ c :: unfold [] 0 false rest
    | .blank c =>
      if leading then unfold [] breaks true rest else unfold (blanks ++ [c]) breaks false rest
    | .lineEnd => unfold [] (breaks + 1) true rest
    | .joined => pending ++ unfold [] 0 true rest

/-- Whether the lines of a quoted scalar after its first are indented to `least` at least, and none
of them ends the document. -/
def linesIndented (least : Nat) (raw : List Char) (rest : List Char) : Bool :=
  ((Text.splitChars '\n' (raw ++ rest.takeWhile (· != '\n'))).drop 1).all fun line =>
    let written := line.dropWhile isBlank
    written.isEmpty ||
      (least ≤ line.length - written.length &&
        !(({ column := 0, rest := line } : Cursor).atStart ||
          ({ column := 0, rest := line } : Cursor).atStop))

/-- Reads a scalar in quotes. -/
def takeQuoted? (least : Nat) (s : Cursor) : Option (String × Cursor) := do
  let (pieces, rest) ←
    match s.rest with
    | '\'' :: body => takeSingle? body
    | '"' :: body => takeDouble? (body.length + 1) body
    | _ => none
  let raw := s.rest.take (s.rest.length - rest.length)
  if linesIndented least raw [] then
    some (String.ofList (unfold [] 0 false pieces), s.moveTo rest)
  else none

/-! ### Blocks of lines -/

/-- What becomes of the line ends at the end of a block. -/
inductive Chomp where
  /-- They do not count. -/
  | strip
  /-- One counts, where there is one. -/
  | clip
  /-- All count. -/
  | keep
  deriving DecidableEq, Repr

/-- Reads the marks after the sign of a block: what becomes of its end, and its indentation. -/
def blockMarks : List Char → Chomp × Option Nat × List Char
  | '-' :: c :: rest =>
    if c.isDigit && c ≠ '0' then (.strip, some (Digits.digitValue c), rest)
    else (.strip, none, c :: rest)
  | '+' :: c :: rest =>
    if c.isDigit && c ≠ '0' then (.keep, some (Digits.digitValue c), rest)
    else (.keep, none, c :: rest)
  | ['-'] => (.strip, none, [])
  | ['+'] => (.keep, none, [])
  | c :: rest =>
    if c.isDigit && c ≠ '0' then
      match rest with
      | '-' :: rest => (.strip, some (Digits.digitValue c), rest)
      | '+' :: rest => (.keep, some (Digits.digitValue c), rest)
      | _ => (.clip, some (Digits.digitValue c), rest)
    else (.clip, none, c :: rest)
  | [] => (.clip, none, [])

/-- The number of spaces a line begins with. -/
def indentOf (line : List Char) : Nat :=
  (line.takeWhile (· = ' ')).length

/-- Whether a line has nothing but spaces. -/
def isSpaces (line : List Char) : Bool :=
  line.all (· = ' ')

/-- Whether a line belongs to a block with some indentation. -/
def inBlock (indent : Nat) (line : List Char) : Bool :=
  isSpaces line || indent ≤ indentOf line

/-- The text of lines of which single line ends between them are folded, unless one of the lines
is indented further. -/
def foldLines : List (List Char) → List Char
  | [] => []
  | [line] => line
  | line :: next :: rest =>
    let further (l : List Char) : Bool := (l.head?.any isBlank)
    if line.isEmpty then '\n' :: foldLines (next :: rest)
    else if further line || further next then line ++ '\n' :: foldLines (next :: rest)
    else if next.isEmpty then line ++ foldLines (next :: rest)
    else line ++ ' ' :: foldLines (next :: rest)

/-- The lines between line ends, of which the last does not end where it is empty. -/
def blockText (literal : Bool) (chomp : Chomp) (lines : List (List Char)) (ended : Bool) :
    List Char :=
  let kept := (lines.reverse.dropWhile (·.isEmpty)).reverse
  let extra := lines.length - kept.length
  let body := if literal then (List.intersperse ['\n'] kept).flatten else foldLines kept
  match chomp with
  | .strip => body
  | .clip => if kept.isEmpty || (extra = 0 && !ended) then body else body ++ ['\n']
  | .keep =>
    let last := if kept.isEmpty || (extra = 0 && !ended) then 0 else 1
    body ++ List.replicate (last + extra) '\n'

/-- Reads a block of lines, indented to `least` at least; in a document it may begin at the first
column only where `least` is zero. -/
def takeBlock? (least : Nat) (s : Cursor) : Option (String × Cursor) := do
  let sign ← s.rest.head?
  let (chomp, explicit, header) := blockMarks (s.rest.drop 1)
  let tail := header.dropWhile isBlank
  if !(lineIsBlank header && (tail.head? != some '#' || tail.length < header.length)) then none
  else
    let body := (header.dropWhile (· != '\n')).drop 1
    let all := Text.splitChars '\n' body
    let ended := all.getLast? == some []
    let whole := if ended then all.dropLast else all
    let first := (whole.find? fun line => !isSpaces line).map indentOf
    let indent :=
      match explicit with
      | some k => (least - 1) + k
      | none => max (max least 1) (first.getD 0)
    let lines := whole.takeWhile (inBlock indent)
    let consumed := lines.foldl (fun total line => total + line.length + 1) 0
    let rest := body.drop consumed
    let text := blockText (sign = '|') chomp (lines.map (·.drop indent))
      (ended || lines.length < whole.length)
    return (String.ofList text, { s.moveTo rest with column := 0 })

end Hotplug.Yaml
