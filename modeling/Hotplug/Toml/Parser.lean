import Hotplug.Text.Lines
import Hotplug.Toml.Scalar
import Hotplug.Toml.Tree

/-!
# Reading TOML text

A document is a list of lines: headers of tables, headers of tables in lists, and keys with values.

## Main definitions

* `Toml.takeKey?`, `Toml.takeValue?` — read a key with its dots, and a value.
* `Toml.parse?` — the value of a text.
-/

namespace Hotplug.Toml

/-- The text without blanks at its front. -/
def skipBlanks (cs : List Char) : List Char :=
  cs.dropWhile isBlank

/-- The text after a comment that may stand here; it holds no control characters. -/
def skipComment? (cs : List Char) : Option (List Char) :=
  match cs with
  | '#' :: rest =>
    if (rest.takeWhile (· ≠ '\n')).all isTextChar then some (rest.dropWhile (· ≠ '\n')) else none
  | _ => some cs

/-- The text after the end of a line, before which blanks and a comment may stand. -/
def takeLineEnd? (cs : List Char) : Option (List Char) := do
  match ← skipComment? (skipBlanks cs) with
  | [] => some []
  | c :: rest => if c = '\n' then some rest else none

/-- The text after blanks, comments and line ends. -/
def skipLines? : (fuel : Nat) → List Char → Option (List Char)
  | 0, _ => none
  | fuel + 1, cs => do
    match ← skipComment? (skipBlanks cs) with
    | '\n' :: rest => skipLines? fuel rest
    | rest => some rest

/-! ### Keys -/

/-- Whether a character may stand in a key without quotes. -/
def isKeyChar (c : Char) : Bool :=
  c.isAlphanum || c = '_' || c = '-'

/-- Reads one part of a key: a word, or a text on one line. -/
def takeKeyPart? (cs : List Char) : Option (String × List Char) :=
  match cs with
  | [] => none
  | c :: rest =>
    if c = '"' || c = '\'' then
      (takeLine? c (rest.length + 1) rest).map fun (text, rest) => (String.ofList text, rest)
    else
      let word := cs.takeWhile isKeyChar
      if word.isEmpty then none else some (String.ofList word, cs.dropWhile isKeyChar)

/-- Reads a key: parts between dots. Gives the parts before the last, and the last. -/
def takeKeyFrom? : (fuel : Nat) → List Char → Option (List String × String × List Char)
  | 0, _ => none
  | fuel + 1, cs => do
    let (part, rest) ← takeKeyPart? (skipBlanks cs)
    match skipBlanks rest with
    | '.' :: more =>
      let (path, last, rest) ← takeKeyFrom? fuel more
      return (part :: path, last, rest)
    | rest => return ([], part, rest)

/-- Reads a key. -/
def takeKey? (cs : List Char) : Option (List String × String × List Char) :=
  takeKeyFrom? (cs.length + 1) cs

/-! ### Values -/

mutual

/-- Reads a value. -/
def takeValue? : (fuel : Nat) → List Char → Option (Json × List Char)
  | 0, _ => none
  | fuel + 1, cs =>
    match cs with
    | [] => none
    | c :: rest =>
      if c = '"' || c = '\'' then
        (takeText? cs).map fun (text, rest) => (.string text, rest)
      else if c = '[' then
        (takeItems? fuel rest).map fun (items, rest) => (.array items, rest)
      else if c = '{' then
        (takeMembers? fuel [] rest).map fun (ms, rest) => (.object (membersToJson ms), rest)
      else takeWord? cs

/-- Reads the items of a list up to its bracket; a comma may stand after the last. -/
def takeItems? : (fuel : Nat) → List Char → Option (List Json × List Char)
  | 0, _ => none
  | fuel + 1, cs => do
    let rest ← skipLines? (cs.length + 1) cs
    if rest.head? = some ']' then some ([], rest.drop 1)
    else
      let (item, rest) ← takeValue? fuel rest
      match ← skipLines? (rest.length + 1) rest with
      | ',' :: rest => (takeItems? fuel rest).map fun (items, rest) => (item :: items, rest)
      | ']' :: rest => some ([item], rest)
      | _ => none

/-- Reads the members of a table up to its brace, after those that are there; a comma may stand
after the last. -/
def takeMembers? : (fuel : Nat) → Members → List Char → Option (Members × List Char)
  | 0, _, _ => none
  | fuel + 1, ms, cs => do
    let rest ← skipLines? (cs.length + 1) cs
    if rest.head? = some '}' then some (ms, rest.drop 1)
    else
      match ← takeKey? rest with
      | (path, key, '=' :: rest) =>
        let (j, rest) ← takeValue? fuel (skipBlanks rest)
        let ms ← setAt? [] path key j ms
        match ← skipLines? (rest.length + 1) rest with
        | ',' :: rest => takeMembers? fuel ms rest
        | '}' :: rest => some (ms, rest)
        | _ => none
      | _ => none

end

/-! ### Documents -/

/-- What has been read, and the header that the next keys belong to. -/
structure Progress where
  members : Members := []
  header : List String := []

/-- Reads a line that is no comment. -/
def takeStatement? (p : Progress) (cs : List Char) : Option (Progress × List Char) :=
  match cs with
  | '[' :: '[' :: rest => do
    let (path, key, rest) ← takeKey? rest
    match rest with
    | ']' :: ']' :: rest =>
      return ({ members := ← appendAt? path key p.members, header := path ++ [key] }, rest)
    | _ => none
  | '[' :: rest => do
    let (path, key, rest) ← takeKey? rest
    match rest with
    | ']' :: rest =>
      return ({ members := ← headAt? path key p.members, header := path ++ [key] }, rest)
    | _ => none
  | _ => do
    let (path, key, rest) ← takeKey? cs
    match rest with
    | '=' :: rest =>
      let rest := skipBlanks rest
      let (j, rest) ← takeValue? (2 * rest.length + 2) rest
      return ({ p with members := ← setAt? p.header path key j p.members }, rest)
    | _ => none

/-- Reads lines to the end. -/
def takeLinesFrom? : (fuel : Nat) → Progress → List Char → Option Progress
  | 0, _, _ => none
  | fuel + 1, p, cs => do
    let rest ← skipLines? (cs.length + 1) cs
    if rest.isEmpty then some p
    else
      let (p, rest) ← takeStatement? p rest
      takeLinesFrom? fuel p (← takeLineEnd? rest)

/-- A text with line feeds for line ends; a carriage return stands only before a line feed. -/
def lines? (cs : List Char) : Option (List Char) :=
  let unified := Text.unifyLineEnds cs
  if unified.count '\n' = cs.count '\n' then some unified else none

/-- The value of a text. -/
def parse? (text : String) : Option Json := do
  let cs ← lines? text.toList
  let p ← takeLinesFrom? (cs.length + 1) {} cs
  return .object (membersToJson p.members)

end Hotplug.Toml
