import Hotplug.Text.Lines
import Hotplug.Yaml.Scalar

/-!
# Reading YAML text

A document is a tree of mappings, sequences and scalars, laid out by indentation or by brackets.
Keys are scalars on one line, and a mapping has each key once. Values may be given names and be
repeated by them.

## Main definitions

* `Yaml.takeBlockNode?`, `Yaml.takeFlowNode?` — a value laid out by indentation, and in brackets.
* `Yaml.parse?` — the value of a text with one document at most; without one it is an empty mapping.
-/

namespace Hotplug.Yaml

/-! ### Names and tags -/

/-- What stands before a value. -/
structure Properties where
  name : Option String := none
  tag : Option String := none
  deriving DecidableEq, Repr

/-- The characters of a word. -/
def word (cs : List Char) : List Char :=
  cs.takeWhile fun c => !(isBlank c || c = '\n' || isFlowMark c)

/-- The kind that a tag names, empty where it is none of those that are known. -/
def tagKind (tag : List Char) : String :=
  match tag with
  | '!' :: '!' :: kind => String.ofList kind
  | _ => ""

/-- The tag at the front with its marks: up to the closing bracket, or up to a blank. A handle other
than the two short ones would have to be declared. -/
def tagText? (cs : List Char) : Option (List Char) :=
  match cs with
  | '!' :: '<' :: rest =>
    let inner := rest.takeWhile (· ≠ '>')
    if inner.length < rest.length then some ('!' :: '<' :: inner ++ ['>']) else none
  | _ =>
    let tag := cs.takeWhile fun c => !(isBlank c || c = '\n' || c = ',')
    if (tag.drop 2).contains '!' then none else some tag

/-- Reads a name and a tag, each once at most and in any order. -/
def takeProperties? : (fuel : Nat) → Cursor → Properties → Option (Properties × Cursor)
  | 0, s, p => some (p, s)
  | fuel + 1, s, p =>
    match s.rest with
    | '&' :: rest =>
      let name := word rest
      if name.isEmpty || p.name.isSome then none
      else do
        let t := s.drop (name.length + 1)
        takeProperties? fuel (t.drop (t.rest.takeWhile isBlank).length)
          { p with name := some (String.ofList name) }
    | '!' :: _ =>
      if p.tag.isSome then none
      else do
        let tag ← tagText? s.rest
        let t := s.drop tag.length
        takeProperties? fuel (t.drop (t.rest.takeWhile isBlank).length)
          { p with tag := some (tagKind tag) }
    | _ => some (p, s)

/-- Reads the name and the tag before a value. -/
def properties? (s : Cursor) : Option (Properties × Cursor) :=
  takeProperties? 3 s {}

/-- Reads the name of an earlier value and finds the value. -/
def takeAlias? (s : Cursor) : Option (Json × Cursor) :=
  match s.rest with
  | '*' :: rest =>
    let name := word rest
    (s.anchors.lookup (String.ofList name)).map fun value => (value, s.drop (name.length + 1))
  | _ => none

/-- The place after a `:`. Tabs alone do not set it apart from a word. -/
def afterColon? (s : Cursor) : Option Cursor :=
  let t := s.drop 1
  let blanks := t.rest.takeWhile isBlank
  let isWord (c : Char) : Bool := c.isAlphanum || c = '_' || c = '-'
  if blanks.head? = some '\t' && !blanks.contains ' ' &&
      (t.rest.drop blanks.length).head?.any isWord then none
  else some t

/-- The place after a `?`, which no tab may follow. -/
def afterQuestion? (s : Cursor) : Option Cursor :=
  let t := s.drop 1
  if (t.rest.takeWhile isBlank).contains '\t' then none else some t

/-! ### Values in brackets -/

/-- What is found at a place in brackets. -/
structure Found where
  value : Json
  /-- The text of the value as a key, if it can be one. -/
  key : Option String
  /-- Whether a value may follow its `:` at once, if it is a key. -/
  adjacent : Bool

/-- Skips to the next thing written in brackets, which must be indented to `least` at least. -/
def flowGap (least : Nat) (s : Cursor) : Option Cursor := do
  let (crossed, t) ← gap least s
  if t.atBoundary || (crossed && t.column < least) then none else some t

/-- Whether a `:` ends a key in brackets. -/
def atFlowColon (adjacent : Bool) (s : Cursor) : Bool :=
  match s.rest with
  | ':' :: rest => adjacent || opensBlank rest || rest.head?.any isFlowMark
  | _ => false

/-- Reads a scalar in brackets. -/
def takeFlowScalar? (least : Nat) (tag : Option String) (s : Cursor) : Option (Found × Cursor) :=
  if s.rest.head? = some '"' || s.rest.head? = some '\'' then do
    let (text, t) ← takeQuoted? least s
    return (⟨.string text, some text, true⟩, t)
  else do
    let (raw, t) ← takePlain true least s
    let scalar := Scalar.plain raw tag
    return (⟨← scalar.value?, scalar.key?, false⟩, t)

mutual

/-- Reads a value in brackets. -/
def takeFlowNode? : (fuel : Nat) → (least : Nat) → Cursor → Option (Found × Cursor)
  | 0, _, _ => none
  | fuel + 1, least, s => do
    let (p, t) ← properties? s
    let (found, u) ←
      match t.rest with
      | '[' :: _ => (takeItems fuel least (t.drop 1)).map fun (items, u) =>
          ((⟨.array items, none, true⟩ : Found), u)
      | '{' :: _ => (takeMembers fuel least [] (t.drop 1)).map fun (members, u) =>
          ((⟨.object members, none, true⟩ : Found), u)
      | '*' :: _ => (takeAlias? t).map fun (value, u) => ((⟨value, value.text?, false⟩ : Found), u)
      | _ =>
        if (p.name.isSome || p.tag.isSome) && !startsPlain true t.rest &&
            t.rest.head? != some '"' && t.rest.head? != some '\'' then
          some ((⟨if p.tag.isSome then .string "" else .null, none, false⟩ : Found), t)
        else takeFlowScalar? least p.tag t
    return (found, u.bind p.name found.value)

/-- Reads the value of a key in brackets, which may be missing. -/
def takeFlowValue : (fuel : Nat) → (least : Nat) → Cursor → Option (Json × Cursor)
  | 0, _, _ => none
  | fuel + 1, least, s => do
    let t ← flowGap least s
    match t.rest with
    | c :: _ =>
      if c = ',' || c = '}' || c = ']' then some (.null, t)
      else
        let (found, u) ← takeFlowNode? fuel least t
        return (found.value, u)
    | [] => none

/-- Reads the items of a sequence up to its bracket. An item with a `:` is a mapping of its own. -/
def takeItems : (fuel : Nat) → (least : Nat) → Cursor → Option (List Json × Cursor)
  | 0, _, _ => none
  | fuel + 1, least, s => do
    let t ← flowGap least s
    if t.rest.head? = some ']' then some ([], t.drop 1)
    else
      let (found, u) ← takeFlowNode? fuel least t
      let v ← flowGap least u
      let (item, v) ←
        if atFlowColon (found.adjacent && u.rest.head? == some ':') v then do
          let key ← found.key
          let (value, w) ← takeFlowValue fuel least (← afterColon? v)
          pure (Json.object [(key, value)], ← flowGap least w)
        else some (found.value, v)
      match v.rest with
      | ',' :: _ => (takeItems fuel least (v.drop 1)).map fun (items, w) => (item :: items, w)
      | ']' :: _ => some ([item], v.drop 1)
      | _ => none

/-- Reads the members of a mapping up to its brace, after those with some keys. -/
def takeMembers : (fuel : Nat) → (least : Nat) → (before : List String) → Cursor →
    Option (List (String × Json) × Cursor)
  | 0, _, _, _ => none
  | fuel + 1, least, before, s => do
    let t ← flowGap least s
    if t.rest.head? = some '}' then some ([], t.drop 1)
    else
      let (found, u) ← takeFlowNode? fuel least t
      let key ← found.key
      if before.contains key then none
      else
        let v ← flowGap least u
        let (value, v) ←
          if atFlowColon (found.adjacent && u.rest.head? == some ':') v then do
            let (value, w) ← takeFlowValue fuel least (← afterColon? v)
            pure (value, ← flowGap least w)
          else some (Json.null, v)
        match v.rest with
        | ',' :: _ => (takeMembers fuel least (key :: before) (v.drop 1)).map fun (members, w) =>
            ((key, value) :: members, w)
        | '}' :: _ => some ([(key, value)], v.drop 1)
        | _ => none

end

/-! ### Values laid out by indentation -/

/-- Reads a key on this line with its `:`. -/
def takeKey? (tag : Option String) (s : Cursor) : Option (String × Cursor) := do
  let (scalar, t) ←
    if s.rest.head? = some '"' || s.rest.head? = some '\'' then
      (takeQuoted? 0 s).map fun (text, t) => (Scalar.quoted text, t)
    else if startsPlain false s.rest then
      let line := trimEnd (plainRun false false s.rest)
      some (Scalar.plain (String.ofList line) tag, s.drop line.length)
    else none
  let u := t.drop (t.rest.takeWhile isBlank).length
  let written := s.rest.take (s.rest.length - u.rest.length)
  if u.atIndicator ':' && !written.contains '\n' then return (← scalar.key?, ← afterColon? u)
  else none

/-- Whether nothing but blanks and a comment follows a value on its line. -/
def lineEndsAfter (s : Cursor) : Bool :=
  match gap 0 s with
  | some (crossed, t) => crossed || t.atEnd
  | none => false

/-- Reads a scalar or a value in brackets in a block. Nothing else may follow on the line, unless
it is plain. -/
def takeInline? (fuel : Nat) (least : Nat) (tag : Option String) (s : Cursor) :
    Option (Json × Cursor) :=
  match s.rest with
  | '|' :: _ => (takeBlock? least s).map fun (text, t) => (.string text, t)
  | '>' :: _ => (takeBlock? least s).map fun (text, t) => (.string text, t)
  | c :: _ => do
    let (value, t) ←
      if c = '[' || c = '{' then
        (takeFlowNode? fuel least s).map fun (found, t) => (found.value, t)
      else if c = '*' then takeAlias? s
      else if c = '"' || c = '\'' then
        (takeQuoted? least s).map fun (text, t) => (Json.string text, t)
      else do
        let (raw, t) ← takePlain false least s
        return (← (Scalar.plain raw tag).value?, t)
    if lineEndsAfter t then some (value, t) else none
  | [] => none

mutual

/-- Reads a value laid out by indentation. What is on another line must be indented to `least` at
least, except that the items of a sequence may begin at `itemsAt`. A mapping or a sequence may begin
on this line only where `opens` says so. -/
def takeBlockNode? : (fuel : Nat) → (least itemsAt : Nat) → (opens : Bool) → Cursor →
    Option (Json × Cursor)
  | 0, _, _, _, _ => none
  | fuel + 1, least, itemsAt, opens, s => do
    let (crossed, t) ← gap least s
    let outside (u : Cursor) : Bool :=
      u.atBoundary || (u.column < least && !(itemsAt ≤ u.column && u.atIndicator '-'))
    if t.atBoundary || (crossed && outside t) then some (.null, t)
    else
      let (p, u) ← properties? t
      if p.name.isNone && p.tag.isNone then takeContent? fuel least (opens || crossed) {} t t
      else
        let (crossedAgain, v) ← gap least u
        let empty := if p.tag.isSome then Json.string "" else .null
        if crossedAgain && outside v || v.atBoundary then some (empty, v.bind p.name empty)
        else if crossedAgain then
          let (value, w) ← takeContent? fuel least true { tag := p.tag } v v
          return (value, w.bind p.name value)
        else
          match takeKey? p.tag u with
          | some _ => takeContent? fuel least (opens || crossed) p t u
          | none =>
            let (value, w) ← takeContent? fuel least false p u u
            return (value, w.bind p.name value)

/-- Reads a value that begins at `s`, with its name and tag before it, at `start`. -/
def takeContent? : (fuel : Nat) → (least : Nat) → (opens : Bool) → Properties →
    (start s : Cursor) → Option (Json × Cursor)
  | 0, _, _, _, _, _ => none
  | fuel + 1, least, opens, p, start, s =>
    if s.atIndicator '-' then
      if opens then
        (takeSequence? fuel s.column s).map fun (items, t) => (.array items, t)
      else none
    else if s.atIndicator '?' || (takeKey? p.tag s).isSome then
      if opens then
        (takeMapping? fuel start.column [] start).map fun (members, t) => (.object members, t)
      else none
    else takeInline? fuel least p.tag s

/-- Reads the items of a sequence at a column. -/
def takeSequence? : (fuel : Nat) → (column : Nat) → Cursor → Option (List Json × Cursor)
  | 0, _, _ => none
  | fuel + 1, column, s => do
    let (item, t) ← takeBlockNode? fuel (column + 1) (column + 1) true (s.drop 1)
    let (_, u) ← gap column t
    if u.atBoundary || u.column < column then return ([item], u)
    else if u.column = column then
      if u.atIndicator '-' then
        let (items, v) ← takeSequence? fuel column u
        return (item :: items, v)
      else return ([item], u)
    else none

/-- Reads the members of a mapping at a column, after those with some keys. -/
def takeMapping? : (fuel : Nat) → (column : Nat) → (before : List String) → Cursor →
    Option (List (String × Json) × Cursor)
  | 0, _, _, _ => none
  | fuel + 1, column, before, s => do
    let (key, opens, t) ← takeMappingKey? fuel column s
    if before.contains key then none
    else
      let (value, u) ← takeBlockNode? fuel (column + 1) column opens t
      let (_, v) ← gap column u
      if v.atBoundary || v.column < column then return ([(key, value)], v)
      else if v.column = column then
        let (members, w) ← takeMapping? fuel column (key :: before) v
        return ((key, value) :: members, w)
      else none

/-- Reads a key of a mapping at a column with its `:`, either on one line or after a `?`; a mapping
or a sequence may follow at once only in the second case. -/
def takeMappingKey? : (fuel : Nat) → (column : Nat) → Cursor → Option (String × Bool × Cursor)
  | 0, _, _ => none
  | fuel + 1, column, s => do
    if s.atIndicator '?' then
      let (key, t) ← takeBlockNode? fuel (column + 1) (column + 1) true (← afterQuestion? s)
      let (_, u) ← gap column t
      if u.column = column && u.atIndicator ':' then
        return (← key.text?, true, ← afterColon? u)
      else none
    else
      let (p, t) ← properties? s
      let (key, u) ← takeKey? p.tag t
      return (key, false, u.bind p.name (.string key))

end

/-! ### Documents -/

/-- Skips the directives before a document. Directives need a document that is begun by a line. -/
def skipDirectives : (fuel : Nat) → (any : Bool) → Cursor → Option Cursor
  | 0, _, _ => none
  | fuel + 1, any, s => do
    let (_, t) ← gap 0 s
    if t.column = 0 && t.rest.head? = some '%' then
      skipDirectives fuel true (t.drop (t.rest.takeWhile (· != '\n')).length)
    else if any && !t.atStart then none
    else some t

/-- Skips what may stand around documents: the lines that end them. -/
def skipStops : (fuel : Nat) → Cursor → Option Cursor
  | 0, s => some s
  | fuel + 1, s => do
    let (_, t) ← gap 0 s
    if t.atStop then
      let u := t.drop 3
      if lineIsBlank u.rest then skipStops fuel u else none
    else some t

/-- Reads the one document of a text. -/
def document? (s : Cursor) : Option Json := do
  let fuel := s.rest.length + 2
  let s ← skipStops fuel s
  if s.atEnd then some (.object [])
  else
    let t ← skipDirectives fuel false s
    if t.atEnd then some (.object [])
    else
      let (value, u) ←
        if t.atStart then takeBlockNode? (8 * fuel) 0 0 false (t.drop 3)
        else takeBlockNode? (8 * fuel) 0 0 true t
      let v ← skipStops fuel u
      if v.atEnd then some value else none

/-- The value of a text, which ends before a NUL. -/
def parse? (text : String) : Option Json :=
  document? { column := 0, rest := (Text.unifyLineEnds text.toList).takeWhile (· != '\x00') }

end Hotplug.Yaml
