import Hotplug.Json.Basic

/-!
# Places in YAML text

YAML is laid out by columns, so a reader knows the column it is at. Line ends are line feeds here.

## Main definitions

* `Yaml.Cursor` — the rest of a text, the column it begins at, and the named values so far.
* `Yaml.gap` — skips spaces, comments and line ends up to the next thing written.
-/

namespace Hotplug.Yaml

/-- The rest of a text. -/
structure Cursor where
  /-- The column of its first character. -/
  column : Nat
  rest : List Char
  /-- The values that were given names before it, the latest first. -/
  anchors : List (String × Json) := []
  deriving Repr, Inhabited

/-- A space or a tab. -/
def isBlank (c : Char) : Bool :=
  c = ' ' || c = '\t'

/-- Whether nothing that is written follows at once: a blank, the end of the line, or the end. -/
def opensBlank : List Char → Bool
  | [] => true
  | c :: _ => isBlank c || c = '\n'

/-- A character that separates or closes in braces and brackets. -/
def isFlowMark (c : Char) : Bool :=
  c = ',' || c = '[' || c = ']' || c = '{' || c = '}'

/-- The column after some characters that begin at a column. -/
def columnAfter : (column : Nat) → List Char → Nat
  | column, [] => column
  | column, c :: rest => columnAfter (if c = '\n' then 0 else column + 1) rest

namespace Cursor

/-- The place after the next `count` characters. -/
def drop (s : Cursor) (count : Nat) : Cursor :=
  { s with column := columnAfter s.column (s.rest.take count), rest := s.rest.drop count }

/-- The place after the next characters, where `rest` is left. -/
def moveTo (s : Cursor) (rest : List Char) : Cursor :=
  s.drop (s.rest.length - rest.length)

/-- Whether nothing is left. -/
def atEnd (s : Cursor) : Bool :=
  s.rest.isEmpty

/-- Whether the line is the one that starts a document. -/
def atStart (s : Cursor) : Bool :=
  s.column == 0 && s.rest.take 3 == ['-', '-', '-'] && opensBlank (s.rest.drop 3)

/-- Whether the line is the one that ends a document. -/
def atStop (s : Cursor) : Bool :=
  s.column == 0 && s.rest.take 3 == ['.', '.', '.'] && opensBlank (s.rest.drop 3)

/-- Whether the document ends here. -/
def atBoundary (s : Cursor) : Bool :=
  s.atEnd || s.atStart || s.atStop

/-- Whether the next character is `c` and stands alone. -/
def atIndicator (s : Cursor) (c : Char) : Bool :=
  s.rest.head? == some c && opensBlank (s.rest.drop 1)

/-- Gives a value a name. -/
def bind (s : Cursor) (name : Option String) (value : Json) : Cursor :=
  match name with
  | some name => { s with anchors := (name, value) :: s.anchors }
  | none => s

end Cursor

/-- What a gap has passed. -/
structure GapState where
  column : Nat
  /-- Whether a line end was passed. -/
  crossed : Bool := false
  /-- Whether only blanks stand before, on this line. -/
  leading : Bool := false
  /-- Whether a blank stands right before, so that a comment may begin. -/
  spaced : Bool := false
  /-- Whether this is inside a comment. -/
  comment : Bool := false

/-- Whether nothing but blanks and a comment is left on the line. -/
def lineIsBlank (cs : List Char) : Bool :=
  match cs.dropWhile isBlank with
  | [] => true
  | c :: _ => c = '\n' || c = '#'

/-- Skips spaces, comments and line ends. A tab does not indent: it may stand before `least` only on
a line that is blank. -/
def gapFrom (least : Nat) : GapState → List Char → Option (GapState × List Char)
  | g, [] => some (g, [])
  | g, c :: rest =>
    if c = '\n' then
      gapFrom least { column := 0, crossed := true, leading := true, spaced := true } rest
    else if g.comment then gapFrom least { g with column := g.column + 1 } rest
    else if c = ' ' then gapFrom least { g with column := g.column + 1, spaced := true } rest
    else if c = '\t' then
      if g.leading && g.column < least && !lineIsBlank rest then none
      else gapFrom least { g with column := g.column + 1, spaced := true } rest
    else if c = '#' then
      if g.spaced then gapFrom least { g with column := g.column + 1, comment := true } rest
      else none
    else some (g, c :: rest)

/-- Skips to the next thing written, and says whether it is on another line. At the start of a line
a comment may begin at once. -/
def gap (least : Nat) (s : Cursor) : Option (Bool × Cursor) :=
  let start : GapState :=
    { column := s.column, leading := s.column == 0, spaced := s.column == 0 }
  (gapFrom least start s.rest).map fun (g, rest) =>
    (g.crossed, { s with column := g.column, rest })

end Hotplug.Yaml
