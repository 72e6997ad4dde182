import Hotplug.Double.Text
import Hotplug.Json.Basic
import Hotplug.Text.Quoted

/-!
# Writing JSON text

Values are written without spaces; in texts, only quotes, backslashes and control characters are
escaped.

## Main definitions

* `Json.render` — the text of a value.
-/

namespace Hotplug.Json

/-- How one character is written in a text. -/
def renderChar (c : Char) : List Char :=
  if c = '"' then ['\\', '"']
  else if c = '\\' then ['\\', '\\']
  else if c = '\n' then ['\\', 'n']
  else if c = '\r' then ['\\', 'r']
  else if c = '\t' then ['\\', 't']
  else if c = '\x08' then ['\\', 'b']
  else if c = '\x0c' then ['\\', 'f']
  else if c.toNat < 0x20 then
    let digits := Text.hexDigits c.toNat
    ['\\', 'u'] ++ List.replicate (4 - digits.length) '0' ++ digits
  else [c]

/-- A text between quotes. -/
def renderText (s : String) : List Char :=
  '"' :: s.toList.flatMap renderChar ++ ['"']

mutual

/-- The characters of a value. -/
def renderChars : Json → List Char
  | null => ['n', 'u', 'l', 'l']
  | bool true => ['t', 'r', 'u', 'e']
  | bool false => ['f', 'a', 'l', 's', 'e']
  | int n => Digits.ofInt n
  | double d => d.text.toList
  | string s => renderText s
  | unreadable => ['n', 'u', 'l', 'l']
  | array items => '[' :: renderItems items ++ [']']
  | object members => '{' :: renderMembers members ++ ['}']

/-- The characters of the items of an array. -/
def renderItems : List Json → List Char
  | [] => []
  | [j] => renderChars j
  | j :: rest => renderChars j ++ ',' :: renderItems rest

/-- The characters of the members of an object. -/
def renderMembers : List (String × Json) → List Char
  | [] => []
  | [(k, j)] => renderText k ++ ':' :: renderChars j
  | (k, j) :: rest => renderText k ++ ':' :: (renderChars j ++ ',' :: renderMembers rest)

end

/-- The text of a value. -/
def render (j : Json) : String :=
  String.ofList (renderChars j)

end Hotplug.Json
