/-!
# White space around a text

Requests, flags and tool output are trimmed of the characters with the Unicode property
White_Space, and of nothing else: a zero-width space or a byte order mark stays.

## Main definitions

* `Text.isBlank` — the characters with the property White_Space.
* `Text.trimChars`, `Text.trim` — a text without the blanks at its ends.
-/

namespace Hotplug.Text

/-- The characters with the Unicode property White_Space. -/
def isBlank (c : Char) : Bool :=
  let n := c.toNat
  (9 ≤ n && n ≤ 13) || n == 0x20 || n == 0x85 || n == 0xa0 || n == 0x1680 ||
    (0x2000 ≤ n && n ≤ 0x200a) || n == 0x2028 || n == 0x2029 || n == 0x202f || n == 0x205f ||
    n == 0x3000

/-- A text without the blanks at its end. -/
def trimEndChars : List Char → List Char
  | [] => []
  | c :: rest =>
    match trimEndChars rest with
    | [] => if isBlank c then [] else [c]
    | kept => c :: kept

/-- A text without the blanks at its start and at its end. -/
def trimChars (cs : List Char) : List Char :=
  trimEndChars (cs.dropWhile isBlank)

/-- A text without the blanks at its start and at its end. -/
def trim (s : String) : String :=
  String.ofList (trimChars s.toList)

@[simp] theorem trimEndChars_nil : trimEndChars [] = [] := rfl

@[simp] theorem trimChars_nil : trimChars [] = [] := rfl

end Hotplug.Text
