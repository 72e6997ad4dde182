/-!
# Line ends

A line ends with a line feed, a carriage return, or both. Readers of line-based formats see line
feeds only.

## Main definitions

* `Text.unifyLineEnds` — a text with each line end written as one line feed.
-/

namespace Hotplug.Text

/-- A text with each line end written as one line feed. -/
def unifyLineEnds : List Char → List Char
  | [] => []
  | '\r' :: '\n' :: rest => '\n' :: unifyLineEnds rest
  | '\r' :: rest => '\n' :: unifyLineEnds rest
  | c :: rest => c :: unifyLineEnds rest

@[simp] theorem unifyLineEnds_nil : unifyLineEnds [] = [] := rfl

example : unifyLineEnds "a\r\nb\rc\n".toList = "a\nb\nc\n".toList := by decide

end Hotplug.Text
