import Hotplug.Text.Category

/-!
# Quoted text in messages

A value shown inside a message is quoted so that it stays on one line and shows every character:
the quote, the backslash and the common control characters have short escapes, and a character
that shows nothing or joins its neighbour is written by its code point.

## Main definitions

* `Text.hexDigits` — a number in lower-case hexadecimal, without leading zeros.
* `Text.quoted` — the quoted form of a text.
-/

namespace Hotplug.Text

/-- A number in lower-case hexadecimal, without leading zeros. -/
def hexDigits (n : Nat) : List Char :=
  Nat.toDigits 16 n

/-- How one character is written between quotes. -/
def quotedChar (c : Char) : List Char :=
  if c = '"' then ['\\', '"']
  else if c = '\\' then ['\\', '\\']
  else if c = '\n' then ['\\', 'n']
  else if c = '\r' then ['\\', 'r']
  else if c = '\t' then ['\\', 't']
  else if c = '\x00' then ['\\', '0']
  else if isExtending c || isUnprintable c then
    ['\\', 'u', '\x7b'] ++ hexDigits c.toNat ++ ['\x7d']
  else [c]

/-- A text between quotes, each character written by `quotedChar`. -/
def quoted (s : String) : String :=
  String.ofList ('"' :: s.toList.flatMap quotedChar ++ ['"'])

end Hotplug.Text
