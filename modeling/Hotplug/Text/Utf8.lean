/-!
# Text from bytes

Bytes that come from a command or a server are read as UTF-8. The strict reading refuses anything
else; the lenient one puts U+FFFD for each maximal part that begins a character and cannot go on.

## Main definitions

* `Text.readChar` — the character at the front of some bytes, or how many bytes are wasted.
* `Text.decode?` — the strict reading.
* `Text.decodeLossy` — the lenient reading.
-/

namespace Hotplug.Text

/-- A continuation byte. -/
def isContinuation (b : UInt8) : Bool :=
  0x80 ≤ b && b ≤ 0xbf

/-- What the front of some bytes holds. -/
inductive Front where
  /-- A character. -/
  | char (c : Char)
  /-- This many bytes that are no character, at least one. -/
  | waste (count : Nat)
  deriving DecidableEq, Repr

/-- The second byte that may follow a leading byte of three or four: it rules out long forms,
surrogates and numbers past U+10FFFF. -/
def secondInRange (lead second : UInt8) : Bool :=
  if lead == 0xe0 then 0xa0 ≤ second && second ≤ 0xbf
  else if lead == 0xed then 0x80 ≤ second && second ≤ 0x9f
  else if lead == 0xf0 then 0x90 ≤ second && second ≤ 0xbf
  else if lead == 0xf4 then 0x80 ≤ second && second ≤ 0x8f
  else isContinuation second

/-- The low six bits of a continuation byte. -/
def low (b : UInt8) : Nat :=
  b.toNat % 64

/-- The character at the front, with the bytes after it. A wasted front is the longest part that
begins some character. -/
def readChar (b : UInt8) (rest : List UInt8) : Front × List UInt8 :=
  if b < 0x80 then (.char (Char.ofNat b.toNat), rest)
  else if 0xc2 ≤ b && b ≤ 0xdf then
    match rest with
    | c :: rest' =>
      if isContinuation c then (.char (Char.ofNat ((b.toNat - 0xc0) * 64 + low c)), rest')
      else (.waste 1, rest)
    | [] => (.waste 1, rest)
  else if 0xe0 ≤ b && b ≤ 0xef then
    match rest with
    | c :: rest' =>
      if secondInRange b c then
        match rest' with
        | d :: rest'' =>
          if isContinuation d then
            (.char (Char.ofNat ((b.toNat - 0xe0) * 4096 + low c * 64 + low d)), rest'')
          else (.waste 2, rest')
        | [] => (.waste 2, rest')
      else (.waste 1, rest)
    | [] => (.waste 1, rest)
  else if 0xf0 ≤ b && b ≤ 0xf4 then
    match rest with
    | c :: rest' =>
      if secondInRange b c then
        match rest' with
        | d :: rest'' =>
          if isContinuation d then
            match rest'' with
            | e :: rest''' =>
              if isContinuation e then
                (.char (Char.ofNat
                  ((b.toNat - 0xf0) * 262144 + low c * 4096 + low d * 64 + low e)), rest''')
              else (.waste 3, rest'')
            | [] => (.waste 3, rest'')
          else (.waste 2, rest')
        | [] => (.waste 2, rest')
      else (.waste 1, rest)
    | [] => (.waste 1, rest)
  else (.waste 1, rest)

/-- Every front takes at least one byte. -/
theorem readChar_length (b : UInt8) (rest : List UInt8) :
    (readChar b rest).2.length ≤ rest.length := by
  unfold readChar
  repeat' split
  all_goals simp
  all_goals omega

/-- The fronts of some bytes, one after another. -/
def fronts : List UInt8 → List Front
  | [] => []
  | b :: rest =>
    (readChar b rest).1 :: fronts (readChar b rest).2
termination_by bytes => bytes.length
decreasing_by
  have := readChar_length b rest
  simp only [List.length_cons]
  omega

/-- The text of some bytes, if they are UTF-8. -/
def decode? (bytes : List UInt8) : Option String :=
  ((fronts bytes).mapM fun (front : Front) =>
    match front with
    | .char c => some c
    | .waste _ => none).map String.ofList

/-- The text of some bytes, with U+FFFD for each part that is no character. -/
def decodeLossy (bytes : List UInt8) : String :=
  String.ofList ((fronts bytes).map fun (front : Front) =>
    match front with
    | .char c => c
    | .waste _ => '\ufffd')

end Hotplug.Text
