import Hotplug.Options.Basic
import Hotplug.Text.Cut

/-!
# The command line

A flag stands before its value or is joined to it by `=`. A value may not look like a flag unless
it is joined. A flag is settled when the next one comes or the line ends: only then is it checked
that it has a value, that it was not given before, and that its value can be read. An unknown
argument ends the reading at once, whatever is not settled yet.

## Main definitions

* `CommandLine.Word` — what one argument looks like.
* `CommandLine.Progress` — what is settled, and the flag that is not.
* `Options.parse` — the options of a command line and an environment.
-/

namespace Hotplug.Options

namespace CommandLine

/-- What one argument looks like. -/
inductive Word where
  /-- Two dashes and a name, perhaps with a joined value. -/
  | long (name : String) (value : Option String)
  /-- One dash and letters. -/
  | short (letters : List Char)
  /-- Anything else. -/
  | plain (text : String)
  deriving DecidableEq, Repr

/-- The look of an argument. -/
def Word.ofText (text : String) : Word :=
  match text.toList with
  | '-' :: '-' :: rest =>
    match Text.cutChars? '=' rest with
    | some (name, value) => .long (String.ofList name) (some (String.ofList value))
    | none => .long (String.ofList rest) none
  | '-' :: c :: rest => .short (c :: rest)
  | _ => .plain text

/-- A flag that is not settled, and its value if it has one. -/
structure Pending where
  flag : Flag
  value : Option String
  deriving DecidableEq, Repr

/-- How far the reading has come. -/
structure Progress where
  options : Options := {}
  /-- The flags that are settled. -/
  given : List Flag := []
  pending : Option Pending := none
  deriving DecidableEq, Repr, Inhabited

/-- Settles a flag with a value. -/
def Progress.take (p : Progress) (flag : Flag) (value : String) : Except Refusal Progress :=
  if p.given.contains flag then .error .repeatedFlag
  else (flag.apply value p.options).map fun options =>
    { p with options, given := flag :: p.given }

/-- Settles the pending flag. -/
def Progress.settle (p : Progress) : Except Refusal Progress :=
  match p.pending with
  | none => .ok p
  | some ⟨_, none⟩ => .error .badValue
  | some ⟨flag, some value⟩ => { p with pending := none }.take flag value

/-- Whether the pending flag lacks its value. -/
def Progress.awaits (p : Progress) : Option Flag :=
  match p.pending with
  | some ⟨flag, none⟩ => some flag
  | _ => none

/-- Ends the reading with what the line asks for instead, if the pending flag can be settled. -/
def Progress.stop (p : Progress) (r : Refusal) : Except Refusal Progress :=
  p.settle.bind fun _ => .error r

/-- Reads a long flag. -/
def Progress.long (p : Progress) (name : String) (value : Option String) :
    Except Refusal Progress :=
  match Flag.ofName? name, value with
  | some flag, none => p.settle.map fun p => { p with pending := some ⟨flag, none⟩ }
  | some flag, some value => p.settle.bind fun p => p.take flag value
  | none, none =>
    if name = "help" then p.stop .helpAsked
    else if name = "version" then p.stop .versionAsked
    else .error .unknownArgument
  | none, some _ =>
    .error (if name = "help" || name = "version" then .unexpectedValue else .unknownArgument)

/-- Reads short flags: there are two, and the first ends the reading. -/
def Progress.short (p : Progress) (letters : List Char) : Except Refusal Progress :=
  match letters with
  | 'h' :: _ => p.stop .helpAsked
  | 'V' :: _ => p.stop .versionAsked
  | _ => .error .unknownArgument

/-- Reads one argument. A plain one must be the value of the pending flag. -/
def Progress.read (p : Progress) (text : String) : Except Refusal Progress :=
  match Word.ofText text with
  | .long name value => p.long name value
  | .short letters => p.short letters
  | .plain text =>
    match p.awaits with
    | some flag => .ok { p with pending := some ⟨flag, some text⟩ }
    | none => .error .unknownArgument

/-- Reads arguments. After two dashes alone no argument is known. -/
def Progress.readAll : List String → Progress → Except Refusal Progress
  | [], p => p.settle
  | text :: rest, p =>
    if text = "--" then (if rest.isEmpty then p.settle else .error .unknownArgument)
    else (p.read text).bind (readAll rest)

/-- Reads the variables of the flags that were not given. -/
def readEnvironment (env : String → Option String) : List Flag → Progress → Except Refusal Progress
  | [], p => .ok p
  | flag :: rest, p =>
    if p.given.contains flag then readEnvironment env rest p
    else
      match env flag.variableName with
      | none => readEnvironment env rest p
      | some value => (p.take flag value).bind (readEnvironment env rest)

end CommandLine

open CommandLine in
/-- The options of a command line and an environment. A flag hides its variable. -/
def parse (arguments : List String) (env : String → Option String) : Except Refusal Options :=
  ((Progress.readAll arguments {}).bind (readEnvironment env Flag.all)).map (·.options)

end Hotplug.Options
