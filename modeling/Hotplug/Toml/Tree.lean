import Hotplug.Json.Basic

/-!
# TOML tables while they are read

A table may be written in several places, and each place fixes what later places may add: a table
is headed once, keys with dots add to tables that keys with dots have made, and a value in brackets
or braces is complete.

## Main definitions

* `Toml.Node` — a value, a table with how it came about, or a list of tables.
* `Toml.setAt?`, `Toml.headAt?`, `Toml.appendAt?` — writes a value, a table, and an item of a list.
* `Toml.Node.toJson` — the value of what was read.
-/

namespace Hotplug.Toml

/-- How a table came about. -/
inductive Origin where
  /-- It has a header of its own. -/
  | headed
  /-- It is on the path of a header. -/
  | implied
  /-- It is on the path of a key with dots. -/
  | dotted
  deriving DecidableEq, Repr

/-- What is written under a key. -/
inductive Node where
  /-- A complete value. -/
  | value (j : Json)
  /-- A table. -/
  | table (origin : Origin) (members : List (String × Node))
  /-- A list of tables, the latest last. -/
  | tables (before : List (List (String × Node))) (latest : List (String × Node))

/-- The members of a table. -/
abbrev Members : Type := List (String × Node)

mutual

/-- The value of a node. -/
def Node.toJson : Node → Json
  | .value j => j
  | .table _ members => .object (membersToJson members)
  | .tables before latest => .array (tablesToJson before ++ [.object (membersToJson latest)])

/-- The values of members. -/
def membersToJson : List (String × Node) → List (String × Json)
  | [] => []
  | (key, node) :: rest => (key, node.toJson) :: membersToJson rest

/-- The values of tables. -/
def tablesToJson : List (List (String × Node)) → List Json
  | [] => []
  | members :: rest => .object (membersToJson members) :: tablesToJson rest

end

/-- What is under a key. -/
def find? (key : String) (ms : Members) : Option Node :=
  ms.lookup key

/-- The members with a node under a key. -/
def replace (key : String) (node : Node) (ms : Members) : Members :=
  if ms.any (·.1 == key) then ms.map fun m => if m.1 == key then (key, node) else m
  else ms ++ [(key, node)]

/-- Changes what is under a key. Going through a key with dots makes a table there or needs one
that no header made; going through a header goes through any table, and into the latest of a
list. -/
def within (dots : Bool) (key : String) (change : Members → Option Members) (ms : Members) :
    Option Members :=
  match find? key ms with
  | none => (change []).map fun inner =>
      replace key (.table (if dots then .dotted else .implied) inner) ms
  | some (.value _) => none
  | some (.table origin inner) =>
    if dots && origin = .headed then none
    else (change inner).map fun inner => replace key (.table origin inner) ms
  | some (.tables before latest) =>
    if dots then none else (change latest).map fun latest => replace key (.tables before latest) ms

/-- Goes through some keys and then changes the members there. -/
def through (dots : Bool) (change : Members → Option Members) : List String → Members →
    Option Members
  | [], ms => change ms
  | key :: path, ms => within dots key (through dots change path) ms

/-- Writes a value under a key that has none. -/
def setHere? (key : String) (j : Json) (ms : Members) : Option Members :=
  if (find? key ms).isSome then none else some (replace key (.value j) ms)

/-- Heads a table that was at most implied so far. -/
def headHere? (key : String) (ms : Members) : Option Members :=
  match find? key ms with
  | none => some (replace key (.table .headed []) ms)
  | some (.table .implied inner) => some (replace key (.table .headed inner) ms)
  | _ => none

/-- Adds a table to a list of tables. -/
def appendHere? (key : String) (ms : Members) : Option Members :=
  match find? key ms with
  | none => some (replace key (.tables [] []) ms)
  | some (.tables before latest) => some (replace key (.tables (before ++ [latest]) []) ms)
  | _ => none

/-- Writes a value at a key with dots, in the table at a header. -/
def setAt? (header path : List String) (key : String) (j : Json) (ms : Members) :
    Option Members :=
  through false (through true (setHere? key j) path) header ms

/-- Heads the table at a path. -/
def headAt? (path : List String) (key : String) (ms : Members) : Option Members :=
  through false (headHere? key) path ms

/-- Adds a table to the list at a path. -/
def appendAt? (path : List String) (key : String) (ms : Members) : Option Members :=
  through false (appendHere? key) path ms

end Hotplug.Toml
