import Hotplug.Error
import Hotplug.Table

/-!
# The storage class policy

The operator of the infra cluster decides which of its storage classes tenants may use, and with
which snapshot classes a storage class may be snapshotted.

## Main definitions

* `Policy` — the operator's document.
* `Policy.isAllowed`, `Policy.checkStorageClass` — the verdict on a storage class.
* `Policy.needsDefaultLookup` — whether the verdict depends on the class being the default.
* `SnapshotRestriction`, `Policy.permittedSnapshotClasses` — what snapshots of a class may use.
* `Policy.checkSnapshotClass` — the decision on a requested snapshot class.
-/

namespace Hotplug

/-- A set of names, in ascending order. -/
abbrev NameSet := Table Unit

namespace NameSet

/-- The set of some names. -/
def ofNames (names : List String) : NameSet :=
  Table.ofList (names.map (·, ()))

/-- The members in ascending order. -/
def names (s : NameSet) : List String :=
  s.entries.map (·.1)

/-- Whether a name is a member. -/
def contains (s : NameSet) (name : String) : Bool :=
  s.names.contains name

end NameSet

/-- The snapshot classes that a group of storage classes may be snapshotted with. -/
structure SnapshotMapping where
  storageClasses : List String := []
  snapshotClasses : List String := []
  deriving DecidableEq, Repr, Inhabited

/-- What tenants may use of the infra cluster's storage. -/
structure Policy where
  /-- Every storage class. -/
  allowAll : Bool := false
  /-- The cluster's default storage class. -/
  allowDefault : Bool := false
  /-- These storage classes. -/
  allowList : List String := []
  /-- The snapshot classes of some storage classes. -/
  snapshotMapping : List SnapshotMapping := []
  deriving DecidableEq, Repr, Inhabited

/-- The snapshot classes a storage class may be snapshotted with. -/
inductive SnapshotRestriction where
  /-- Any. -/
  | unrestricted
  /-- Only these. -/
  | only (classes : NameSet)
  deriving DecidableEq, Repr, Inhabited

/-- Whether a restriction lets a snapshot class through. -/
def SnapshotRestriction.permits (snapshotClass : String) : SnapshotRestriction → Bool
  | unrestricted => true
  | only classes => classes.contains snapshotClass

/-- What follows from a permitted request for a snapshot class. -/
inductive SnapshotDecision where
  /-- Use this class. -/
  | use (snapshotClass : String)
  /-- Use the provisioner's default, if the restriction lets it through. -/
  | useDefault (restriction : SnapshotRestriction)
  deriving DecidableEq, Repr, Inhabited

namespace Policy

/-- The policy of a driver without a document: everything is allowed. -/
def permissive : Policy :=
  { allowAll := true }

/-- Whether tenants may use a storage class. -/
def isAllowed (p : Policy) (storageClass : String) (isDefault : Bool) : Bool :=
  p.allowAll || p.allowList.contains storageClass || (p.allowDefault && isDefault)

/-- Whether the verdict on a storage class depends on its being the default. -/
def needsDefaultLookup (p : Policy) (storageClass : String) : Bool :=
  !p.allowAll && p.allowDefault && !p.allowList.contains storageClass

/-- A storage class as messages show it; an empty name stands for the default class. -/
def shownClass (storageClass : String) : String :=
  if storageClass.isEmpty then "<cluster default>" else storageClass

/-- Refuses a storage class that tenants may not use. -/
def checkStorageClass (p : Policy) (storageClass : String) (isDefault : Bool) :
    Except DriverError Unit :=
  if p.isAllowed storageClass isDefault then .ok ()
  else .error (.permissionDenied
    ("infra storage class " ++ shownClass storageClass ++
      " is not allowed by the storage class enforcement policy"))

/-- The mappings that name a storage class. -/
def mappingsOf (p : Policy) (storageClass : String) : List SnapshotMapping :=
  p.snapshotMapping.filter (·.storageClasses.contains storageClass)

/-- What a storage class may be snapshotted with: the classes of all mappings that name it, and
anything where none does. -/
def permittedSnapshotClasses (p : Policy) (storageClass : String) : SnapshotRestriction :=
  match p.mappingsOf storageClass with
  | [] => .unrestricted
  | mappings => .only (NameSet.ofNames (mappings.flatMap (·.snapshotClasses)))

/-- The decision on a requested snapshot class. A name must be permitted. Without a name, the only
permitted class is used, or else the default. -/
def checkSnapshotClass (p : Policy) (storageClass requested : String) :
    Except DriverError SnapshotDecision :=
  let restriction := p.permittedSnapshotClasses storageClass
  if !requested.isEmpty then
    if restriction.permits requested then .ok (.use requested)
    else .error (.permissionDenied
      ("volume snapshot class " ++ requested ++ " is not permitted for storage class " ++
        storageClass))
  else
    match restriction with
    | .unrestricted => .ok (.useDefault restriction)
    | .only classes =>
      match classes.names with
      | [] => .error (.permissionDenied
          ("no volume snapshot class is permitted for storage class " ++ storageClass))
      | [name] => .ok (.use name)
      | _ => .ok (.useDefault restriction)

end Policy

end Hotplug
