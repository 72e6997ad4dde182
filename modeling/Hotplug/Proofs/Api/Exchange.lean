import Hotplug.Api.Backend
import Hotplug.Cluster.Resolve
import Hotplug.Json.Printer
import Hotplug.Proofs.Json
import Hotplug.Proofs.Program
import Hotplug.Proofs.Text

/-!
# What is asked of the API server, and what its answers come to

To read, to make or to change an object is to send one request, or none where a name makes no
location, and to go on with what the answer comes to. That is a function of the answer alone: the
text, the object, the volume that it brings, or the failure.

## Main definitions

* `locationOf? kind ns name` — where a named object is.
* `objectIn shape answer`, `brought kind answer` — the object that an answer brings.
* `volumeIn ns name answer` — the volume that it brings.
* `telling status object` — the answer of a server that writes an object.

## Main results

* `exchange_eq`, `get?_eq`, `create_eq`, `makeVolume_eq` — each is one request.
* `onServer_bind` — a program on the server is its parts on the server.
* `onServer_ensureVolume` — to make sure of a volume is to look first, and to go on with what is
  found.
-/

namespace Hotplug.Api

open Http

/-- Whether results are equal can be decided, so that what an answer comes to can be evaluated. -/
instance decidableEqResult {α ε : Type} [DecidableEq α] [DecidableEq ε] : DecidableEq (Except ε α)
  | .ok a, .ok b => decidable_of_iff (a = b) (by rw [Except.ok.injEq])
  | .error e, .error e' => decidable_of_iff (e = e') (by rw [Except.error.injEq])
  | .ok _, .error _ => .isFalse nofun
  | .error _, .ok _ => .isFalse nofun

variable {kind : Kind} {ns : Option String} {name place : String} {location : Location}

/-! ### Exchanges -/

/-- The text that an answer brings. -/
def textIn : Option Response → Except ApiFailure String
  | none => .error .transport
  | some response => textOf response

/-- The object of a shape that an answer brings. -/
def objectIn (shape : Schema) (answer : Option Response) : Except ApiFailure Json :=
  match textIn answer with
  | .error failure => .error failure
  | .ok text =>
    match (Json.parse? text).filter shape.accepts with
    | some object => .ok object
    | none => .error .unparsable

/-- What an answer brings of an object of a kind: the object, or nothing where the server says that
there is none. -/
def brought (kind : Kind) (answer : Option Response) : Except ApiFailure (Option Json) :=
  match objectIn kind.shape answer with
  | .ok object => .ok (some object)
  | .error failure => if failure = .answered "NotFound" then .ok none else .error failure

/-- An object is brought if the answer tells of no error, and its text is the object. -/
theorem objectIn_eq_ok_iff {shape : Schema} {answer : Option Response} {object : Json} :
    objectIn shape answer = .ok object ↔ ∃ response text, answer = some response ∧
      textOf response = .ok text ∧ Json.parse? text = some object ∧ shape.accepts object = true := by
  constructor
  · intro h
    cases answer with
    | none => cases h
    | some response =>
      unfold objectIn at h
      rw [textIn] at h
      cases htext : textOf response with
      | error failure =>
        rw [htext] at h
        cases h
      | ok text =>
        rw [htext] at h
        simp only at h
        split at h
        · next hfound =>
          cases h
          obtain ⟨hparsed, haccepted⟩ := Option.filter_eq_some_iff.1 hfound
          exact ⟨response, text, rfl, htext, hparsed, haccepted⟩
        · cases h
  · rintro ⟨response, text, rfl, htext, hparsed, haccepted⟩
    have hfound : (Json.parse? text).filter shape.accepts = some object :=
      Option.filter_eq_some_iff.2 ⟨hparsed, haccepted⟩
    unfold objectIn
    rw [textIn, htext]
    simp only [hfound]

/-- The answer of a server that writes an object. -/
def telling (status : Nat) (object : Json) : Response :=
  ⟨status, (Json.render object).toUTF8.data.toList⟩

/-- A server that writes an object with seven-bit characters brings it, if it is parsed as it was
written. -/
theorem objectIn_telling {shape : Schema} {status : Nat} {object : Json} (hstatus : status < 400)
    (hascii : (object.renderChars.all fun c => c.toNat < 128) = true)
    (hparsed : Json.parseChars? object.renderChars = some object)
    (haccepted : shape.accepts object = true) :
    objectIn shape (some (telling status object)) = .ok object := by
  have hok : (telling status object).isError = false := by
    unfold Response.isError telling
    rw [decide_eq_false (Nat.not_le.2 hstatus), Bool.false_and]
  have htext : textOf (telling status object) = .ok object.render := by
    have hdecoded : Text.decode? (telling status object).body = some object.render :=
      Text.decode?_ascii fun c hc => of_decide_eq_true (List.all_eq_true.1 hascii c hc)
    unfold textOf
    simp only [hdecoded, hok]
    rfl
  exact objectIn_eq_ok_iff.2 ⟨_, _, rfl, htext, (Json.parse?_ofList _).trans hparsed, haccepted⟩

theorem brought_eq_some_iff {answer : Option Response} {object : Json} :
    brought kind answer = .ok (some object) ↔ objectIn kind.shape answer = .ok object := by
  unfold brought
  cases objectIn kind.shape answer with
  | ok found => simp
  | error failure =>
    by_cases hmissing : failure = .answered "NotFound"
    · simp [hmissing]
    · simp [hmissing]

/-- A request to a place that is a location is one request, and then its answer is read. -/
theorem exchange_eq (hplace : Location.ofText place = .ok location) (method : Method)
    (body : Option Json) :
    (exchange method place body).run =
      .ask ⟨method, location, body⟩ fun answer => .done (textIn answer) := by
  unfold exchange
  rw [hplace]
  refine congrArg (Program.ask _) (funext fun answer => ?_)
  cases answer <;> rfl

/-- Reading an object of a shape out of what an exchange brings. -/
theorem shapedExchange_eq (hplace : Location.ofText place = .ok location) (method : Method)
    (body : Option Json) (shape : Schema) :
    (exchange method place body >>= shaped shape).run =
      .ask ⟨method, location, body⟩ fun answer => .done (objectIn shape answer) := by
  rw [ExceptT.run_bind, exchange_eq hplace]
  refine congrArg (Program.ask _) (funext fun answer => ?_)
  rw [Program.done_bind]
  unfold objectIn
  cases textIn answer with
  | error failure => rfl
  | ok text =>
    simp only
    unfold shaped
    cases (Json.parse? text).filter shape.accepts <;> rfl

/-- As a part of an operation one request is still one request, and a failure names the
operation. -/
theorem during_eq {α : Type} {call : Call α} {r : Request}
    {f : Option Response → Except ApiFailure α}
    (h : call.run = .ask r fun answer => .done (f answer)) (operation : String) :
    (call.during operation).run =
      .ask r fun answer => .done ((f answer).mapError (DriverError.api operation)) := by
  unfold Call.during
  rw [h]
  refine congrArg (Program.ask _) (funext fun answer => ?_)
  simp only [Program.done_bind]
  cases f answer <;> rfl

/-! ### Named objects -/

/-- Where a named object is. There is no such place for the empty name, nor for a name that makes
no location. -/
def locationOf? (kind : Kind) (ns : Option String) (name : String) : Option Location :=
  if name.isEmpty then none else (Location.ofText (kind.path ns ++ "/" ++ name)).toOption

theorem locationOf?_eq_some_iff : locationOf? kind ns name = some location ↔
    name ≠ "" ∧ Location.ofText (kind.path ns ++ "/" ++ name) = .ok location := by
  unfold locationOf?
  by_cases hname : name = ""
  · simp [hname]
  · cases Location.ofText (kind.path ns ++ "/" ++ name) with
    | error e => simp [hname, Except.toOption]
    | ok l => simp [hname, Except.toOption]

/-- To read an object is one request. -/
theorem get?_eq (h : locationOf? kind ns name = some location) :
    (get? kind ns name).run = .ask ⟨.get, location, none⟩ fun answer =>
      .done (brought kind answer) := by
  obtain ⟨hname, hplace⟩ := locationOf?_eq_some_iff.1 h
  have hread : (get?.read kind ns name).run = .ask ⟨.get, location, none⟩ fun answer =>
      .done (objectIn kind.shape answer) := by
    rw [← shapedExchange_eq hplace]
    unfold get?.read placeOf
    rw [if_neg (by simpa using hname)]
    rfl
  change (get?.read kind ns name).run.bind _ = _
  rw [hread]
  refine congrArg (Program.ask _) (funext fun answer => ?_)
  unfold brought
  rw [Program.done_bind]
  cases objectIn kind.shape answer <;> rfl

/-- Without a location nothing is asked. -/
theorem get?_eq_of_none (h : locationOf? kind ns name = none) :
    (get? kind ns name).run = .done (.error .unbuildable) := by
  have hread : (get?.read kind ns name).run = .done (.error .unbuildable) := by
    unfold get?.read placeOf
    unfold locationOf? at h
    by_cases hname : name.isEmpty = true
    · rw [if_pos hname]
      rfl
    · rw [if_neg hname] at h ⊢
      change (exchange .get (kind.path ns ++ "/" ++ name) none >>= shaped kind.shape).run = _
      unfold exchange
      cases hplace : Location.ofText (kind.path ns ++ "/" ++ name) with
      | error e => rfl
      | ok l =>
        rw [hplace] at h
        cases h
  change (get?.read kind ns name).run.bind _ = _
  rw [hread]
  rfl

/-- To make an object is one request. -/
theorem create_eq (hplace : Location.ofText (kind.path ns ++ "?") = .ok location) (object : Json) :
    (create kind ns object).run = .ask ⟨.post, location, some object⟩ fun answer =>
      .done (objectIn kind.shape answer) :=
  shapedExchange_eq hplace .post (some object) kind.shape

/-- To make an object and read it is one request. -/
theorem createThen_eq {α : Type}
    (hplace : Location.ofText (kind.path ns ++ "?") = .ok location) (object : Json)
    (operation : String) (read : Json → Except DriverError α) :
    ((create kind ns object).during operation >>= fun made => Attempt.ofExcept (read made)).run =
      .ask ⟨.post, location, some object⟩ fun answer =>
        .done (((objectIn kind.shape answer).mapError (.api operation)).bind read) := by
  rw [ExceptT.run_bind, during_eq (create_eq hplace object)]
  refine congrArg (Program.ask _) (funext fun answer => ?_)
  simp only [Program.done_bind]
  cases objectIn kind.shape answer <;> rfl

/-! ### Volumes -/

/-- A program on the server is its parts on the server. -/
theorem onServer_bind {α β : Type} (p : Program Cluster.interface α)
    (f : α → Program Cluster.interface β) :
    onServer (p.bind f) = (onServer p).bind fun a => onServer (f a) :=
  Program.expand_bind _ p f

/-- The volume that an answer brings. -/
def volumeIn (ns name : String) (answer : Option Response) :
    Except DriverError (Option RemoteVolume) :=
  match brought .volume answer with
  | .error failure => .error (.api ("get DataVolume " ++ ns ++ "/" ++ name) failure)
  | .ok none => .ok none
  | .ok (some object) => (RemoteVolume.ofObject object).map some

/-- A volume is brought if an object is that can be read as one. -/
theorem volumeIn_eq_some_iff {ns : String} {answer : Option Response} {v : RemoteVolume} :
    volumeIn ns name answer = .ok (some v) ↔
      ∃ object, brought .volume answer = .ok (some object) ∧ RemoteVolume.ofObject object = .ok v := by
  unfold volumeIn
  rcases brought .volume answer with failure | found
  · simp
  · cases found with
    | none => simp
    | some object => cases hobject : RemoteVolume.ofObject object <;> simp [hobject, Except.map]

theorem findVolume_eq {ns : String} (h : locationOf? .volume ns name = some location) :
    (findVolume ns name).run = .ask ⟨.get, location, none⟩ fun answer =>
      .done (volumeIn ns name answer) := by
  unfold findVolume
  rw [ExceptT.run_bind, during_eq (get?_eq h)]
  refine congrArg (Program.ask _) (funext fun answer => ?_)
  simp only [Program.done_bind]
  unfold volumeIn
  rcases brought .volume answer with failure | found
  · rfl
  · cases found with
    | none => rfl
    | some object =>
      change (some <$> Attempt.ofExcept (RemoteVolume.ofObject object) : Attempt _ _).run = _
      simp only
      cases RemoteVolume.ofObject object <;> rfl

/-- To make a volume is to send its object, and to read the one that comes back. -/
theorem makeVolume_eq {ns : String} {v : NewVolume}
    (hplace : Location.ofText (Kind.volume.path ns ++ "?") = .ok location) :
    (makeVolume ns v).run = .ask ⟨.post, location, some (v.toObject ns)⟩ fun answer =>
      .done (((objectIn Kind.volume.shape answer).mapError
        (.api ("create DataVolume " ++ ns ++ "/" ++ v.name))).bind RemoteVolume.ofObject) :=
  createThen_eq hplace _ _ _

/-- Without a location no volume can be made. -/
theorem makeVolume_of_error {ns : String} {v : NewVolume} {e : Location.Error}
    (hplace : Location.ofText (Kind.volume.path ns ++ "?") = .error e) :
    (makeVolume ns v).run =
      .done (.error (.api ("create DataVolume " ++ ns ++ "/" ++ v.name) .unbuildable)) := by
  unfold makeVolume create exchange
  rw [hplace]
  rfl

/-- **To make sure of a volume is to look first, and to go on with what is found.** -/
theorem onServer_ensureVolume {ns : String} {wanted : NewVolume}
    (h : locationOf? .volume ns wanted.name = some location) :
    onServer (Cluster.ensureVolume ns wanted).run = .ask ⟨.get, location, none⟩ fun answer =>
      match volumeIn ns wanted.name answer with
      | .error e => .done (.error e)
      | .ok none => (makeVolume ns wanted).run
      | .ok (some existing) => .done (Cluster.reuse ns wanted existing) := by
  unfold Cluster.ensureVolume
  rw [ExceptT.run_bind, Program.bind_eq, onServer_bind]
  have hlook : onServer (Cluster.getVolume ns wanted.name).run =
      .ask ⟨.get, location, none⟩ fun answer => .done (volumeIn ns wanted.name answer) := by
    rw [← findVolume_eq h]
    exact Program.bind_done _
  rw [hlook]
  refine congrArg (Program.ask _) (funext fun answer => ?_)
  rw [Program.done_bind]
  rcases volumeIn ns wanted.name answer with e | found
  · rfl
  · cases found with
    | none => exact Program.bind_done _
    | some existing => rfl

/-- Without a location the volume can not be looked for. -/
theorem onServer_ensureVolume_of_none {ns : String} {wanted : NewVolume}
    (h : locationOf? .volume ns wanted.name = none) :
    onServer (Cluster.ensureVolume ns wanted).run =
      .done (.error (.api ("get DataVolume " ++ ns ++ "/" ++ wanted.name) .unbuildable)) := by
  unfold Cluster.ensureVolume
  rw [ExceptT.run_bind, Program.bind_eq, onServer_bind]
  have hlook : onServer (Cluster.getVolume ns wanted.name).run =
      .done (.error (.api ("get DataVolume " ++ ns ++ "/" ++ wanted.name) .unbuildable)) := by
    change (findVolume ns wanted.name).run.bind _ = _
    unfold findVolume Call.during
    rw [ExceptT.run_bind, get?_eq_of_none h]
    rfl
  rw [hlook]
  rfl

end Hotplug.Api
