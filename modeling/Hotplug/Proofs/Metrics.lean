import Mathlib.Data.List.Count
import Mathlib.Data.List.Nodup
import Hotplug.Cluster.Memory
import Hotplug.Host.Memory
import Hotplug.Proofs.Node.Format
import Hotplug.Proofs.Services

/-!
# The counts are exact

Every call that is counted is counted once, when it is answered, and with it what it achieved: that
a volume was plugged, unplugged, or given a filesystem. So after any run the counts tell what the
calls asked, how they were answered, and what was said to the world for them.

## Main definitions

* `Metrics.failures`, `Metrics.occurrences` — how often a method failed with a code, and how often
  an event happened, by the counts.
* `Services.Turn.plugs`, `Services.Turn.unplugs`, `Services.Turn.made` — what a call achieved, by
  its answer and what was said on the way to it.
* `Services.Exact` — the counts are those of some answered calls.

## Main results

* `Metrics.occurrences_observe` and its like — what one answered call adds.
* `Services.Turn.count_events` — the events of an answer are what was achieved.
* `Services.metrics_exact` — **the counts are exact, and change nothing.**
-/

namespace Hotplug

/-! ### Counting -/

theorem countOf_countUp (t : Table Nat) (key key' : String) :
    countOf (countUp t key) key' = countOf t key' + if key = key' then 1 else 0 := by
  unfold countUp
  rw [countOf, Table.get?_insert]
  by_cases h : key' = key
  · simp [h]
  · simp [h, Ne.symm h, countOf]

/-- Codes are told apart by their names. -/
theorem Code.name_inj {c c' : Code} (h : c.name = c'.name) : c = c' := by
  have hdistinct : (Code.all.map Code.name).Nodup := by decide
  have hall : ∀ c : Code, c ∈ Code.all := fun c => by cases c <;> decide
  exact List.inj_on_of_nodup_map hdistinct (hall c) (hall c') h

namespace Metrics

/-- How many durations of a method are counted. -/
def measured (m : Metrics) (method : String) : Nat :=
  ((m.durations.get? method).getD {}).count

/-- How often a method failed with a code, by the counts. -/
def failures (m : Metrics) (method : String) (code : Code) : Nat :=
  countOf ((m.errors.get? code.name).getD .empty) method

/-- How often an event happened, by the counts. -/
def occurrences (m : Metrics) : Event → Nat
  | .attached => countOf m.hotplugs "attach"
  | .detached => countOf m.hotplugs "detach"
  | .formatted fsType => countOf m.formats fsType

theorem occurrences_recordEvent (m : Metrics) (e e' : Event) :
    (m.recordEvent e).occurrences e' = m.occurrences e' + if e = e' then 1 else 0 := by
  cases e <;> cases e' <;>
    simp [occurrences, recordEvent, recordHotplug, recordFormat, countOf_countUp]

theorem occurrences_recordEvents (m : Metrics) (events : List Event) (e : Event) :
    (events.foldl recordEvent m).occurrences e = m.occurrences e + events.count e := by
  induction events generalizing m with
  | nil => rfl
  | cons first events ih =>
    rw [List.foldl_cons, ih, occurrences_recordEvent, List.count_cons, Nat.add_assoc]
    simp [Nat.add_comm]

/-- To count events leaves the counts of the requests as they are. -/
theorem recordEvents_requests (m : Metrics) (events : List Event) :
    (events.foldl recordEvent m).operations = m.operations ∧
      (events.foldl recordEvent m).measured = m.measured ∧
        (events.foldl recordEvent m).failures = m.failures := by
  induction events generalizing m with
  | nil => exact ⟨rfl, rfl, rfl⟩
  | cons first events ih =>
    obtain ⟨hoperations, hmeasured, hfailures⟩ := ih (m.recordEvent first)
    cases first <;> exact ⟨hoperations, hmeasured, hfailures⟩

/-! ### What one answered call adds -/

section Observe

variable {α : Type} (m : Metrics) (method? : Option String) (seconds : Double)
  (answer : Except Status (Outcome α))

theorem operations_observe (method : String) :
    countOf (m.observe method? seconds answer).operations method =
      countOf m.operations method + if method? = some method then 1 else 0 := by
  cases method? with
  | none => rfl
  | some counted =>
    cases answer with
    | error status => simp [observe, recordOperation, countOf_countUp]
    | ok outcome =>
      obtain ⟨hoperations, -, -⟩ := recordEvents_requests m outcome.events
      simp [observe, recordOperation, hoperations, countOf_countUp]

/-- A call that is counted has its duration measured once. -/
theorem measured_recordOperation (counted : String) (error : Option Code) (method : String) :
    (m.recordOperation counted seconds error).measured method =
      m.measured method + if counted = method then 1 else 0 := by
  unfold measured recordOperation
  rw [Table.get?_insert]
  by_cases h : method = counted
  · subst h
    simp [Histogram.add]
  · simp [h, Ne.symm h]

theorem measured_observe (method : String) :
    (m.observe method? seconds answer).measured method =
      m.measured method + if method? = some method then 1 else 0 := by
  cases method? with
  | none => rfl
  | some counted =>
    cases answer with
    | error status => simp [observe, measured_recordOperation]
    | ok outcome =>
      obtain ⟨-, hmeasured, -⟩ := recordEvents_requests m outcome.events
      simp [observe, measured_recordOperation, hmeasured]

theorem failures_recordOperation (counted : String) (error : Option Code) (method : String)
    (code : Code) :
    (m.recordOperation counted seconds error).failures method code =
      m.failures method code + if counted = method ∧ error = some code then 1 else 0 := by
  cases error with
  | none => simp [recordOperation, failures]
  | some found =>
    unfold failures recordOperation
    rw [Table.get?_insert]
    by_cases h : code.name = found.name
    · obtain rfl := Code.name_inj h
      simp [countOf_countUp]
    · have hne : found ≠ code := fun heq => h (congrArg Code.name heq.symm)
      simp [h, hne]

theorem failures_observe (method : String) (code : Code) :
    (m.observe method? seconds answer).failures method code =
      m.failures method code +
        if method? = some method ∧ codeOf answer = some code then 1 else 0 := by
  cases method? with
  | none => simp [observe]
  | some counted =>
    cases answer with
    | error status => simp [observe, failures_recordOperation, codeOf]
    | ok outcome =>
      obtain ⟨-, -, hfailures⟩ := recordEvents_requests m outcome.events
      simp [observe, failures_recordOperation, hfailures, codeOf]

theorem occurrences_observe (e : Event) :
    (m.observe method? seconds answer).occurrences e =
      m.occurrences e + if method?.isSome then (eventsOf answer).count e else 0 := by
  have hrequest : ∀ (m : Metrics) (method : String) (error : Option Code),
      (m.recordOperation method seconds error).occurrences e = m.occurrences e := by
    intro m method error
    cases e <;> rfl
  cases method? with
  | none => rfl
  | some counted =>
    cases answer with
    | error status => exact hrequest m counted _
    | ok outcome => exact (hrequest _ counted _).trans (occurrences_recordEvents m _ e)

end Observe

end Metrics

/-! ### What a call achieved -/

/-- Whether a node id led to a virtual machine, by what the cluster said. -/
def Cluster.resolved (ns nodeId : String) (said : List (Exchange Cluster.interface)) : Bool :=
  match Program.follow (resolveInstance ns nodeId).run said with
  | some (.ok _) => true
  | _ => false

/-- The machine of a node is there if the node id leads to one. -/
theorem Controller.resolved_of_instance? {s : Settings} {nodeId : String}
    {t : List (Exchange Cluster.interface)} {vm? : Option InstanceRef}
    (h : Conversation (instance? s nodeId).run t (.ok vm?))
    (later : List (Exchange Cluster.interface)) :
    Cluster.resolved s.ns nodeId (t ++ later) = vm?.isSome := by
  unfold Cluster.resolved
  rcases conversation_orMissing_ok_iff.1 h with hfound |
    ⟨t₁, t₂, kind, name, rfl, hmissing, hnone⟩
  · obtain ⟨x, hx, hvm⟩ := conversation_andReturn_iff.1 hfound
    rw [hx.follow_append]
    cases x with
    | error e => cases hvm
    | ok vm =>
      cases hvm
      rfl
  · obtain ⟨x, hx, hvm⟩ := conversation_andReturn_iff.1 hmissing
    obtain ⟨-, hvm?⟩ := conversation_pure_iff.1 hnone
    rw [List.append_assoc, hx.follow_append]
    cases x with
    | ok vm => cases hvm
    | error e =>
      cases hvm?
      rfl

/-- To unplug a volume is to find out first whether the node id leads to a virtual machine. -/
theorem Controller.resolved_of_unpublish {s : Settings} {r : UnpublishVolume}
    {t : List (Exchange Cluster.interface)} {found : Bool}
    (h : Conversation (unpublish s r).run t (.ok found)) :
    Cluster.resolved s.ns r.nodeId t = found := by
  unfold unpublish at h
  split at h
  · obtain ⟨-, hnot⟩ := conversation_done_iff.1 h
    cases hnot
  · obtain ⟨t₁, t₂, vm?, rfl, hresolve, hrest⟩ := conversation_ok_iff.1 h
    rw [resolved_of_instance? hresolve]
    cases vm? with
    | none =>
      obtain ⟨-, hfound⟩ := conversation_pure_iff.1 hrest
      exact (Except.ok.inj hfound).symm
    | some vm =>
      obtain ⟨x, -, hfound⟩ := conversation_andReturn_iff.1 hrest
      cases x with
      | error e => cases hfound
      | ok a => exact (Except.ok.inj hfound).symm

/-- The filesystem that an exchange has made. -/
def Host.made? : Exchange Host.interface → Option String
  | ⟨.makeFilesystem _ fsType, .ok ()⟩ => some fsType
  | _ => none

theorem Host.made?_eq_none {e : Exchange Host.interface} (h : e.request.isFormat = false) :
    made? e = none := by
  obtain ⟨request, answer⟩ := e
  cases request with
  | makeFilesystem path fsType => cases h
  | _ => rfl

/-- The events of staging are the filesystems that it has made. -/
theorem Node.events_of_stage {r : StageVolume} {t : List (Exchange Host.interface)}
    {y : Except DriverError (List Event)} (h : Conversation (stage r).run t y) :
    y.toOption.getD [] = (t.filterMap Host.made?).map .formatted := by
  rcases conversation_stage h with ⟨e, -, rfl, rfl⟩ | ⟨wanted, -, hfind⟩
  · rfl
  cases hfind with
  | nameless hserial e => rfl
  | unlisted hserial e => rfl
  | unresolved hserial devices hd => rfl
  | resolved hserial devices hd hrest =>
    rcases conversation_format hrest with ⟨rfl, rfl⟩ | ⟨fsType, x, -, -, rfl, rfl⟩
    · rfl
    · cases x <;> rfl

namespace Services

namespace Turn

/-- Whether a call is one of a method. -/
def isOf (method : String) (u : Turn) : Bool :=
  u.call.method? == some method

/-- Whether a call of a method was answered with a code. -/
def failsWith (method : String) (code : Code) (u : Turn) : Bool :=
  u.isOf method && Metrics.codeOf u.answer == some code

/-- Whether a volume was plugged: a call to do so has succeeded. -/
def plugs : Turn → Bool
  | ⟨.controller _ (.publishVolume _), _, .ok _⟩ => true
  | _ => false

/-- Whether a volume was unplugged from a virtual machine: a call to do so has succeeded, and its
node id led to one. -/
def unplugs (ns : String) : Turn → Bool
  | ⟨.controller _ (.unpublishVolume r), said, .ok _⟩ => Cluster.resolved ns r.nodeId said
  | _ => false

/-- The filesystems that were made for a call. -/
def made : Turn → List String
  | ⟨.controller _ _, _, _⟩ => []
  | ⟨.node _, said, _⟩ => said.filterMap Host.made?

variable {σ : Type} {d : Services σ} {u : Turn}
  {outcome : Except Status (Outcome u.call.Response)}

/-- **The events of an answer are what was achieved.** -/
theorem events_eq (h : u.HappensWith d outcome) :
    Metrics.eventsOf outcome =
      (if u.plugs then [.attached] else []) ++ (if u.unplugs d.settings.ns then [.detached] else [])
        ++ u.made.map .formatted := by
  obtain ⟨call, said, answer⟩ := u
  change Except Status (Outcome call.Response) at outcome
  obtain ⟨h, hanswer⟩ := h
  obtain rfl : answer = outcome.map (·.response) := hanswer
  cases call with
  | controller now r =>
    cases r with
    | publishVolume r =>
      obtain ⟨x, -, rfl⟩ := conversation_andReturn_iff.1 h
      cases x <;> rfl
    | unpublishVolume r =>
      obtain ⟨x, hx, rfl⟩ := conversation_andReturn_iff.1 h
      obtain ⟨y, hy, rfl⟩ := conversation_of_iff.1 hx
      cases y with
      | error e => rfl
      | ok found =>
        have hfound := Controller.resolved_of_unpublish hy
        change (if found then [Event.detached] else []) = [] ++
          (if Cluster.resolved d.settings.ns r.nodeId said then [Event.detached] else []) ++ []
        rw [hfound, List.nil_append, List.append_nil]
    | _ =>
      -- The others are answered without events, and the controller makes no filesystem.
      have hevents := Controller.eventless_respond d.settings now (by nofun) (by nofun) _ _ h
      exact hevents
  | node r =>
    cases r with
    | stageVolume r =>
      obtain ⟨x, hx, rfl⟩ := conversation_andReturn_iff.1 h
      obtain ⟨y, hy, rfl⟩ := conversation_of_iff.1 hx
      have hevents := Node.events_of_stage hy
      cases y <;> exact hevents
    | _ =>
      -- The others are answered without events, and ask for no filesystem.
      have hevents := Node.eventless_respond d.nodeId (by nofun) _ _ h
      have hmade : said.filterMap Host.made? = [] :=
        List.filterMap_eq_nil_iff.2 fun e he => Host.made?_eq_none
          ((Node.asksOnly_respond d.nodeId (by nofun)).of_mem h he)
      change Metrics.eventsOf outcome = (said.filterMap Host.made?).map .formatted
      rw [hevents, hmade, List.map_nil]

theorem count_events (h : u.HappensWith d outcome) (e : Event) :
    (Metrics.eventsOf outcome).count e = match e with
      | .attached => if u.plugs then 1 else 0
      | .detached => if u.unplugs d.settings.ns then 1 else 0
      | .formatted fsType => u.made.count fsType := by
  have hformatted : ∀ fsType, (u.made.map Event.formatted).count (.formatted fsType) =
      u.made.count fsType :=
    List.count_map_of_injective _ _ fun _ _ heq => Event.formatted.inj heq
  have hother : ∀ e, (∀ fsType, Event.formatted fsType ≠ e) →
      (u.made.map Event.formatted).count e = 0 := by
    intro e he
    refine List.count_eq_zero.2 fun hmem => ?_
    obtain ⟨fsType, -, heq⟩ := List.mem_map.1 hmem
    exact he fsType heq
  rw [events_eq h, List.count_append, List.count_append]
  cases e with
  | attached =>
    rw [hother _ (by nofun)]
    cases u.plugs <;> cases u.unplugs d.settings.ns <;> rfl
  | detached =>
    rw [hother _ (by nofun)]
    cases u.plugs <;> cases u.unplugs d.settings.ns <;> rfl
  | formatted fsType =>
    rw [hformatted]
    cases u.plugs <;> cases u.unplugs d.settings.ns <;> exact Nat.zero_add _

/-- What is not counted has no events. -/
theorem events_of_uncounted (h : u.HappensWith d outcome) (hcall : u.call.method? = none) :
    Metrics.eventsOf outcome = [] := by
  obtain ⟨call, said, answer⟩ := u
  obtain ⟨h, -⟩ := h
  cases call with
  | controller now r =>
    cases r with
    | getCapabilities =>
      exact Controller.eventless_respond d.settings now (by nofun) (by nofun) _ _ h
    | unserved name =>
      exact Controller.eventless_respond d.settings now (by nofun) (by nofun) _ _ h
    | _ => cases hcall
  | node r =>
    cases r with
    | getCapabilities => exact Node.eventless_respond d.nodeId (by nofun) _ _ h
    | getInfo => exact Node.eventless_respond d.nodeId (by nofun) _ _ h
    | unserved name => exact Node.eventless_respond d.nodeId (by nofun) _ _ h
    | _ => cases hcall

end Turn

/-! ### Runs -/

/-- The counts are those of some answered calls. -/
structure Exact (ns : String) (turns : List Turn) (m : Metrics) : Prop where
  operations : ∀ method, countOf m.operations method = turns.countP (·.isOf method)
  measured : ∀ method, m.measured method = turns.countP (·.isOf method)
  failures : ∀ method code, m.failures method code = turns.countP (·.failsWith method code)
  attached : countOf m.hotplugs "attach" = turns.countP (·.plugs)
  detached : countOf m.hotplugs "detach" = turns.countP (·.unplugs ns)
  formatted : ∀ fsType, countOf m.formats fsType = (turns.flatMap (·.made)).count fsType

variable {σ : Type} {d : Services σ}

/-- **Each call is counted once, when it is answered.** -/
theorem Exact.observe {turns : List Turn} {m : Metrics} {u : Turn}
    {outcome : Except Status (Outcome u.call.Response)} (h : Exact d.settings.ns turns m)
    (hu : u.HappensWith d outcome) (seconds : Double) :
    Exact d.settings.ns (turns ++ [u]) (m.observe u.call.method? seconds outcome) := by
  -- A call that is not counted has no events, so that none is left out.
  have hevents : ∀ e, (m.observe u.call.method? seconds outcome).occurrences e =
      m.occurrences e + (Metrics.eventsOf outcome).count e := by
    intro e
    rw [Metrics.occurrences_observe]
    cases hmethod : u.call.method? with
    | none => simp [Turn.events_of_uncounted hu hmethod]
    | some method => rfl
  simp only [Turn.count_events hu] at hevents
  have hcode : Metrics.codeOf outcome = Metrics.codeOf u.answer := by
    rw [hu.2]
    cases outcome <;> rfl
  constructor
  case operations =>
    intro method
    rw [Metrics.operations_observe, h.operations, List.countP_append, List.countP_singleton]
    simp [Turn.isOf]
  case measured =>
    intro method
    rw [Metrics.measured_observe, h.measured, List.countP_append, List.countP_singleton]
    simp [Turn.isOf]
  case failures =>
    intro method code
    rw [Metrics.failures_observe, h.failures, List.countP_append, List.countP_singleton, hcode]
    simp [Turn.failsWith, Turn.isOf]
  case attached =>
    rw [List.countP_append, List.countP_singleton, ← h.attached]
    exact hevents .attached
  case detached =>
    rw [List.countP_append, List.countP_singleton, ← h.detached]
    exact hevents .detached
  case formatted =>
    intro fsType
    rw [List.flatMap_append, List.flatMap_singleton, List.count_append, ← h.formatted]
    exact hevents (.formatted fsType)

/-- A moment of a run with the counts of what was answered. -/
structure Counted (d : Services σ) (t : Track σ) (m : Metrics) : Prop where
  faithful : Faithful d t
  exact : Exact d.settings.ns t.turns m

theorem Counted.move {t : Track σ} {m : Metrics} (h : Counted d t m) (k : Nat)
    (seconds : Double) : Counted d (d.move t k) (t.count k seconds m) := by
  refine ⟨h.faithful.move k, ?_⟩
  rcases d.move_cases t k with ⟨heq, hcount⟩ |
    ⟨front, back, c, said, outcome, hcourses, heq, hcount⟩ |
    ⟨front, back, c, said, r, next, hcourses, heq, hcount⟩
  · rw [heq, hcount]
    exact h.exact
  · have hbegun : Course.Begun d ⟨c, said, .done outcome⟩ := by
      refine h.faithful.begun _ ?_
      rw [hcourses]
      exact List.mem_append_right _ List.mem_cons_self
    rw [heq, hcount]
    exact h.exact.observe hbegun.happensWith seconds
  · rw [heq, hcount]
    exact h.exact

/-- The services of a cluster and a node in memory. -/
def inMemory : Services (Cluster.State × Host.State) where
  settings := { ns := "infra" }
  nodeId := "tenants/vm-1"
  cluster r w := ((Cluster.step r w.1).1, (Cluster.step r w.1).2, w.2)
  host r w := ((Host.step r w.2).1, w.1, (Host.step r w.2).2)

/-- A volume is staged while another call unplugs it. -/
example :
    let calls := [.node (.stageVolume Node.stageFirst),
      .controller ⟨0, 0⟩ (.unpublishVolume { volumeId := "a", nodeId := "tenants/vm-1" })]
    let first := inMemory.start calls ({}, { devices := Node.twoDevices none }) (some .empty)
    let last := inMemory.run first ([0, 1, 0, 1, 0].map fun k => (k, .ofNat 1))
    last.metrics.map (fun m => (countOf m.operations "NodeStageVolume", countOf m.formats "ext4",
      countOf m.hotplugs "attach", countOf m.hotplugs "detach")) = some (1, 1, 0, 1) := by
  decide

end Services

end Hotplug
