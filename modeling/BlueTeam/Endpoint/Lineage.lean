/- GID: BlueTeam/Endpoint/Lineage
   generality: I
   source: packages/endpoint-adapters/blueteam_endpoint/process_tree.py, normalize.py
   digest: When the process tree links a process to its parent, for records of sysmon and of the
     Linux audit log. -/

import BlueTeam.Endpoint.Tree
import BlueTeam.Ingest.Agreement
import Mathlib.Data.List.TakeWhile

set_option autoImplicit false
set_option relaxedAutoImplicit false

namespace BlueTeam.Endpoint

open BlueTeam.Python BlueTeam.Schema BlueTeam.Lib BlueTeam.Lib.Exec BlueTeam.Ingest

inductive EndpointAdapter
  | sysmon
  | linuxAudit

def EndpointAdapter.normalize (rt : Runtime) (raw : JsonObject) (tenantId : String) :
    EndpointAdapter → Draw CanonicalEvent
  | .sysmon => Endpoint.normalizeSysmon rt raw tenantId
  | .linuxAudit => Endpoint.normalizeLinuxAudit rt raw tenantId

/-- The second record names the process id of the first as that of its parent, and, for sysmon, the
image of the first as the image of its parent. -/
def EndpointAdapter.NamesParent (rt : Runtime) (pid : Int) (image : String)
    (raw₁ raw₂ : JsonObject) : EndpointAdapter → Prop
  | .sysmon =>
      (Json.get raw₁ "ProcessId").toInt rt = .ok pid ∧
        (Json.get raw₂ "ParentProcessId").toInt rt = .ok pid ∧ image ≠ "" ∧
        Json.get raw₁ "Image" = .str image ∧ Json.get raw₂ "ParentImage" = .str image
  | .linuxAudit =>
      (Json.get raw₁ "pid").toInt rt = .ok pid ∧ (Json.get raw₂ "ppid").toInt rt = .ok pid

/-- Two events of one process of one host. -/
def SameProcess (a b : CanonicalEvent) : Prop :=
  hostText a = hostText b ∧ a.process.bind (·.pid) = b.process.bind (·.pid)

/-- Whatever other processes are in the list, the tree has an edge from one event to the other. -/
def Connects (first second : CanonicalEvent) : Prop :=
  ∀ events : List CanonicalEvent, first ∈ events → second ∈ events →
    (∀ event ∈ events, event ≠ first → event ≠ second → ¬ SameProcess event first) →
    ∃ edge ∈ (buildProcessTree events).edges,
      edge.parent = nodeId first ∧ edge.child = nodeId second

/-- The event is its own parent in the tree. -/
def OwnParent (event : CanonicalEvent) : Prop :=
  identified event.process = true ∧ parentId event = some (nodeId event)

/-- `_basename` of a path. -/
def baseText (path : String) : String :=
  String.ofList ((path.toList.map fun c => if c = '\\' then '/' else c).reverse.takeWhile
    (· ≠ '/')).reverse

/-- A text without separators of paths. -/
def PlainName (path : String) : Prop :=
  ∀ c ∈ path.toList, c ≠ '/' ∧ c ≠ '\\'

instance (path : String) : Decidable (PlainName path) :=
  List.decidableBAll (fun c => c ≠ '/' ∧ c ≠ '\\') path.toList

/-- The record gives a number other than 0. -/
def GivesNumber (rt : Runtime) (v : Json) : Prop :=
  v.truthy = true ∧ ∃ n, v.toInt rt = .ok n ∧ n ≠ 0

/-- The record identifies its own process. -/
def EndpointAdapter.Identifies (rt : Runtime) (raw : JsonObject) : EndpointAdapter → Prop
  | .sysmon =>
      GivesNumber rt (Json.get raw "ProcessId") ∨
        ∃ path, Json.getFirst raw ["Image", "process_name"] = .str path ∧ baseText path ≠ ""
  | .linuxAudit =>
      GivesNumber rt (Json.get raw "pid") ∨ (Json.getFirst raw ["exe", "comm"]).truthy = true

/-- What the records have to say for the link: the image of the parent has no separator; the process
of the parent is called `parent`. Where a process id of 0 has been dropped, the id of the event or
the word `name` stands in its place. -/
def EndpointAdapter.Links (rt : Runtime) (pid : Int) (image id₁ : String)
    (raw₁ raw₂ : JsonObject) : EndpointAdapter → Prop
  | .sysmon =>
      if (Json.get raw₁ "ProcessId").truthy = true ∧ (Json.get raw₂ "ParentProcessId").truthy = true
      then PlainName image
      else
        (if (Json.get raw₁ "ProcessId").truthy then toString pid else id₁) ++ ":" ++
            baseText image =
          (if (Json.get raw₂ "ParentProcessId").truthy then toString pid else "name") ++ ":" ++ image
  | .linuxAudit =>
      (Json.get raw₂ "ppid").truthy = true ∧ pid ≠ 0 ∧
        if (Json.get raw₁ "pid").truthy = true then
          Json.getFirst raw₁ ["exe", "comm"] = .str "parent"
        else id₁ ++ ":" ++ (Json.getFirst raw₁ ["exe", "comm"]).text rt =
          toString pid ++ ":" ++ "parent"

/-! ### Names of paths -/

theorem basename_str {path : String} (h : path ≠ "") :
    Endpoint.basename (.str path) = .ok (.str (baseText path)) := by
  unfold Endpoint.basename
  rw [if_pos (truthy_str.mpr h)]
  rfl

theorem baseText_eq_iff {path : String} : baseText path = path ↔ PlainName path := by
  let slashed : Char → Char := fun c => if c = '\\' then '/' else c
  constructor
  · intro h c hc
    have hbase : c ∈ (baseText path).toList := by rwa [h]
    unfold baseText at hbase
    rw [String.toList_ofList, List.mem_reverse] at hbase
    have hnot : c ≠ '/' := by simpa using List.mem_takeWhile_imp hbase
    refine ⟨hnot, ?_⟩
    rintro rfl
    -- a backslash would have become a slash
    obtain ⟨d, -, hd⟩ := List.mem_map.mp (List.mem_reverse.mp
      (List.takeWhile_subset _ hbase))
    split at hd
    · cases hd
    · rename_i hd'
      exact hd' hd
  · intro h
    have hmap : path.toList.map slashed = path.toList := by
      refine (List.map_congr_left fun c hc => ?_).trans (List.map_id _)
      exact if_neg (h c hc).2
    unfold baseText
    rw [hmap, List.takeWhile_eq_self_iff.mpr, List.reverse_reverse, String.ofList_toList]
    intro c hc
    exact decide_eq_true (h c (List.mem_reverse.mp hc)).1

/-! ### What an event says of its processes -/

/-- The process and the parent of an event, by what they are identified with. -/
structure Reads (event : CanonicalEvent) (name : Option String) (pid : Option Int)
    (parentName : Option String) (parentPid : Option Int) : Prop where
  process : ∃ p, event.process = some p ∧ p.name = name ∧ p.pid = pid
  parent : ∃ p : CanonicalProcess, p.name = parentName ∧ p.pid = parentPid ∧
    (event.parentProcess = some p ∨ event.parentProcess = none ∧ identified (some p) = false)

/-- The node of an event on its host. -/
def nodeKey (id : String) (name : Option String) (pid : Option Int) : String :=
  (match pid with
    | some pid => toString pid
    | none => id) ++ ":" ++ showText name

/-- The node of its parent. -/
def parentKey (name : Option String) : Option Int → String
  | some pid => toString pid ++ ":" ++ orText name "parent"
  | none => "name:" ++ showText name

section

variable {event first second : CanonicalEvent} {name parentName : Option String}
  {pid parentPid : Option Int}

theorem Reads.nodeId (h : Reads event name pid parentName parentPid) :
    nodeId event = hostText event ++ ":" ++ nodeKey event.id name pid := by
  obtain ⟨p, hp, rfl, rfl⟩ := h.process
  unfold Endpoint.nodeId nodeKey
  rw [hp]
  dsimp only [Option.bind_some]
  cases p.pid <;> simp only [String.append_assoc]

theorem Reads.identified (h : Reads event name pid parentName parentPid) :
    identified event.process = true ↔ pid.getD 0 ≠ 0 ∨ given name = true := by
  obtain ⟨p, hp, rfl, rfl⟩ := h.process
  rw [hp]
  simp [Endpoint.identified]

theorem Reads.parentId (h : Reads event name pid parentName parentPid) :
    parentId event =
      if parentPid.getD 0 ≠ 0 ∨ given parentName = true then
        some (hostText event ++ ":" ++ parentKey parentName parentPid)
      else none := by
  obtain ⟨p, rfl, rfl, hparent | ⟨hparent, hnot⟩⟩ := h.parent
  · unfold Endpoint.parentId
    rw [hparent]
    by_cases hidentified : p.pid.getD 0 ≠ 0 ∨ given p.name = true
    · rw [if_pos hidentified, if_pos (by simpa [Endpoint.identified] using hidentified)]
      unfold parentKey
      rw [Option.map_some]
      cases p.pid <;> simp only [String.append_assoc]
      rfl
    · rw [if_neg hidentified, if_neg (by simpa [Endpoint.identified] using hidentified)]
  · unfold Endpoint.parentId
    rw [hparent, if_neg nofun, if_neg]
    simpa [Endpoint.identified] using hnot

theorem hostText_append_inj {host a b : String} :
    host ++ ":" ++ a = host ++ ":" ++ b ↔ a = b := by
  constructor
  · intro h
    have hlists := congrArg String.toList h
    simp only [String.toList_append, List.append_assoc] at hlists
    exact String.toList_injective (List.append_cancel_left (List.append_cancel_left hlists))
  · rintro rfl
    rfl

/-- The tree of the two events alone decides. -/
theorem connects_iff :
    Connects first second ↔
      (identified second.process = true ∧ parentId second = some (nodeId first)) ∨
        (OwnParent first ∧ nodeId first = nodeId second) := by
  have hedges : ∀ events, (buildProcessTree events).edges = events.filterMap edgeOf :=
    fun events => (built_run events).edges
  have hedge : ∀ event edge, edgeOf event = some edge ↔ identified event.process = true ∧
      parentId event = some edge.parent ∧ nodeId event = edge.child ∧ event.id = edge.eventId := by
    intro event edge
    unfold edgeOf
    by_cases hidentified : identified event.process = true
    · rw [if_pos hidentified, Option.map_eq_some_iff]
      constructor
      · rintro ⟨parent, hparent, rfl⟩
        exact ⟨hidentified, hparent, rfl, rfl⟩
      · rintro ⟨-, hparent, hchild, hid⟩
        exact ⟨edge.parent, hparent, by rw [hchild, hid]⟩
    · rw [if_neg hidentified]
      exact ⟨nofun, fun h => absurd h.1 hidentified⟩
  constructor
  · intro h
    have hpair : ∀ event ∈ [first, second], event ≠ first → event ≠ second →
        ¬ SameProcess event first := by
      intro event hmem hfirst hsecond
      rcases List.mem_pair.mp hmem with rfl | rfl
      · exact absurd rfl hfirst
      · exact absurd rfl hsecond
    obtain ⟨edge, hmem, hparent, hchild⟩ := h [first, second] (by simp) (by simp) hpair
    rw [hedges] at hmem
    obtain ⟨event, hevent, hof⟩ := List.mem_filterMap.mp hmem
    obtain ⟨hidentified, hfrom, hto, -⟩ := (hedge event edge).mp hof
    rw [hparent] at hfrom
    rcases List.mem_pair.mp hevent with rfl | rfl
    · exact .inr ⟨⟨hidentified, hfrom⟩, hto.trans hchild⟩
    · exact .inl ⟨hidentified, hfrom⟩
  · rintro h events hfirst hsecond -
    have hfound : ∃ event ∈ events, identified event.process = true ∧
        parentId event = some (nodeId first) ∧ nodeId event = nodeId second := by
      rcases h with ⟨hidentified, hparent⟩ | ⟨⟨hidentified, hparent⟩, hsame⟩
      · exact ⟨second, hsecond, hidentified, hparent, rfl⟩
      · exact ⟨first, hfirst, hidentified, hparent, hsame⟩
    obtain ⟨event, hevent, hidentified, hparent, hchild⟩ := hfound
    refine ⟨⟨nodeId first, nodeId event, event.id⟩, ?_, rfl, hchild⟩
    rw [hedges]
    exact List.mem_filterMap.mpr
      ⟨event, hevent, (hedge _ _).mpr ⟨hidentified, hparent, rfl, rfl⟩⟩

end

/-! ### What the adapters make of a record -/

section

variable {rt : Runtime} {raw : JsonObject} {tenantId : String} {t t' : Ticks}
  {event : CanonicalEvent}

theorem optional_instance {α : Type} [Inhabited α] {kw : Kwargs} {instance? : Arg → Option α}
    {fields : Kwargs → String → Schema.Field α} {loc name : String} {a : Arg} {v : α}
    (hlookup : kw.lookup name = some a) (ha : instance? a = some v)
    (hjson : ∀ v, a ≠ .json v) :
    (Field.optional kw (Field.nested instance? fields) loc name).value = some v := by
  unfold Field.optional
  split
  · rename_i hnone
    rw [hlookup] at hnone
    cases hnone
  · rename_i hnull
    rw [hlookup] at hnull
    exact absurd (Option.some.inj hnull) (hjson _)
  · rename_i a' _ ha'
    rw [hlookup] at ha'
    obtain rfl := Option.some.inj ha'
    simp only [Field.nested, ha]
    rfl

theorem optional_null {α : Type} {kw : Kwargs} {check : Field.Check α} {loc name : String}
    (hlookup : kw.lookup name = some (.json .null)) :
    (Field.optional kw check loc name).value = none := by
  unfold Field.optional
  rw [hlookup]
  rfl

/-- The process of an adapter is validated field by field. -/
theorem process_new {kw : Kwargs} {p : CanonicalProcess} (h : CanonicalProcess.new rt kw = .ok p) :
    (∀ v, kw.lookup "name" = some (.json v) → v = Json.ofOption p.name) ∧
      (kw.lookup "name" = none → p.name = none) ∧
      ∀ v, kw.lookup "pid" = some (.json v) → IntField rt v p.pid := by
  unfold CanonicalProcess.new Field.construct at h
  split at h
  · rename_i herrors
    obtain rfl := Except.ok.inj h
    rw [List.isEmpty_iff] at herrors
    simp only [CanonicalProcess.fields, List.append_eq_nil_iff] at herrors
    refine ⟨fun v hv => optional_text (by simp only [herrors]) hv, ?_,
      fun v hv => optional_int (by simp only [herrors]) hv⟩
    intro hnone
    show (Field.optional kw Field.str "" "name").value = none
    unfold Field.optional
    rw [hnone]
    rfl
  · cases h

/-- The processes of an event are those that the adapter hands over. -/
theorem processes_of_canonical {source eventType category : String} {fields : Kwargs}
    {process : CanonicalProcess}
    (h : Endpoint.canonical rt tenantId source eventType category raw fields t = (.ok event, t'))
    (hprocess : fields.lookup "process" = some (.process process)) :
    event.process = some process ∧
      (∀ parent, fields.lookup "parent_process" = some (.process parent) →
        event.parentProcess = some parent) ∧
      (fields.lookup "parent_process" = some (.json .null) → event.parentProcess = none) := by
  obtain ⟨id, t₁, -, h⟩ := ok_of_bind h
  obtain ⟨stamp, t₂, -, h⟩ := ok_of_bind h
  obtain ⟨ingestedAt, t₃, -, h⟩ := ok_of_bind h
  have hnew := (Prod.mk.inj h).1
  unfold CanonicalEvent.new Field.construct at hnew
  split at hnew
  · obtain rfl := Except.ok.inj hnew
    refine ⟨?_, fun parent hparent => ?_, fun hparent => ?_⟩
    · exact optional_instance hprocess rfl nofun
    · exact optional_instance hparent rfl nofun
    · exact optional_null hparent
  · cases hnew

variable (hvalid : ∀ i, rt.validInt (.int i) = some i)

include hvalid

theorem sysmon_reads (h : Endpoint.normalizeSysmon rt raw tenantId t = (.ok event, t')) :
    ∃ name pid parentName parentPid, Reads event name pid parentName parentPid ∧
      Endpoint.basename (Json.getFirst raw ["Image", "process_name"]) = .ok (Json.ofOption name) ∧
      IntIfGiven rt (Json.get raw "ProcessId") pid ∧
      Json.getFirst raw ["ParentImage", "parent_image"] = Json.ofOption parentName ∧
      IntIfGiven rt (Json.get raw "ParentProcessId") parentPid := by
  obtain ⟨eventId, t₁, -, h⟩ := ok_of_bind h
  obtain ⟨fields, t₂, hfields, h⟩ := ok_of_bind h
  have hfields := (Prod.mk.inj hfields).1
  obtain ⟨parentPid, hparentPid, hfields⟩ := except_of_bind hfields
  obtain ⟨parent, hparent, hfields⟩ := except_of_bind hfields
  obtain ⟨name, hname, hfields⟩ := except_of_bind hfields
  obtain ⟨pid, hpid, hfields⟩ := except_of_bind hfields
  obtain ⟨process, hprocess, hfields⟩ := except_of_bind hfields
  obtain ⟨user, -, hfields⟩ := except_of_bind hfields
  obtain ⟨host, -, hfields⟩ := except_of_bind hfields
  obtain ⟨file, -, hfields⟩ := except_of_bind hfields
  obtain rfl := Except.ok.inj hfields
  obtain ⟨hprocessed, hgiven, hnone⟩ := processes_of_canonical h rfl
  obtain ⟨hprocessName, -, hprocessPid⟩ := process_new hprocess
  obtain ⟨hparentName, -, hparentPid'⟩ := process_new hparent
  refine ⟨process.name, process.pid, parent.name, parent.pid,
    ⟨⟨process, hprocessed, rfl, rfl⟩, parent, rfl, rfl, ?_⟩, ?_,
    intIfGiven_field hvalid hpid (hprocessPid _ rfl), hparentName _ rfl,
    intIfGiven_field hvalid hparentPid (hparentPid' _ rfl)⟩
  · by_cases hidentified : (given parent.name || decide (parent.pid.getD 0 ≠ 0)) = true
    · refine .inl (hgiven parent ?_)
      show some (if _ then _ else _) = _
      rw [if_pos hidentified]
    · refine .inr ⟨hnone ?_, ?_⟩
      · show some (if _ then _ else _) = _
        rw [if_neg hidentified]
      · rw [Bool.not_eq_true, Bool.or_comm] at hidentified
        exact hidentified
  · rw [hname, ← hprocessName name rfl]

theorem linuxAudit_reads (h : Endpoint.normalizeLinuxAudit rt raw tenantId t = (.ok event, t')) :
    ∃ name pid parentPid, Reads event name pid none parentPid ∧
      Json.getFirst raw ["exe", "comm"] = Json.ofOption name ∧
      IntIfGiven rt (Json.get raw "pid") pid ∧ IntIfGiven rt (Json.get raw "ppid") parentPid := by
  obtain ⟨fields, t₁, hfields, h⟩ := ok_of_bind h
  have hfields := (Prod.mk.inj hfields).1
  obtain ⟨pid, hpid, hfields⟩ := except_of_bind hfields
  obtain ⟨process, hprocess, hfields⟩ := except_of_bind hfields
  obtain ⟨parentPid, hparentPid, hfields⟩ := except_of_bind hfields
  obtain ⟨parent, hparent, hfields⟩ := except_of_bind hfields
  obtain ⟨user, -, hfields⟩ := except_of_bind hfields
  obtain ⟨host, -, hfields⟩ := except_of_bind hfields
  obtain rfl := Except.ok.inj hfields
  obtain ⟨hprocessed, hgiven, -⟩ := processes_of_canonical h rfl
  obtain ⟨hprocessName, -, hprocessPid⟩ := process_new hprocess
  obtain ⟨-, hparentName, hparentPid'⟩ := process_new hparent
  refine ⟨process.name, process.pid, parent.pid,
    ⟨⟨process, hprocessed, rfl, rfl⟩, parent, hparentName rfl, rfl, .inl (hgiven parent rfl)⟩,
    hprocessName _ rfl, intIfGiven_field hvalid hpid (hprocessPid _ rfl),
    intIfGiven_field hvalid hparentPid (hparentPid' _ rfl)⟩

end

/-! ### Links -/

section

variable {rt : Runtime} {raw₁ raw₂ : JsonObject} {first second : CanonicalEvent}
  {name₁ parentName₁ name₂ parentName₂ : Option String} {pid₁ parentPid₁ pid₂ parentPid₂ : Option Int}

/-- The second event names the node of the first. -/
theorem Reads.link_iff (h₁ : Reads first name₁ pid₁ parentName₁ parentPid₁)
    (h₂ : Reads second name₂ pid₂ parentName₂ parentPid₂) (hhost : first.host = second.host) :
    Endpoint.parentId second = some (Endpoint.nodeId first) ↔
      (parentPid₂.getD 0 ≠ 0 ∨ given parentName₂ = true) ∧
        nodeKey first.id name₁ pid₁ = parentKey parentName₂ parentPid₂ := by
  have hsame : hostText second = hostText first := by
    unfold hostText
    rw [hhost]
  rw [h₂.parentId, h₁.nodeId, hsame]
  by_cases hidentified : parentPid₂.getD 0 ≠ 0 ∨ given parentName₂ = true
  · rw [if_pos hidentified, Option.some_inj, hostText_append_inj]
    exact ⟨fun h => ⟨hidentified, h.symm⟩, fun h => h.2.symm⟩
  · rw [if_neg hidentified]
    exact ⟨nofun, fun h => absurd h.1 hidentified⟩

theorem givesNumber_iff {v : Json} {n : Option Int} (h : IntIfGiven rt v n) :
    GivesNumber rt v ↔ n.getD 0 ≠ 0 := by
  unfold IntIfGiven at h
  unfold GivesNumber
  split at h
  · rename_i hgiven
    obtain ⟨i, hint, rfl⟩ := h
    constructor
    · rintro ⟨-, n, hn, hzero⟩
      rw [hint] at hn
      obtain rfl := Except.ok.inj hn
      exact hzero
    · exact fun hzero => ⟨hgiven, i, hint, hzero⟩
  · rename_i hgiven
    subst h
    exact ⟨fun h => absurd h.1 hgiven, fun h => absurd rfl h⟩

/-- The number that a record gives. -/
theorem pid_eq {v : Json} {n : Option Int} {i : Int} (h : IntIfGiven rt v n)
    (hint : v.toInt rt = .ok i) : n = if v.truthy = true then some i else none := by
  unfold IntIfGiven at h
  split at h
  · rename_i hgiven
    obtain ⟨j, hj, rfl⟩ := h
    rw [hint] at hj
    rw [if_pos hgiven, Except.ok.inj hj]
  · rename_i hgiven
    rw [if_neg hgiven, h]

theorem given_ofOption {v : Json} {name : Option String} (h : v = Json.ofOption name) :
    v.truthy = true ↔ given name = true := by
  subst h
  cases name with
  | none => simp [Json.ofOption, Json.truthy, given, orText]
  | some text =>
      by_cases hempty : text = "" <;> simp [Json.ofOption, Json.truthy, given, orText, hempty]

/-- The base name of a path that is given. -/
theorem basename_given {v : Json} {name : Option String}
    (h : Endpoint.basename v = .ok (Json.ofOption name)) :
    given name = true ↔ ∃ path, v = .str path ∧ baseText path ≠ "" := by
  by_cases hgiven : v.truthy = true
  · cases v with
    | str path =>
        rw [basename_str (truthy_str.mp hgiven)] at h
        have hname : some (baseText path) = name := ofOption_injective (Except.ok.inj h)
        subst hname
        simp [given, orText]
    | _ =>
        unfold Endpoint.basename at h
        rw [if_pos hgiven] at h
        cases h
  · have hnull : Endpoint.basename v = .ok .null := by
      unfold Endpoint.basename
      rw [if_neg hgiven]
    rw [hnull] at h
    obtain rfl : none = name := ofOption_injective (Except.ok.inj h)
    constructor
    · exact nofun
    · rintro ⟨path, rfl, hbase⟩
      have hempty : path = "" := by
        by_contra hne
        exact hgiven (truthy_str.mpr hne)
      subst hempty
      exact absurd (by decide) hbase

variable (hvalid : ∀ i, rt.validInt (.int i) = some i) {tenantId : String} {t₁ t₁' t₂ t₂' : Ticks}

include hvalid

theorem sysmon_link_iff (h₁ : Endpoint.normalizeSysmon rt raw₁ tenantId t₁ = (.ok first, t₁'))
    (h₂ : Endpoint.normalizeSysmon rt raw₂ tenantId t₂ = (.ok second, t₂'))
    (hhost : first.host = second.host) {pid : Int} {image : String}
    (hnames : EndpointAdapter.NamesParent rt pid image raw₁ raw₂ .sysmon) :
    (identified second.process = true ∧ parentId second = some (nodeId first)) ↔
      EndpointAdapter.Identifies rt raw₂ .sysmon ∧
        EndpointAdapter.Links rt pid image first.id raw₁ raw₂ .sysmon := by
  obtain ⟨hpid, hparent, himage, hof, hnamed⟩ := hnames
  obtain ⟨name₁, pid₁, parentName₁, parentPid₁, hreads₁, hbase₁, hpid₁, -, -⟩ :=
    sysmon_reads hvalid h₁
  obtain ⟨name₂, pid₂, parentName₂, parentPid₂, hreads₂, hbase₂, hpid₂, hname₂, hparent₂⟩ :=
    sysmon_reads hvalid h₂
  have hname₁ : name₁ = some (baseText image) := by
    have hfirst : Json.getFirst raw₁ ["Image", "process_name"] = .str image := by
      show Json.orElse (Json.get raw₁ "Image") _ = _
      rw [hof, orElse_of_truthy _ (truthy_str.mpr himage)]
    rw [hfirst, basename_str himage] at hbase₁
    exact (@ofOption_injective (some (baseText image)) name₁ (Except.ok.inj hbase₁)).symm
  have hparentName : parentName₂ = some image := by
    have hfirst : Json.getFirst raw₂ ["ParentImage", "parent_image"] = .str image := by
      show Json.orElse (Json.get raw₂ "ParentImage") _ = _
      rw [hnamed, orElse_of_truthy _ (truthy_str.mpr himage)]
    rw [hfirst] at hname₂
    exact (@ofOption_injective (some image) parentName₂ hname₂).symm
  have hidentifies : identified second.process = true ↔
      EndpointAdapter.Identifies rt raw₂ .sysmon := by
    rw [hreads₂.identified]
    exact or_congr (givesNumber_iff hpid₂).symm (basename_given hbase₂)
  have himageGiven : given (some image) = true := by
    simp [given, orText, himage]
  refine and_congr hidentifies ?_
  rw [hreads₁.link_iff hreads₂ hhost, hname₁, hparentName, pid_eq hpid₁ hpid,
    pid_eq hparent₂ hparent, and_iff_right (.inr himageGiven)]
  unfold EndpointAdapter.Links nodeKey parentKey
  dsimp only
  by_cases hgiven₁ : (Json.get raw₁ "ProcessId").truthy = true <;>
    by_cases hgiven₂ : (Json.get raw₂ "ParentProcessId").truthy = true
  · rw [if_pos hgiven₁, if_pos hgiven₂, if_pos ⟨hgiven₁, hgiven₂⟩]
    show toString pid ++ ":" ++ baseText image = toString pid ++ ":" ++ orText (some image) "parent" ↔
      PlainName image
    have horText : orText (some image) "parent" = image := if_neg himage
    rw [horText, hostText_append_inj, baseText_eq_iff]
  · rw [if_pos hgiven₁, if_neg hgiven₂, if_neg fun h => hgiven₂ h.2, if_pos hgiven₁,
      if_neg hgiven₂]
    rfl
  · have horText : orText (some image) "parent" = image := if_neg himage
    rw [if_neg hgiven₁, if_pos hgiven₂, if_neg fun h => hgiven₁ h.1, if_neg hgiven₁,
      if_pos hgiven₂, ← horText]
    simp only [horText]
    rfl
  · rw [if_neg hgiven₁, if_neg hgiven₂, if_neg fun h => hgiven₁ h.1, if_neg hgiven₁,
      if_neg hgiven₂]
    rfl

theorem linuxAudit_link_iff
    (h₁ : Endpoint.normalizeLinuxAudit rt raw₁ tenantId t₁ = (.ok first, t₁'))
    (h₂ : Endpoint.normalizeLinuxAudit rt raw₂ tenantId t₂ = (.ok second, t₂'))
    (hhost : first.host = second.host) {pid : Int} {image : String}
    (hnames : EndpointAdapter.NamesParent rt pid image raw₁ raw₂ .linuxAudit) :
    (identified second.process = true ∧ parentId second = some (nodeId first)) ↔
      EndpointAdapter.Identifies rt raw₂ .linuxAudit ∧
        EndpointAdapter.Links rt pid image first.id raw₁ raw₂ .linuxAudit := by
  obtain ⟨hpid, hparent⟩ := hnames
  obtain ⟨name₁, pid₁, parentPid₁, hreads₁, hname₁, hpid₁, -⟩ := linuxAudit_reads hvalid h₁
  obtain ⟨name₂, pid₂, parentPid₂, hreads₂, hname₂, hpid₂, hparent₂⟩ := linuxAudit_reads hvalid h₂
  have hidentifies : identified second.process = true ↔
      EndpointAdapter.Identifies rt raw₂ .linuxAudit := by
    rw [hreads₂.identified]
    exact or_congr (givesNumber_iff hpid₂).symm (given_ofOption hname₂).symm
  refine and_congr hidentifies ?_
  have hnone : given none ≠ true := by decide
  rw [hreads₁.link_iff hreads₂ hhost, pid_eq hpid₁ hpid, pid_eq hparent₂ hparent, or_iff_left hnone]
  unfold EndpointAdapter.Links
  dsimp only
  by_cases hgiven₂ : (Json.get raw₂ "ppid").truthy = true
  · rw [if_pos hgiven₂, and_iff_right hgiven₂]
    refine and_congr_right fun _ => ?_
    unfold nodeKey parentKey
    dsimp only
    have horText : orText none "parent" = "parent" := rfl
    rw [horText, hname₁]
    by_cases hgiven₁ : (Json.get raw₁ "pid").truthy = true
    · rw [if_pos hgiven₁, if_pos hgiven₁]
      show toString pid ++ ":" ++ showText name₁ = toString pid ++ ":" ++ "parent" ↔ _
      rw [hostText_append_inj]
      cases name₁ with
      | none => exact ⟨fun h => absurd h (by decide), nofun⟩
      | some name => exact ⟨fun h => congrArg Json.str h, fun h => Json.str.inj h⟩
    · rw [if_neg hgiven₁, if_neg hgiven₁]
      have htext : (Json.ofOption name₁).text rt = showText name₁ := by
        cases name₁ <;> rfl
      rw [htext]
  · rw [if_neg hgiven₂]
    exact ⟨fun h => absurd rfl h.1, fun h => absurd h.1 hgiven₂⟩

end

/-- Two events of a record and of one that names it as its parent are linked in the tree exactly if
the names in the records happen to agree as the tree spells them, or the first event is its own
parent and the second has the same node. -/
theorem lineage_connects_iff (rt : Runtime) (hvalid : ∀ i, rt.validInt (.int i) = some i)
    (adapter : EndpointAdapter) (tenantId : String) (raw₁ raw₂ : JsonObject)
    (t₁ t₁' t₂ t₂' : Ticks) (first second : CanonicalEvent)
    (h₁ : adapter.normalize rt raw₁ tenantId t₁ = (.ok first, t₁'))
    (h₂ : adapter.normalize rt raw₂ tenantId t₂ = (.ok second, t₂'))
    (hhost : first.host = second.host) (pid : Int) (image : String)
    (hnames : adapter.NamesParent rt pid image raw₁ raw₂) :
    Connects first second ↔
      (adapter.Identifies rt raw₂ ∧ adapter.Links rt pid image first.id raw₁ raw₂) ∨
        (OwnParent first ∧ nodeId first = nodeId second) := by
  rw [connects_iff]
  refine or_congr_left ?_
  cases adapter with
  | sysmon => exact sysmon_link_iff hvalid h₁ h₂ hhost hnames
  | linuxAudit => exact linuxAudit_link_iff hvalid h₁ h₂ hhost hnames

/-! ### Samples -/

/-- A shell, by the path of its image. -/
def shellRecord (image : String) : JsonObject :=
  [("EventID", .int 1), ("Image", .str image), ("ProcessId", .int 3000),
    ("Computer", .str "ws-jlee")]

/-- A process that names the shell as its parent. -/
def payloadRecord (image : String) : JsonObject :=
  [("EventID", .int 1), ("Image", .str "payload.exe"), ("ProcessId", .int 4000),
    ("ParentImage", .str image), ("ParentProcessId", .int 3000), ("Computer", .str "ws-jlee")]

theorem lineage_connects_plain :
    ∃ first second,
      (EndpointAdapter.sysmon.normalize sampleRuntime (shellRecord "cmd.exe") "ten_a" {}).1 =
        .ok first ∧
      (EndpointAdapter.sysmon.normalize sampleRuntime (payloadRecord "cmd.exe") "ten_a" {}).1 =
        .ok second ∧
      Connects first second := by
  obtain ⟨first, hfirst, hhost₁⟩ := returned
    (show ((EndpointAdapter.sysmon.normalize sampleRuntime (shellRecord "cmd.exe") "ten_a"
      {}).1.toOption.any fun event => event.host = some { name := some "ws-jlee" }) = true by
        decide +kernel)
  obtain ⟨second, hsecond, hhost₂⟩ := returned
    (show ((EndpointAdapter.sysmon.normalize sampleRuntime (payloadRecord "cmd.exe") "ten_a"
      {}).1.toOption.any fun event => event.host = some { name := some "ws-jlee" }) = true by
        decide +kernel)
  have hhost : first.host = second.host :=
    (of_decide_eq_true hhost₁).trans (of_decide_eq_true hhost₂).symm
  refine ⟨first, second, hfirst, hsecond, ?_⟩
  refine (lineage_connects_iff sampleRuntime (fun _ => rfl) .sysmon "ten_a" _ _ {} _ {} _ first
    second (Prod.ext hfirst rfl) (Prod.ext hsecond rfl) hhost 3000 "cmd.exe"
    ⟨rfl, rfl, by decide, rfl, rfl⟩).mpr (.inl ⟨.inl ⟨rfl, 4000, rfl, by decide⟩, ?_⟩)
  have hplain : PlainName "cmd.exe" := by decide
  have hgiven : (Json.get (shellRecord "cmd.exe") "ProcessId").truthy = true ∧
      (Json.get (payloadRecord "cmd.exe") "ParentProcessId").truthy = true := ⟨rfl, rfl⟩
  unfold EndpointAdapter.Links
  dsimp only
  rw [if_pos hgiven]
  exact hplain

/-- A shell in a folder is not linked to the process that it started. -/
theorem lineage_lost :
    ∃ first second,
      (EndpointAdapter.sysmon.normalize sampleRuntime (shellRecord "C:\\Windows\\powershell.exe")
        "ten_a" {}).1 = .ok first ∧
      (EndpointAdapter.sysmon.normalize sampleRuntime
        (payloadRecord "C:\\Windows\\powershell.exe") "ten_a" {}).1 = .ok second ∧
      first.host = second.host ∧
      EndpointAdapter.sysmon.NamesParent sampleRuntime 3000 "C:\\Windows\\powershell.exe"
        (shellRecord "C:\\Windows\\powershell.exe")
        (payloadRecord "C:\\Windows\\powershell.exe") ∧
      ¬ Connects first second := by
  obtain ⟨first, hfirst, hnode⟩ := returned
    (show ((EndpointAdapter.sysmon.normalize sampleRuntime
      (shellRecord "C:\\Windows\\powershell.exe") "ten_a" {}).1.toOption.any fun event =>
        event.host = some { name := some "ws-jlee" } ∧
          nodeId event = "ws-jlee:3000:powershell.exe" ∧ parentId event = none) = true by
        decide +kernel)
  obtain ⟨second, hsecond, hparent⟩ := returned
    (show ((EndpointAdapter.sysmon.normalize sampleRuntime
      (payloadRecord "C:\\Windows\\powershell.exe") "ten_a" {}).1.toOption.any fun event =>
        event.host = some { name := some "ws-jlee" } ∧
          parentId event = some "ws-jlee:3000:C:\\Windows\\powershell.exe") = true by
        decide +kernel)
  obtain ⟨hhost₁, hnode, hnone⟩ := of_decide_eq_true hnode
  obtain ⟨hhost₂, hparent⟩ := of_decide_eq_true hparent
  refine ⟨first, second, hfirst, hsecond, hhost₁.trans hhost₂.symm,
    ⟨rfl, rfl, by decide, rfl, rfl⟩, fun h => ?_⟩
  rcases connects_iff.mp h with ⟨-, hlink⟩ | ⟨⟨-, hown⟩, -⟩
  · rw [hparent, hnode] at hlink
    exact absurd hlink (by decide)
  · rw [hnone] at hown
    cases hown

end BlueTeam.Endpoint
