/- GID: BlueTeam/Graph/Observed
   generality: I
   source: packages/entity-graph/blueteam_graph/engine.py
   digest: What an event shows of entities and edges, and that building a graph adds just that. -/

import BlueTeam.Graph.Building

set_option autoImplicit false
set_option relaxedAutoImplicit false

namespace BlueTeam.Graph

open BlueTeam.Python BlueTeam.Schema BlueTeam.Lib BlueTeam.Lib.Exec

/-! ### What an event mentions -/

/-- A text that is there and not empty. -/
def nonEmpty (text : Option String) : Option String :=
  if given text then text else none

def userKey (event : CanonicalEvent) : Option String :=
  event.user.bind fun user => nonEmpty user.name

def hostKey (event : CanonicalEvent) : Option String :=
  event.host.bind fun host => nonEmpty (firstGiven host.id host.name)

/-- The key of a process that has a name. -/
def namedProcess (process : CanonicalProcess) : Option String :=
  if given process.name then some (processKey process) else none

def procKey (event : CanonicalEvent) : Option String :=
  event.process.bind namedProcess

/-- The parent of a process that has a name. -/
def parentKey (event : CanonicalEvent) : Option String :=
  if (procKey event).isSome then event.parentProcess.bind namedProcess else none

def cloudKey (event : CanonicalEvent) : Option String :=
  event.cloudResource.bind fun cloud => nonEmpty (firstGiven cloud.resourceId cloud.accountId)

/-- The entities that an event mentions, by type and key. -/
def mentions (event : CanonicalEvent) : List (EntityType × String) :=
  [(EntityType.user, userKey event), (.host, hostKey event), (.process, procKey event),
    (.ip, nonEmpty event.srcIp), (.ip, nonEmpty event.dstIp), (.domain, nonEmpty event.domain),
    (.cloudResource, cloudKey event), (.process, parentKey event)].flatMap
      fun m => m.2.toList.map fun key => (m.1, key)

/-! ### Observations -/

/-- One step of `build_graph` on an event: an entity is mentioned, or two are related. -/
inductive Observation
  | mention (event : CanonicalEvent) (entityType : EntityType) (key name : String)
      (attrs : List (String × String))
  | edge (src : String) (relation : RelationType) (dst eventId : String)

def Observation.perform (rt : Runtime) (tenantId : String) : Observation → Exec Building Exn Unit
  | .mention event entityType key name attrs => do
      let _ ← upsert rt tenantId entityType key name event attrs
      pure ()
  | .edge src relation dst eventId => relate tenantId src relation dst eventId

/-- Observations, made one after another. -/
def observe (rt : Runtime) (tenantId : String) (observations : List Observation) :
    Exec Building Exn Unit :=
  Exec.loop (fun _ o => o.perform rt tenantId) () observations

section

variable (rt : Runtime) (tenantId : String) (event : CanonicalEvent)

def mentioned (entityType : EntityType) (key : Option String) (name : String → String)
    (attrs : List (String × String)) : List Observation :=
  (key.map fun key => Observation.mention event entityType key (name key) attrs).toList

/-- An edge, where both ends are there. -/
def edge (src : Option String) (relation : RelationType) (dst : Option String) :
    List Observation :=
  match src, dst with
  | some src, some dst => [.edge src relation dst event.id]
  | _, _ => []

def userId : Option String :=
  (userKey event).map (entityId rt tenantId .user)

def hostId : Option String :=
  (hostKey event).map (entityId rt tenantId .host)

def procId : Option String :=
  (procKey event).map (entityId rt tenantId .process)

def srcId : Option String :=
  (nonEmpty event.srcIp).map (entityId rt tenantId .ip)

def dstId : Option String :=
  (nonEmpty event.dstIp).map (entityId rt tenantId .ip)

def domainId : Option String :=
  (nonEmpty event.domain).map (entityId rt tenantId .domain)

def parentId : Option String :=
  (parentKey event).map (entityId rt tenantId .process)

def userSeen : List Observation :=
  mentioned event .user (userKey event) id
    [("user_id", (event.user.bind (·.id)).getD "")]

def hostSeen : List Observation :=
  mentioned event .host (hostKey event) (orText (event.host.bind (·.name)))
    [("os", (event.host.bind (·.os)).getD "")]

def processSeen : List Observation :=
  mentioned event .process (procKey event)
    (fun _ => (event.process.bind (·.name)).getD "")
    [("path", (event.process.bind (·.path)).getD ""),
     ("command_line", (event.process.bind (·.commandLine)).getD "")]

def ipSeen (ip : Option String) (role : String) : List Observation :=
  mentioned event .ip (nonEmpty ip) id [("role", role)]

def domainSeen : List Observation :=
  mentioned event .domain (nonEmpty event.domain) id [] ++
    edge event (srcId rt tenantId event) .queried (domainId rt tenantId event)

def cloudSeen : List Observation :=
  mentioned event .cloudResource (cloudKey event)
    (orText (event.cloudResource.bind (·.resourceType)))
    [("provider", (event.cloudResource.bind (·.provider)).getD ""),
     ("account_id", (event.cloudResource.bind (·.accountId)).getD "")]

def parentSeen : List Observation :=
  mentioned event .process (parentKey event)
      (fun _ => (event.parentProcess.bind (·.name)).getD "") [] ++
    edge event (procId rt tenantId event) .childOf (parentId rt tenantId event)

/-- All that `build_graph` takes from an event, in its order. -/
def observations : List Observation :=
  userSeen event ++ hostSeen event ++ processSeen event ++
  ipSeen event event.srcIp "src" ++
  edge event (userId rt tenantId event) .usedFrom (srcId rt tenantId event) ++
  edge event (hostId rt tenantId event) .connectedTo (srcId rt tenantId event) ++
  ipSeen event event.dstIp "dst" ++
  edge event (hostId rt tenantId event) .connectedTo (dstId rt tenantId event) ++
  edge event (procId rt tenantId event) .connectedTo (dstId rt tenantId event) ++
  domainSeen rt tenantId event ++ cloudSeen event ++
  edge event (userId rt tenantId event) .onHost (hostId rt tenantId event) ++
  edge event (hostId rt tenantId event) .ran (procId rt tenantId event) ++
  parentSeen rt tenantId event

end

/-! ### The loop of `build_graph` makes the observations -/

section

variable (rt : Runtime) (tenantId : String) (event : CanonicalEvent)

theorem loop_append {σ ε α : Type} (f : Unit → α → Exec σ ε Unit) (as bs : List α) :
    loop f () (as ++ bs) = loop f () as >>= fun _ => loop f () bs := by
  induction as with
  | nil => exact (pure_bind _ _).symm
  | cons a as ih =>
      show (f () a >>= fun _ => loop f () (as ++ bs)) = _
      rw [ih]
      exact (bind_assoc _ _ _).symm

theorem observe_append (as bs : List Observation) :
    observe rt tenantId (as ++ bs) =
      observe rt tenantId as >>= fun _ => observe rt tenantId bs :=
  loop_append _ as bs

theorem observe_singleton (o : Observation) : observe rt tenantId [o] = o.perform rt tenantId := by
  show (o.perform rt tenantId >>= fun _ => pure ()) = _
  exact bind_pure _

/-- An upsert returns the id of its entity. -/
theorem upsert_eq (entityType : EntityType) (key name : String) (attrs : List (String × String)) :
    upsert rt tenantId entityType key name event attrs =
      observe rt tenantId [.mention event entityType key name attrs] >>= fun _ =>
        pure (entityId rt tenantId entityType key) := by
  rw [observe_singleton]
  funext g
  rcases hrun : upsert rt tenantId entityType key name event attrs g with ⟨⟨e⟩ | ⟨id⟩, g'⟩
  · simp only [Observation.perform, bind_run, hrun, andThen]
  · obtain rfl := upsert_id hrun
    simp only [Observation.perform, bind_run, hrun, andThen, pure_run]

theorem map_upsert_eq (entityType : EntityType) (key name : String)
    (attrs : List (String × String)) :
    some <$> upsert rt tenantId entityType key name event attrs =
      observe rt tenantId [.mention event entityType key name attrs] >>= fun _ =>
        pure (some (entityId rt tenantId entityType key)) := by
  rw [upsert_eq, ← bind_pure_comp, bind_assoc]
  rfl

theorem relateGiven_eq (src : Option String) (relation : RelationType) (dst : Option String) :
    relateGiven tenantId src relation dst event.id =
      observe rt tenantId (edge event src relation dst) := by
  cases src with
  | none => rfl
  | some src =>
      cases dst with
      | none => rfl
      | some dst =>
          show relate tenantId src relation dst event.id =
            observe rt tenantId [.edge src relation dst event.id]
          rw [observe_singleton]
          rfl

theorem given_iff (text : Option String) : given text = true ↔ ∃ s, text = some s ∧ s ≠ "" := by
  unfold given orText
  cases text with
  | none => simp
  | some s => by_cases hs : s = "" <;> simp [hs]

theorem nonEmpty_of_given {text : Option String} (h : given text = true) :
    nonEmpty text = some (text.getD "") := by
  obtain ⟨s, rfl, hs⟩ := (given_iff text).mp h
  unfold nonEmpty
  rw [if_pos h]
  rfl

theorem nonEmpty_of_not_given {text : Option String} (h : ¬ given text = true) :
    nonEmpty text = none := by
  unfold nonEmpty
  rw [if_neg h]

theorem getD_ne_empty_iff (text : Option String) : text.getD "" ≠ "" ↔ given text = true := by
  rw [given_iff]
  cases text <;> simp

theorem upsertUser_eq : upsertUser rt tenantId event =
    observe rt tenantId (userSeen event) >>= fun _ => pure (userId rt tenantId event) := by
  unfold upsertUser userSeen userId userKey mentioned
  cases event.user with
  | none => rfl
  | some user =>
      by_cases h : given user.name = true
      · simp only [h, if_true, Option.bind_some, nonEmpty_of_given h, Option.map_some]
        exact map_upsert_eq rt tenantId event _ _ _ _
      · simp only [h, Option.bind_some, nonEmpty_of_not_given h]
        rfl

theorem upsertHost_eq : upsertHost rt tenantId event =
    observe rt tenantId (hostSeen event) >>= fun _ => pure (hostId rt tenantId event) := by
  unfold upsertHost hostSeen hostId hostKey mentioned
  cases event.host with
  | none => rfl
  | some host =>
      by_cases h : given (firstGiven host.id host.name) = true
      · have hne := (getD_ne_empty_iff _).mpr h
        simp only [hne, ne_eq, not_false_eq_true, if_true, Option.bind_some, nonEmpty_of_given h,
          Option.map_some]
        exact map_upsert_eq rt tenantId event _ _ _ _
      · have hne : ¬ (firstGiven host.id host.name).getD "" ≠ "" :=
          fun hne => h ((getD_ne_empty_iff _).mp hne)
        simp only [hne, if_false, Option.bind_some, nonEmpty_of_not_given h]
        rfl

theorem upsertProcess_eq : upsertProcess rt tenantId event =
    observe rt tenantId (processSeen event) >>= fun _ => pure (procId rt tenantId event) := by
  unfold upsertProcess processSeen procId procKey mentioned namedProcess
  cases event.process with
  | none => rfl
  | some process =>
      by_cases h : given process.name = true
      · simp only [h, if_true, Option.bind_some, Option.map_some]
        exact map_upsert_eq rt tenantId event _ _ _ _
      · simp only [h, Bool.false_eq_true, if_false, Option.bind_some]
        rfl

theorem upsertIp_eq (ip : Option String) (role : String) : upsertIp rt tenantId event ip role =
    observe rt tenantId (ipSeen event ip role) >>= fun _ =>
      pure ((nonEmpty ip).map (entityId rt tenantId .ip)) := by
  unfold upsertIp ipSeen mentioned
  by_cases h : given ip = true
  · simp only [h, if_true, nonEmpty_of_given h, Option.map_some]
    exact map_upsert_eq rt tenantId event _ _ _ _
  · simp only [h, Bool.false_eq_true, if_false, nonEmpty_of_not_given h]
    rfl

theorem addDomain_eq :
    addDomain rt tenantId event = observe rt tenantId (domainSeen rt tenantId event) := by
  unfold addDomain domainSeen domainId mentioned
  by_cases h : given event.domain = true
  · have hsrc : (if given event.srcIp then some (entityId rt tenantId .ip (event.srcIp.getD ""))
        else none) = srcId rt tenantId event := by
      unfold srcId
      by_cases hs : given event.srcIp = true
      · rw [if_pos hs, nonEmpty_of_given hs]
        rfl
      · rw [if_neg hs, nonEmpty_of_not_given hs]
        rfl
    simp only [h, if_true, nonEmpty_of_given h, Option.map_some, hsrc, upsert_eq, bind_assoc,
      pure_bind, relateGiven_eq rt, observe_append]
    rfl
  · have hnone : edge event (srcId rt tenantId event) .queried none = [] := by
      unfold edge
      cases srcId rt tenantId event <;> rfl
    simp only [h, Bool.false_eq_true, if_false, nonEmpty_of_not_given h, Option.map_none, hnone]
    rfl

theorem addCloudResource_eq :
    addCloudResource rt tenantId event = observe rt tenantId (cloudSeen event) := by
  unfold addCloudResource cloudSeen cloudKey mentioned
  cases event.cloudResource with
  | none => rfl
  | some cloud =>
      by_cases h : given (firstGiven cloud.resourceId cloud.accountId) = true
      · have hne := (getD_ne_empty_iff _).mpr h
        simp only [hne, ne_eq, not_false_eq_true, if_true, Option.bind_some, nonEmpty_of_given h,
          Option.map_some, upsert_eq, bind_assoc, pure_bind]
        exact bind_pure _
      · have hne : ¬ (firstGiven cloud.resourceId cloud.accountId).getD "" ≠ "" :=
          fun hne => h ((getD_ne_empty_iff _).mp hne)
        simp only [hne, if_false, Option.bind_some, nonEmpty_of_not_given h]
        rfl

theorem addParent_eq : addParent rt tenantId event (procId rt tenantId event) =
    observe rt tenantId (parentSeen rt tenantId event) := by
  have hsome : (procId rt tenantId event).isSome = (procKey event).isSome := by
    unfold procId
    rw [Option.isSome_map]
  have hnone : edge event (procId rt tenantId event) .childOf none = [] := by
    unfold edge
    cases procId rt tenantId event <;> rfl
  unfold addParent parentSeen parentId parentKey mentioned
  rw [hsome]
  cases hparent : event.parentProcess with
  | none => simp only [Option.bind_none, ite_self, Option.map_none, hnone]; rfl
  | some parent =>
      by_cases hproc : (procKey event).isSome = true
      · by_cases h : given parent.name = true
        · simp only [hproc, h, and_self, if_true, Option.bind_some, namedProcess, Option.map_some,
            upsert_eq, bind_assoc, pure_bind, relateGiven_eq rt, observe_append]
          rfl
        · simp only [hproc, h, and_false, if_true, Bool.false_eq_true, if_false, Option.bind_some,
            namedProcess, Option.map_none, hnone]
          rfl
      · simp only [hproc, false_and, Bool.false_eq_true, if_false, Option.map_none, hnone]
        rfl

/-- One turn of the loop makes the observations of its event. -/
theorem addEvent_eq :
    addEvent rt tenantId event = observe rt tenantId (observations rt tenantId event) := by
  unfold addEvent observations
  simp only [upsertUser_eq, upsertHost_eq, upsertProcess_eq, upsertIp_eq, bind_assoc, pure_bind,
    relateGiven_eq rt, observe_append, addDomain_eq, addCloudResource_eq, addParent_eq]
  rfl

theorem loop_addEvent (events : List CanonicalEvent) :
    loop (fun _ event => addEvent rt tenantId event) () events =
      observe rt tenantId (events.flatMap (observations rt tenantId)) := by
  induction events with
  | nil => rfl
  | cons event events ih =>
      show (addEvent rt tenantId event >>= fun _ => loop _ () events) = _
      rw [List.flatMap_cons, observe_append, addEvent_eq, ih]

end

end BlueTeam.Graph
