/- GID: BlueTeam/Api/Graph
   generality: I
   source: services/api/app/api/graph.py
   digest: What an analyst says of an entity outlives every rebuild of the graph. -/

import BlueTeam.Api.Center
import BlueTeam.Lib.Machine
import BlueTeam.Services.Projection

set_option autoImplicit false
set_option relaxedAutoImplicit false

namespace BlueTeam.Api

open BlueTeam.Python BlueTeam.Schema BlueTeam.Lib BlueTeam.Lib.Exec BlueTeam.Services

/-- `serialize_entity` -/
structure EntityReply where
  id : String
  entityType : EntityType
  key : String
  displayName : String
  criticality : Criticality
  riskScore : Rat
  riskComponents : List RiskComponent
  eventIds : List String
  findingIds : List String
  firstSeen : String
  lastSeen : String
  deriving DecidableEq, Repr

def serializeEntity (row : EntityRecord) : EntityReply where
  id := row.id
  entityType := row.entityType
  key := row.key
  displayName := row.displayName
  criticality := row.criticality
  riskScore := row.riskScore
  riskComponents := row.riskComponents
  eventIds := row.eventIds
  findingIds := row.findingIds
  firstSeen := row.firstSeen.isoformat
  lastSeen := row.lastSeen.isoformat

def statsJson (stats : GraphStats) : JsonObject :=
  [("entities", .int stats.entities), ("relationships", .int stats.relationships),
    ("manufactured_edges", .bool stats.manufacturedEdges)]

def rebuildGraph (rt : Runtime) (actor : TenantActor) : Endpoint GraphStats := do
  let stats ← service (projectWindow rt actor.tenantId)
  writeAudit rt
    { actor.entry "graph.rebuild" "entity_graph" with afterState := some (statsJson stats) }
  pure stats

/-- `update_criticality` once the value is set. -/
def projectUpdated (rt : Runtime) (actor : TenantActor) (entityId criticality : String) :
    Endpoint EntityReply := do
  let _ ← service (projectWindow rt actor.tenantId)
  let updated ← service (getEntity actor.tenantId entityId)
  writeAudit rt
    { actor.entry "graph.criticality" "entity" with
      targetId := some entityId
      afterState := some [("criticality", .str criticality)] }
  match updated with
  | none => Exec.raise .assertionError
  | some row => pure (serializeEntity row)

def updateCriticality (rt : Runtime) (actor : TenantActor) (entityId criticality : String) :
    Endpoint EntityReply := do
  match ← Exec.attempt (service (setCriticality actor.tenantId entityId criticality)) with
  | .error (.service (.python e)) =>
      if e.isValueError then Exec.raise (.service (.blueTeamError "GRAPH_INVALID" (e.text rt) 422))
      else Exec.raise (.service (.python e))
  | .error e => Exec.raise e
  | .ok none => Exec.raise (.service (.blueTeamError "NOT_FOUND" "Entity not found" 404))
  | .ok (some _) => projectUpdated rt actor entityId criticality

/-! ### Runs of one tenant -/

/-- The calls that change the graph of a tenant. -/
inductive GraphCall
  | ingest (actorId : String) (payloads : List JsonObject)
  | rebuild (actor : Actor)
  | updateCriticality (actor : Actor) (entityId criticality : String)

def GraphCall.body (rt : Runtime) (tenantId : String) : GraphCall → Endpoint Unit
  | .ingest actorId payloads => do
      let _ ← service (ingestPayloads rt tenantId actorId payloads)
      pure ()
  | .rebuild actor => do
      let _ ← rebuildGraph rt ⟨actor, tenantId⟩
      pure ()
  | .updateCriticality actor entityId criticality => do
      let _ ← Api.updateCriticality rt ⟨actor, tenantId⟩ entityId criticality
      pure ()

/-- A database, and for each entity id the last value that `update_criticality` accepted. -/
structure Tracked where
  center : Center
  accepted : String → Criticality := fun _ => .unknown

/-- What has been accepted once a call is over. -/
def GraphCall.accept (accepted : String → Criticality) :
    GraphCall → Except CenterFailure Unit → String → Criticality
  | .updateCriticality _ entityId criticality, .ok _ =>
      Function.update accepted entityId ((criticalityOf criticality).getD .unknown)
  | _, _ => accepted

def Tracked.step (rt : Runtime) (tenantId : String) (t : Tracked) (call : GraphCall) : Tracked where
  center := (getDb (call.body rt tenantId) t.center).2
  accepted := call.accept t.accepted (getDb (call.body rt tenantId) t.center).1

/-- The tenant has nothing in the database yet. -/
structure Fresh (tenantId : String) (c : Center) : Prop where
  pending : c.session.pending = []
  events : ∀ r ∈ c.session.stored .events, r.tenantId ≠ tenantId
  entities : ∀ r ∈ c.session.stored .entities, r.tenantId ≠ tenantId

/-- What holds of the tenant's entities in a state, and what comes of it. -/
structure CriticalityKept (rt : Runtime) (tenantId : String) (t : Tracked) : Prop where
  criticality : ∀ r ∈ t.center.session.stored .entities, r.tenantId = tenantId →
    r.criticality = t.accepted r.id
  kept : ∀ more id, HasEntity tenantId id t.center.session →
    HasEntity tenantId id (Machine.run (Tracked.step rt tenantId) t more).center.session
  asserted : ∀ call : GraphCall,
    (getDb (call.body rt tenantId) t.center).1 ≠ .error .assertionError
  refused : ∀ actor entityId criticality,
    criticalityOf criticality = none ∨ ¬ HasEntity tenantId entityId t.center.session →
    ∃ e ticks, getDb ((GraphCall.updateCriticality actor entityId criticality).body rt tenantId)
      t.center = (.error e, { t.center with ticks := ticks })

section

variable {rt : Runtime} {tenantId : String} {accepted : String → Criticality}
  {seen : String → Prop}

theorem getEntity_present {entityId : String} (hseen : seen entityId) :
    Triple (fun w => Projected rt tenantId accepted seen w.session) (getEntity tenantId entityId)
      (fun found w => found ≠ none ∧ Projected rt tenantId accepted seen w.session)
      (fun _ _ => True) := by
  refine triple_selectOne ?_ ?_ ?_
  · intro w hw hnone
    obtain ⟨r, hr, hown, hid⟩ := hw.kept entityId hseen
    have hnot := hnone r hr hown
    simp [hid] at hnot
  · intro w r hw _ _ _
    exact ⟨by simp, hw⟩
  · exact fun _ _ _ => trivial

/-- The `try` of `update_criticality`. -/
theorem attempt_setCriticality (entityId criticality : String) {c : Center}
    (hc : Projected rt tenantId accepted seen c.session) :
    Triple (fun c' => c' = c)
      (Exec.attempt (service (setCriticality tenantId entityId criticality)))
      (fun outcome c' => outcome ≠ .error .assertionError ∧ ∀ row, outcome = .ok (some row) →
        HasEntity tenantId entityId c.session ∧ ∃ value, criticalityOf criticality = some value ∧
          Projected rt tenantId (Function.update accepted entityId value) seen c'.session)
      (fun _ _ => False) := by
  constructor
  intro c' hc'
  subst hc'
  rcases hrun : setCriticality tenantId entityId criticality ⟨c'.session, c'.ticks⟩ with
    ⟨⟨f⟩ | ⟨result⟩, w⟩
  · simp [Exec.attempt, service, Exec.zoom, hrun, Except.mapError]
  · have hprojected := (setCriticality_projected entityId criticality).ok hc hrun
    simp only [Exec.attempt, service, Exec.zoom, hrun, Except.mapError]
    refine ⟨by simp, ?_⟩
    intro row hrow
    obtain rfl := Except.ok.inj hrow
    exact ⟨(setCriticality_some hrun).2, hprojected row rfl⟩

/-- After the rebuild the entity is there again. -/
theorem projectUpdated_projected (actor : Actor) {entityId : String} (criticality : String)
    (hseen : seen entityId) :
    Triple (fun c => Projected rt tenantId accepted seen c.session)
      (projectUpdated rt ⟨actor, tenantId⟩ entityId criticality)
      (fun _ c => Projected rt tenantId accepted seen c.session)
      (fun e _ => e ≠ .assertionError) := by
  refine triple_bind (triple_service
    (Q := fun _ s => Projected rt tenantId accepted seen s) projectWindow_projected (by simp))
    fun _ => ?_
  refine triple_bind (triple_service
    (Q := fun found s => found ≠ none ∧ Projected rt tenantId accepted seen s)
    (getEntity_present hseen) (by simp)) fun updated => ?_
  refine triple_given fun hupdated => ?_
  refine triple_bind (triple_writeAudit rt _ (fun _ _ h hflush => Projected.flush h hflush)
    (by simp) (by simp)) fun _ => ?_
  cases updated with
  | none => exact absurd rfl hupdated
  | some row => exact triple_pure fun _ h => h

theorem updateCriticality_projected (actor : Actor) (entityId criticality : String) :
    Triple (fun c => Projected rt tenantId accepted seen c.session)
      (updateCriticality rt ⟨actor, tenantId⟩ entityId criticality)
      (fun _ c => ∃ value, criticalityOf criticality = some value ∧
        Projected rt tenantId (Function.update accepted entityId value) seen c.session)
      (fun e _ => e ≠ .assertionError) := by
  refine triple_from fun c hc => ?_
  -- every entity of the state before, so also the one that is looked up again
  let present := fun id => HasEntity tenantId id c.session
  have hpresent : Projected rt tenantId accepted present c.session :=
    hc.seeing fun _ hid => hid
  refine triple_bind ((attempt_setCriticality entityId criticality hpresent).conseq
    (fun _ h => h) (fun _ _ h => h) (fun _ _ h => h.elim)) fun outcome => ?_
  rcases outcome with e | (_ | row)
  · cases e with
    | assertionError => exact ⟨fun _ h => absurd rfl h.1⟩
    | service f =>
        cases f with
        | python e =>
            show Triple _ (if e.isValueError then _ else _) _ _
            split
            · exact triple_raise fun _ _ => by simp
            · exact triple_raise fun _ _ => by simp
        | _ => exact triple_raise fun _ _ => by simp
    | _ => exact triple_raise fun _ _ => by simp
  · exact triple_raise fun _ _ => by simp
  · refine triple_from fun c₁ hc₁ => ?_
    obtain ⟨hthere, value, hvalue, hset⟩ := hc₁.2 row rfl
    have hfinish : Triple
        (fun c => Projected rt tenantId (Function.update accepted entityId value) present c.session)
        (projectUpdated rt ⟨actor, tenantId⟩ entityId criticality)
        (fun _ c =>
          Projected rt tenantId (Function.update accepted entityId value) present c.session)
        (fun e _ => e ≠ .assertionError) := projectUpdated_projected actor criticality hthere
    refine hfinish.conseq ?_ ?_ fun _ _ h => h
    · rintro _ rfl
      exact hset
    · intro _ _ h
      exact ⟨value, hvalue, h.seeing fun id hid => h.kept id (hc.kept id hid)⟩

theorem rebuildGraph_projected (actor : Actor) :
    Triple (fun c => Projected rt tenantId accepted seen c.session)
      (rebuildGraph rt ⟨actor, tenantId⟩) (fun _ c => Projected rt tenantId accepted seen c.session)
      (fun e _ => e ≠ .assertionError) := by
  refine triple_bind (triple_service
    (Q := fun _ s => Projected rt tenantId accepted seen s) projectWindow_projected (by simp))
    fun stats => ?_
  refine triple_bind (triple_writeAudit rt _ (fun _ _ h hflush => Projected.flush h hflush)
    (by simp) (by simp)) fun _ => triple_pure fun _ h => h

/-- A call that returns keeps the invariant for what has been accepted then. -/
theorem body_projected (call : GraphCall) :
    Triple (fun c => Projected rt tenantId accepted seen c.session) (call.body rt tenantId)
      (fun u c => Projected rt tenantId (call.accept accepted (.ok u)) seen c.session)
      (fun e _ => e ≠ .assertionError) := by
  cases call with
  | ingest actorId payloads =>
      refine triple_bind (triple_service (Q := fun _ s => Projected rt tenantId accepted seen s)
        (ingestPayloads_projected actorId payloads) (by simp)) fun _ => ?_
      exact triple_pure fun _ h => h
  | rebuild actor =>
      exact triple_bind (rebuildGraph_projected actor) fun _ => triple_pure fun _ h => h
  | updateCriticality actor entityId criticality =>
      refine triple_bind (updateCriticality_projected actor entityId criticality) fun _ => ?_
      refine triple_pure ?_
      rintro c ⟨value, hvalue, h⟩
      show Projected rt tenantId
        (Function.update accepted entityId ((criticalityOf criticality).getD .unknown)) seen c.session
      rw [hvalue]
      exact h

theorem accept_error (call : GraphCall) (e : CenterFailure) :
    call.accept accepted (.error e) = accepted := by
  cases call <;> rfl

theorem service_flush_session {c c' : Center} (h : service flush c = (.ok (), c')) :
    c.session.flush = .ok c'.session := by
  unfold service Exec.zoom flush at h
  dsimp only at h
  split at h
  · rename_i s hs
    obtain ⟨-, rfl⟩ := Prod.mk.inj h
    exact hs
  · cases h

/-- A call keeps the invariant, whether it returns or raises. -/
theorem step_projected {t : Tracked} (call : GraphCall)
    (h : Projected rt tenantId t.accepted seen t.center.session) :
    Projected rt tenantId (t.step rt tenantId call).accepted seen
      (t.step rt tenantId call).center.session := by
  unfold Tracked.step
  rcases getDb_cases (call.body rt tenantId) t.center with
    ⟨e, ticks, hrun⟩ | ⟨u, c₁, c', hreturned, hflush, hrun⟩
  · rw [hrun, accept_error]
    exact h
  · rw [hrun]
    exact ((body_projected call).ok h hreturned).flush (service_flush_session hflush)

theorem run_projected (calls : List GraphCall) {t : Tracked}
    (h : Projected rt tenantId t.accepted seen t.center.session) :
    Projected rt tenantId (Machine.run (Tracked.step rt tenantId) t calls).accepted seen
      (Machine.run (Tracked.step rt tenantId) t calls).center.session :=
  Machine.run_inv (fun t : Tracked => Projected rt tenantId t.accepted seen t.center.session)
    (fun _ call ht => step_projected call ht) h calls

theorem Fresh.projected {c : Center} (h : Fresh tenantId c) :
    Projected rt tenantId (fun _ => .unknown) (fun _ => False) c.session := by
  have hwaiting (t : Table) : c.session.pendingOf (S := schema) t = [] := by
    unfold Session.pendingOf
    rw [h.pending]
    rfl
  refine ⟨hwaiting _, ?_, ?_, ?_, ?_, ?_⟩
  · intro r hr hown
    rw [Session.all, hwaiting, List.append_nil] at hr
    exact absurd hown (h.events r hr)
  · exact fun r hr hown => absurd hown (h.entities r hr)
  · exact fun r hr hown => absurd hown (h.entities r hr)
  · exact fun id hne => absurd rfl hne
  · exact fun id hseen => hseen.elim

/-- An update that returns was of an entity that is there, to a value that is allowed. -/
theorem updateCriticality_ok {actor : Actor} {entityId criticality : String} {c c' : Center}
    {reply : EntityReply}
    (h : updateCriticality rt ⟨actor, tenantId⟩ entityId criticality c = (.ok reply, c')) :
    criticalityOf criticality ≠ none ∧ HasEntity tenantId entityId c.session := by
  obtain ⟨outcome, c₁, hset, hafter⟩ := ok_of_bind h
  unfold Exec.attempt service Exec.zoom at hset
  rcases hrun : setCriticality tenantId entityId criticality ⟨c.session, c.ticks⟩ with
    ⟨⟨f⟩ | ⟨_ | ⟨row⟩⟩, w⟩
  · rw [hrun] at hset
    obtain ⟨houtcome, -⟩ := Prod.mk.inj hset
    obtain rfl := Except.ok.inj houtcome
    cases f with
    | python e =>
        simp only [Except.mapError] at hafter
        split at hafter
        · cases hafter
        · cases hafter
    | _ => cases hafter
  · rw [hrun] at hset
    obtain ⟨houtcome, -⟩ := Prod.mk.inj hset
    obtain rfl := Except.ok.inj houtcome
    cases hafter
  · obtain ⟨⟨value, hvalue⟩, hhas⟩ := setCriticality_some hrun
    exact ⟨by simp [hvalue], hhas⟩

/-- A value that is not allowed, or an entity that is not there, is refused. -/
theorem updateCriticality_refused (actor : Actor) {entityId criticality : String} {c : Center}
    (h : criticalityOf criticality = none ∨ ¬ HasEntity tenantId entityId c.session) :
    ∃ e ticks, getDb ((GraphCall.updateCriticality actor entityId criticality).body rt tenantId) c =
      (.error e, { c with ticks := ticks }) := by
  rcases getDb_cases ((GraphCall.updateCriticality actor entityId criticality).body rt tenantId) c
    with ⟨e, ticks, hrun⟩ | ⟨u, c₁, c', hreturned, -, -⟩
  · exact ⟨e, ticks, hrun⟩
  · obtain ⟨reply, c₂, hupdate, -⟩ := ok_of_bind hreturned
    obtain ⟨hallowed, hthere⟩ := updateCriticality_ok hupdate
    rcases h with hnone | hmissing
    · exact absurd hnone hallowed
    · exact absurd hthere hmissing

/-- In every state that ingestion, rebuilds and criticality updates of one tenant reach, each
entity has the last criticality accepted for it, and it stays. -/
theorem criticality_survives_rebuilds (rt : Runtime) (tenantId : String) (c : Center)
    (calls : List GraphCall) (hc : Fresh tenantId c) :
    CriticalityKept rt tenantId (Machine.run (Tracked.step rt tenantId) { center := c } calls) := by
  have hstart : Projected rt tenantId (Tracked.accepted { center := c }) (fun _ => False)
      (Tracked.center { center := c }).session := hc.projected
  have hrun := run_projected calls hstart
  refine ⟨hrun.criticality, ?_, ?_, ?_⟩
  · intro more id hid
    have hseen := hrun.seeing fun x (hx : x = id) => by
      subst hx
      exact hid
    exact (run_projected more hseen).kept id rfl
  · intro call herror
    rcases getDb_error herror with ⟨c', hraised⟩ | ⟨f, hf⟩
    · exact (body_projected call).error hrun hraised rfl
    · cases hf
  · intro actor entityId criticality h
    exact updateCriticality_refused actor h

end

/-! ### A sample -/

def vacant : Center where
  session := emptyWorld.session

/-- A host is seen, an analyst raises it, and the graph is rebuilt. -/
def raisedHost : List GraphCall :=
  let analyst : Actor := ⟨"usr_1", "user", "req_1"⟩
  [.ingest "usr_1" [beaconPayload],
    .updateCriticality analyst (Graph.entityId sampleRuntime "ten_a" .host "h") "high",
    .rebuild analyst]

theorem criticality_survives_rebuilds_host :
    Fresh "ten_a" vacant ∧
      CriticalityKept sampleRuntime "ten_a"
        (Machine.run (Tracked.step sampleRuntime "ten_a") { center := vacant } raisedHost) := by
  have hfresh : Fresh "ten_a" vacant :=
    ⟨rfl, (fun r hr => by cases hr), (fun r hr => by cases hr)⟩
  exact ⟨hfresh, criticality_survives_rebuilds sampleRuntime "ten_a" vacant raisedHost hfresh⟩

end BlueTeam.Api
