/- GID: BlueTeam/Services/Upkeep
   generality: I
   source: services/api/app/services
   digest: The services of a tenant, and what an invariant needs in order to outlast all of them. -/

import BlueTeam.Services.Evidence
import BlueTeam.Services.Expiry
import BlueTeam.Services.Incidents
import BlueTeam.Services.Projection

set_option autoImplicit false
set_option relaxedAutoImplicit false

namespace BlueTeam.Services

open BlueTeam.Python BlueTeam.Schema BlueTeam.Lib BlueTeam.Lib.Exec BlueTeam.Detection BlueTeam.Ingest

/-- The service keeps the invariant where it returns. Where it raises, its transaction is rolled
back. -/
def Upkeeps {α : Type} (I : Session schema → Prop) (m : Service α) : Prop :=
  Keeps I (fun _ _ => True) m

/-- Two services, of which the second relies on what the first has found. -/
def UpkeepsBoth {α β : Type} (I : Session schema → Prop) (find : Service α) (use : α → Service β) :
    Prop :=
  ∃ found : α → Session schema → Prop,
    Triple (fun w => I w.session) find (fun a w => found a w.session) (fun _ _ => True) ∧
      ∀ a, Triple (fun w => found a w.session) (use a) (fun _ w => I w.session) (fun _ _ => True)

/-- No service that is called for the tenant breaks the invariant. -/
structure Upheld (rt : Runtime) (tenantId : String) (I : Session schema → Prop) : Prop where
  flush : ∀ s s', I s → s.flush = .ok s' → I s'
  runScheduled : ∀ actorId, Upkeeps I (runScheduled rt tenantId actorId)
  createSuppression : ∀ ruleId entityKey entityValue reason actorId expiresAt, Upkeeps I
    (createSuppression rt tenantId ruleId entityKey entityValue reason actorId expiresAt)
  createException : ∀ ruleId entityKey entityValue reason actorId, Upkeeps I
    (createException rt tenantId ruleId entityKey entityValue reason actorId)
  persistStorylinesAndIncidents : Upkeeps I (persistStorylinesAndIncidents rt tenantId)
  createFromAlert : ∀ alertId actorId, Upkeeps I (createFromAlert rt tenantId alertId actorId)
  edit : ∀ request : IncidentRequest, request.tenantId = tenantId →
    UpkeepsBoth I (request.load rt) Edit.save
  appendCustody : ∀ evidenceId actorId action notes,
    Upkeeps I (appendCustody rt tenantId evidenceId actorId action notes)
  projectWindow : Upkeeps I (projectWindow rt tenantId)
  setCriticality : ∀ entityId criticality, Upkeeps I (setCriticality tenantId entityId criticality)
  ingestPayloads : ∀ actorId payloads, Upkeeps I (ingestPayloads rt tenantId actorId payloads)
  upsertIoc : ∀ req, Upkeeps I (upsertIoc rt tenantId req)
  deactivateIoc : ∀ iocId actorId,
    UpkeepsBoth I (getIoc tenantId iocId) fun row => deactivateIoc rt row actorId
  expireStale : Upkeeps I (expireStale rt tenantId)

section

variable {I : Session schema → Prop} {α β : Type}

theorem UpkeepsBoth.of_upkeeps {find : Service α} {use : α → Service β} (hfind : Upkeeps I find)
    (huse : ∀ a, Upkeeps I (use a)) : UpkeepsBoth I find use :=
  ⟨fun _ => I, hfind, huse⟩

theorem upkeeps_raise (e : Failure) : Upkeeps I (raise e : Service α) :=
  keeps_raise fun _ _ => trivial

theorem upkeeps_draw (m : Draw α) : Upkeeps I (draw m) :=
  keeps_draw fun _ _ _ => trivial

theorem upkeeps_compute (r : Except Exn α) : Upkeeps I (compute r) :=
  keeps_compute fun _ _ _ => trivial

/-! ### Services that only read -/

theorem listIocs_upkeeps (rt : Runtime) (tenantId : String) : Upkeeps I (listIocs rt tenantId) := by
  unfold listIocs
  refine keeps_bind keeps_select fun rows => ?_
  exact keeps_bind (upkeeps_draw _) fun now => upkeeps_compute _

theorem listAllIocs_upkeeps (tenantId : String) : Upkeeps I (listAllIocs tenantId) :=
  keeps_bind keeps_select fun _ => keeps_pure _

theorem getIoc_upkeeps (tenantId iocId : String) : Upkeeps I (getIoc tenantId iocId) := by
  unfold getIoc
  refine keeps_bind (keeps_selectOne fun _ _ => trivial) fun found => ?_
  cases found with
  | none => exact upkeeps_raise _
  | some row => exact keeps_pure _

theorem getEntity_upkeeps (tenantId entityId : String) :
    Upkeeps I (getEntity tenantId entityId) :=
  keeps_selectOne fun _ _ => trivial

theorem validateClaim_upkeeps (rt : Runtime) (tenantId : String) (claim : IncidentClaim) :
    Upkeeps I (validateClaim rt tenantId claim) := by
  unfold validateClaim
  refine keeps_bind keeps_select fun rows => ?_
  split
  · exact upkeeps_raise _
  · exact keeps_pure _

end

/-! ### Invariants that say nothing of some tables -/

section

variable {rt : Runtime} {I : Session schema → Prop} {tables : List Table}

theorem Stable.flushes (h : Stable I (fun _ _ => True) tables) (s s' : Session schema) (hs : I s)
    (hflush : s.flush = .ok s') : I s' := by
  have hrun : Services.flush ⟨s, {}⟩ = (.ok (), ⟨s', {}⟩) := by
    unfold Services.flush
    simp only [hflush]
  exact h.flush.ok (s := ⟨s, {}⟩) hs hrun

theorem Stable.subset {some : List Table} (h : Stable I (fun _ _ => True) tables)
    (hsome : some ⊆ tables) : Stable I (fun _ _ => True) some :=
  { h with
    add := fun r s ht => h.add r s (hsome ht)
    update := fun f s ht => h.update f s (hsome ht)
    delete := fun p s ht => h.delete p s (hsome ht) }

variable (rt) (tenantId : String) (h : Stable I (fun _ _ => True) tables)

include h

theorem setCriticality_upkeeps (he : .entities ∈ tables) (entityId criticality : String) :
    Upkeeps I (setCriticality tenantId entityId criticality) := by
  unfold setCriticality
  refine keeps_bind (getEntity_upkeeps tenantId entityId) fun found => ?_
  cases found with
  | none => exact keeps_pure _
  | some row =>
      dsimp only
      split
      · exact upkeeps_raise _
      · refine keeps_bind (keeps_update fun s hs => h.update _ s he (by decide) hs) fun _ => ?_
        exact keeps_bind h.flush fun _ => keeps_pure _

theorem projectWindow_upkeeps (he : .entities ∈ tables) (hr : .relationships ∈ tables) :
    Upkeeps I (projectWindow rt tenantId) := by
  unfold projectWindow projectGraphStats
  refine keeps_bind (loadWindow_keeps tenantId) fun window => ?_
  refine keeps_bind keeps_select fun findings => ?_
  refine keeps_bind keeps_select fun stored => ?_
  refine keeps_bind (upkeeps_compute _) fun graph => ?_
  exact keeps_bind (replaceGraph_keeps tenantId h he hr graph) fun _ => keeps_pure _

theorem upsertIoc_upkeeps (ht : .indicators ∈ tables) (req : IocRequest) :
    Upkeeps I (upsertIoc rt tenantId req) := by
  unfold upsertIoc
  rcases req.normalized rt with ⟨indicatorType, value⟩
  dsimp only
  split
  · exact upkeeps_raise _
  · split
    · exact upkeeps_raise _
    · split
      · exact upkeeps_raise _
      · refine keeps_bind (upkeeps_draw _) fun now => ?_
        refine keeps_bind (keeps_selectOne fun _ _ => trivial) fun found => ?_
        cases found with
        | some row =>
            refine keeps_bind (upkeeps_compute _) fun expiresAt => ?_
            refine keeps_bind (keeps_update fun s hs => h.update _ s ht (by decide) hs) fun _ => ?_
            exact keeps_bind h.flush fun _ => keeps_pure _
        | none =>
            refine keeps_bind (upkeeps_draw _) fun id => ?_
            refine keeps_bind (upkeeps_compute _) fun expiresAt => ?_
            refine keeps_bind (keeps_add fun s hs => h.add _ s ht hs) fun _ => ?_
            exact keeps_bind h.flush fun _ => keeps_pure _

theorem deactivateIoc_upkeeps (ht : .indicators ∈ tables) (row : IndicatorOfCompromise)
    (actorId : String) : Upkeeps I (deactivateIoc rt row actorId) := by
  unfold deactivateIoc
  refine keeps_bind (upkeeps_draw _) fun updatedAt => ?_
  refine keeps_bind (upkeeps_draw _) fun deactivatedAt => ?_
  refine keeps_bind (keeps_update fun s hs => h.update _ s ht (by decide) hs) fun _ => ?_
  exact keeps_bind h.flush fun _ => keeps_pure _

theorem expireStale_upkeeps (ht : .indicators ∈ tables) :
    Upkeeps I (expireStale rt tenantId) := by
  unfold expireStale
  refine keeps_bind (upkeeps_draw _) fun now => ?_
  refine keeps_bind keeps_select fun rows => ?_
  refine keeps_bind (upkeeps_compute _) fun expired => ?_
  refine keeps_bind (keeps_update fun s hs => h.update _ s ht (by decide) hs) fun _ => ?_
  split
  · exact keeps_pure _
  · exact keeps_bind h.flush fun _ => keeps_pure _

theorem createFromAlert_upkeeps (ha : .alerts ∈ tables) (hi : .incidents ∈ tables)
    (alertId actorId : String) : Upkeeps I (createFromAlert rt tenantId alertId actorId) := by
  unfold createFromAlert
  refine keeps_bind (keeps_selectOne fun _ _ => trivial) fun alert => ?_
  cases alert with
  | none => exact upkeeps_raise _
  | some alert =>
      refine keeps_bind (keeps_selectOne fun _ _ => trivial) fun existing => ?_
      cases existing with
      | some existing => exact keeps_pure _
      | none =>
          refine keeps_bind (upkeeps_draw _) fun now => ?_
          refine keeps_bind (upkeeps_draw _) fun id => ?_
          refine keeps_bind (upkeeps_draw _) fun created => ?_
          refine keeps_bind (keeps_update fun s hs => h.update _ s ha (by decide) hs) fun _ => ?_
          refine keeps_bind (keeps_add fun s hs => h.add _ s hi hs) fun _ => ?_
          exact keeps_bind h.flush fun _ => keeps_pure _

theorem appendCustody_upkeeps (he : .evidence ∈ tables) (evidenceId actorId action : String)
    (notes : Option String) :
    Upkeeps I (appendCustody rt tenantId evidenceId actorId action notes) := by
  unfold appendCustody
  refine keeps_bind (keeps_selectOne fun _ _ => trivial) fun found => ?_
  cases found with
  | none => exact upkeeps_raise _
  | some row =>
      refine keeps_bind (upkeeps_compute _) fun chain => ?_
      refine keeps_bind (upkeeps_draw _) fun id => ?_
      refine keeps_bind (upkeeps_draw _) fun at_ => ?_
      refine keeps_bind (keeps_update fun s hs => h.update _ s he (by decide) hs) fun _ => ?_
      exact keeps_bind h.flush fun _ => keeps_pure _

theorem save_upkeeps (hi : .incidents ∈ tables) (he : .evidence ∈ tables) (edit : Edit) :
    Upkeeps I edit.save := by
  unfold Edit.save
  refine keeps_bind (keeps_update fun s hs => h.update _ s hi (by decide) hs) fun _ => ?_
  split
  · exact h.flush
  · exact keeps_bind (keeps_update fun s hs => h.update _ s he (by decide) hs) fun _ => h.flush

end

section

variable {I : Session schema → Prop} (rt : Runtime) (tenantId : String)

theorem load_upkeeps (request : IncidentRequest) : Upkeeps I (request.load rt) := by
  refine triple_from fun w₀ hw₀ => (load_reads rt w₀.session request).conseq ?_ ?_ ?_
  · rintro _ rfl
    rfl
  · rintro edit w ⟨hsession, -⟩
    rw [hsession]
    exact hw₀
  · exact fun _ _ _ => trivial

theorem createSuppression_upkeeps (hflush : Upkeeps I flush)
    (hadd : ∀ (row : Suppression) (s : Session schema), I s →
      I (s.add (S := schema) (t := .suppressions) row))
    (ruleId entityKey entityValue reason actorId : String) (expiresAt : Option DateTime) :
    Upkeeps I
      (createSuppression rt tenantId ruleId entityKey entityValue reason actorId expiresAt) := by
  unfold createSuppression
  refine keeps_bind (upkeeps_draw _) fun id => ?_
  refine keeps_bind (upkeeps_draw _) fun createdAt => ?_
  refine keeps_bind (keeps_add fun s hs => hadd _ s hs) fun _ => ?_
  exact keeps_bind hflush fun _ => keeps_pure _

theorem createException_upkeeps (hflush : Upkeeps I flush)
    (hadd : ∀ (row : DetectionException) (s : Session schema), I s →
      I (s.add (S := schema) (t := .exceptions) row))
    (ruleId entityKey entityValue reason actorId : String) :
    Upkeeps I (createException rt tenantId ruleId entityKey entityValue reason actorId) := by
  unfold createException
  refine keeps_bind (upkeeps_draw _) fun id => ?_
  refine keeps_bind (upkeeps_draw _) fun createdAt => ?_
  refine keeps_bind (keeps_add fun s hs => hadd _ s hs) fun _ => ?_
  exact keeps_bind hflush fun _ => keeps_pure _

/-- The tables that are of no consequence to what is said of findings, incidents and evidence. -/
def plainTables : List Table :=
  [.events, .deadLetters, .indicators, .entities, .relationships]

/-- An invariant that says nothing of the plain tables needs to be looked at only where something
else is written. -/
theorem upheld_of_stable (h : Stable I (fun _ _ => True) plainTables)
    (hsuppressions : ∀ (row : Suppression) (s : Session schema), I s →
      I (s.add (S := schema) (t := .suppressions) row))
    (hexceptions : ∀ (row : DetectionException) (s : Session schema), I s →
      I (s.add (S := schema) (t := .exceptions) row))
    (hevaluate : ∀ actorId context event,
      Upkeeps I (evaluateAndStoreFindings rt tenantId actorId context event))
    (hpersist : Upkeeps I (persistStorylinesAndIncidents rt tenantId))
    (hconvert : ∀ alertId actorId, Upkeeps I (createFromAlert rt tenantId alertId actorId))
    (hedit : ∀ request : IncidentRequest, request.tenantId = tenantId →
      UpkeepsBoth I (request.load rt) Edit.save)
    (hcustody : ∀ evidenceId actorId action notes,
      Upkeeps I (appendCustody rt tenantId evidenceId actorId action notes)) :
    Upheld rt tenantId I where
  flush := h.flushes
  runScheduled actorId := runScheduled_keeps rt tenantId actorId (hevaluate actorId)
  createSuppression := createSuppression_upkeeps rt tenantId h.flush hsuppressions
  createException := createException_upkeeps rt tenantId h.flush hexceptions
  persistStorylinesAndIncidents := hpersist
  createFromAlert := hconvert
  edit := hedit
  appendCustody := hcustody
  projectWindow := projectWindow_upkeeps rt tenantId h (by decide) (by decide)
  setCriticality := setCriticality_upkeeps tenantId h (by decide)
  ingestPayloads actorId payloads := by
    unfold ingestPayloads
    refine keeps_bind (ingestLoop_keeps (F := fun _ => True) rt tenantId actorId h (by decide)
      (by decide) payloads (fun _ _ row _ s hs => h.add (t := .events) row s (by decide) hs)
      (hevaluate actorId)) fun result => ?_
    refine keeps_bind ?_ fun _ => keeps_pure _
    unfold projectBatch
    split
    · exact keeps_pure _
    · refine keeps_bind (loadWindow_keeps tenantId) fun window => ?_
      exact keeps_bind (projectGraph_keeps rt tenantId h (by decide) (by decide) window) fun _ =>
        hpersist
  upsertIoc := upsertIoc_upkeeps rt tenantId h (by decide)
  deactivateIoc iocId actorId := .of_upkeeps (getIoc_upkeeps tenantId iocId) fun row =>
    deactivateIoc_upkeeps rt h (by decide) row actorId
  expireStale := expireStale_upkeeps rt tenantId h (by decide)

end

end BlueTeam.Services
