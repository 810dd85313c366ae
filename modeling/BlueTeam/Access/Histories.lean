/- GID: BlueTeam/Access/Histories
   generality: I
   source: services/api/app/api/detections.py, incidents.py, evidence.py,
     services/api/app/services/suppression.py, incidents.py, evidence.py
   digest: What no history of the platform undoes. -/

import BlueTeam.Access.Boundary
import BlueTeam.Services.Archive
import BlueTeam.Services.Silencing

set_option autoImplicit false
set_option relaxedAutoImplicit false

namespace BlueTeam.Access

open BlueTeam.Python BlueTeam.Schema BlueTeam.Lib BlueTeam.Lib.Exec BlueTeam.Services BlueTeam.Rules
open BlueTeam.Api

section

variable {tokens : Tokens} {security : Security} {rt : Runtime} {catalogue : Catalogue}
  {p : Platform} {tenantId : String} {t : Table}

theorem run_lawful (h : p.Lawful) (history : List Step) :
    (p.run tokens security rt catalogue history).Lawful :=
  Machine.run_inv Platform.Lawful (fun _ step hp => step_lawful hp step) h history

/-- A request that changes the rows of a tenant was let through for it and has returned. -/
theorem request_changes (h : p.Lawful) {headers : Headers} {requestId : String} {route : Route}
    (hchange : p.Changes tokens security rt catalogue (.request headers requestId route)
      tenantId t) :
    ∃ actor : TenantActor, actor.tenantId = tenantId ∧ ∃ c c',
      route.body rt catalogue actor.forServices p.center = (.ok (), c) ∧
        c.session.flush = .ok c'.session ∧
        p.step tokens security rt catalogue (.request headers requestId route) =
          { p with center := c' } := by
  unfold Platform.Changes Platform.step at hchange
  unfold Platform.step
  dsimp only at hchange ⊢
  split at hchange
  · exact absurd rfl hchange
  · rename_i actor hpermit
    refine ⟨actor, ?_, ?_⟩
    · by_contra hother
      exact hchange ((getDb_lawful h (body_stays route)).2 tenantId t (Ne.symm hother))
    · rcases getDb_cases (route.body rt catalogue actor.forServices) p.center with
        ⟨e, ticks, hrun⟩ | ⟨⟨⟩, c, c', hreturned, hcommit, hrun⟩
      · rw [hrun] at hchange
        exact absurd rfl hchange
      · exact ⟨c, c', hreturned, service_flush_session hcommit, by rw [hrun]⟩

end

/-! ### Silence -/

/-- What the endpoints for suppressions and exceptions are given. -/
def silencingBody : Change → Option SuppressionBody
  | .addSuppression body | .addException body => some body
  | _ => none

section

variable {tokens : Tokens} {security : Security} {rt : Runtime} {catalogue : Catalogue}
  {p : Platform} {tenantId : String} {t : Table}

/-- The two endpoints differ in the service that they call. -/
theorem silencing_body {β γ : Type} {m : Service β} {reply : β → γ} {tenantId : String}
    {body : SuppressionBody}
    (hm : Triple (fun _ => True) m (fun _ w => Silences w.session.stored tenantId body.ruleId
      body.entityKey body.entityValue) (fun _ _ => True)) :
    Triple (fun _ => True) (silently do
        minLength 3 body.reason
        let row ← service m
        pure (reply row))
      (fun _ c => Silences c.session.stored tenantId body.ruleId body.entityKey
        body.entityValue) (fun _ _ => True) := by
  have hlength : Triple (fun _ => True) (minLength 3 body.reason) (fun _ _ => True)
      (fun _ _ => True) := ⟨fun c _ => by split <;> trivial⟩
  refine triple_bind (triple_bind hlength fun _ => ?_) fun _ => triple_pure fun _ hc => hc
  have hservice := triple_service (P := fun _ => True) (Q := fun _ s => Silences s.stored tenantId
    body.ruleId body.entityKey body.entityValue) hm (E := fun _ _ => True) fun _ _ => trivial
  exact triple_bind hservice fun _ => triple_pure fun _ hc => hc

theorem body_silences {actor : Api.TenantActor} {made : Change} {body : SuppressionBody}
    (h : silencingBody made = some body) :
    Triple (fun _ => True) ((Route.change made).body rt catalogue actor)
      (fun _ c => Silences c.session.stored actor.tenantId body.ruleId body.entityKey
        body.entityValue) (fun _ _ => True) := by
  cases made with
  | addSuppression given =>
      obtain rfl := Option.some.inj h
      exact silencing_body (createSuppression_silences rt _ _ _ _ _ _)
  | addException given =>
      obtain rfl := Option.some.inj h
      exact silencing_body (createException_silences rt _ _ _ _ _ _)
  | _ => cases h

/-- A request that silences and changes something of a tenant silences there. -/
theorem step_silences (h : p.Lawful) {headers : Headers} {requestId : String} {made : Change}
    {body : SuppressionBody} (hmade : silencingBody made = some body)
    (hchange : p.Changes tokens security rt catalogue
      (.request headers requestId (.change made)) tenantId t) :
    Silences (p.step tokens security rt catalogue
      (.request headers requestId (.change made))).center.session.stored tenantId body.ruleId
        body.entityKey body.entityValue := by
  obtain ⟨actor, rfl, c, c', hreturned, hflush, hstep⟩ := request_changes h hchange
  rw [hstep]
  exact ((body_silences hmade).ok trivial hreturned).flush hflush

theorem run_quieted (h : p.Lawful) (history : List Step) :
    Quieted p.center.session.stored
      (p.run tokens security rt catalogue history).center.session :=
  (run_upheld (fun tenantId => quieted_upheld rt tenantId _)
    ⟨h.pending, Quieted.start h.pending⟩ history).2

end

/-- A lawful platform that has neither events nor two rows of a table. -/
theorem lawful_of_sparse {p : Platform} (hpending : p.center.session.pending = [])
    (hevents : p.center.session.stored .events = [])
    (hrows : ∀ t, (p.center.session.stored t).length ≤ 1) : p.Lawful where
  pending := hpending
  keyed t := by
    have hlength := hrows t
    rcases h : p.center.session.stored t with _ | ⟨row, _ | ⟨other, rest⟩⟩
    · exact List.Pairwise.nil
    · exact List.pairwise_singleton _ _
    · rw [h] at hlength
      simp at hlength
  selfNamed r hr := by
    unfold Session.all Session.pendingOf at hr
    rw [hevents, hpending] at hr
    cases hr

section

variable {tokens : Tokens} {security : Security} {rt : Runtime} {catalogue : Catalogue}
  {p : Platform}

theorem run_archived (h : p.Lawful) (history : List Step) :
    Archived p.center.session.stored
      (p.run tokens security rt catalogue history).center.session :=
  (run_upheld (fun tenantId => archived_upheld rt tenantId _)
    ⟨h.pending, Archived.start h.pending h.keyed⟩ history).2

/-- What a service meets between two requests. -/
def Platform.world (p : Platform) : World :=
  ⟨p.center.session, p.center.ticks⟩

end

/-- Whatever happens, no event, incident or evidence of a tenant is lost or rewritten: incidents and
evidence are only added to, and evidence that was verified as intact always will be. -/
theorem records_kept (tokens : Tokens) (security : Security) (rt : Runtime)
    (catalogue : Catalogue) (start : Platform) (h : start.Lawful) (history : List Step) :
    let later := start.run tokens security rt catalogue history
    (∀ tenantId, start.rows tenantId .events ⊆ later.rows tenantId .events) ∧
    (∀ tenantId, ∀ incident ∈ start.rows tenantId .incidents,
      ∃ incident' ∈ later.rows tenantId .incidents, IncidentCarried incident incident') ∧
    (∀ tenantId, ∀ evidence ∈ start.rows tenantId .evidence,
      ∃ evidence' ∈ later.rows tenantId .evidence, EvidenceCarried evidence evidence') ∧
    ∀ tenantId evidenceId, Intact tenantId evidenceId start.world →
      Intact tenantId evidenceId later.world := by
  intro later
  have harchived : Archived start.center.session.stored later.center.session :=
    run_archived h history
  refine ⟨fun tenantId event hevent => ?_, fun tenantId incident hincident => ?_,
    fun tenantId evidence hevidence => ?_, fun tenantId evidenceId hintact => ?_⟩
  · obtain ⟨hstored, htenant⟩ := Database.mem_own.mp hevent
    exact Database.mem_own.mpr ⟨harchived.events.subset hstored, htenant⟩
  · obtain ⟨hstored, htenant⟩ := Database.mem_own.mp hincident
    obtain ⟨incident', hstored', hcarried⟩ := harchived.incidents incident hstored
    exact ⟨incident', Database.mem_own.mpr ⟨hstored', hcarried.tenant.trans htenant⟩, hcarried⟩
  · obtain ⟨hstored, htenant⟩ := Database.mem_own.mp hevidence
    obtain ⟨evidence', hstored', hcarried⟩ := harchived.evidence evidence hstored
    exact ⟨evidence', Database.mem_own.mpr ⟨hstored', hcarried.tenant.trans htenant⟩, hcarried⟩
  · exact Archived.intact (w := start.world) (v := later.world) harchived hintact

/-- However an alert came to its incident, converting it once more at any later time gives that
incident, as it has become, and changes nothing. -/
theorem alert_converted_once (tokens : Tokens) (security : Security) (rt : Runtime)
    (catalogue : Catalogue) (start : Platform) (h : start.Lawful)
    (hsourced : ∀ r ∈ start.center.session.stored .incidents, Sourced r) (history : List Step)
    (tenantId : String) (incident : IncidentRecord)
    (hincident : incident ∈ start.rows tenantId .incidents) (alert : Alert)
    (halert : alert ∈ (start.run tokens security rt catalogue history).rows tenantId .alerts)
    (hsource : incident.sourceAlertId = some alert.id) (actorId : String) :
    let later := (start.run tokens security rt catalogue history).world
    ∃ incident', IncidentCarried incident incident' ∧
      createFromAlert rt tenantId alert.id actorId later = (.ok incident', later) := by
  intro later
  obtain ⟨hstored, rfl⟩ := Database.mem_own.mp hincident
  obtain ⟨incident', hcarried, honly⟩ := (run_archived h history).conversion hsourced hstored hsource
  have hunder := World.under_self (w := later) ((run_lawful h history).keyed .alerts)
    (World.mem_rowsOf.mpr (Database.mem_own.mp halert))
  exact ⟨incident', hcarried, createFromAlert_found rt hunder honly⟩

/-! ### Samples -/

/-- An alert with the incident it was converted to, and sealed evidence. -/
def recordedPlatform : Platform where
  center :=
    { samplePlatform.center with
      session :=
        { stored := fun t => match t with
            | .incidents =>
                [{ sampleIncident "inc_1" "ten_a" with
                    fingerprint := "alert:alt_1", sourceAlertId := some "alt_1" }]
            | .evidence => [sampleEvidence "evi_1" "ten_a"]
            | t => alerted.session.stored t
          pending := [] } }

theorem recordedPlatform_lawful : recordedPlatform.Lawful := by
  refine lawful_of_sparse rfl rfl fun t => ?_
  cases t <;> decide

/-- The evidence is linked to the incident. -/
def linkingStep : Step :=
  .request sampleHeaders "req_2" (.change (.evidence "inc_1" "evi_1"))

theorem records_kept_linking :
    ∃ evidence' ∈ (recordedPlatform.run sampleTokens plainSecurity sampleRuntime defaultCatalogue
        [linkingStep]).rows "ten_a" .evidence,
      EvidenceCarried (sampleEvidence "evi_1" "ten_a") evidence' :=
  (records_kept sampleTokens plainSecurity sampleRuntime defaultCatalogue recordedPlatform
    recordedPlatform_lawful [linkingStep]).2.2.1 "ten_a" _ (List.mem_singleton.mpr rfl)

theorem alert_converted_once_recorded :
    ∃ incident',
      createFromAlert sampleRuntime "ten_a" "alt_1" "usr_1" recordedPlatform.world =
        (.ok incident', recordedPlatform.world) := by
  obtain ⟨incident', -, hrun⟩ := alert_converted_once sampleTokens plainSecurity sampleRuntime
    defaultCatalogue recordedPlatform recordedPlatform_lawful (by
      intro r hr alertId hsource
      obtain rfl := List.mem_singleton.mp hr
      obtain rfl := Option.some.inj hsource
      rfl) [] "ten_a" _ (List.mem_singleton.mpr rfl) _ (List.mem_singleton.mpr rfl) rfl "usr_1"
  exact ⟨incident', hrun⟩

end BlueTeam.Access
