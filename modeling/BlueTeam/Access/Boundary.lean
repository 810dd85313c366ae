/- GID: BlueTeam/Access/Boundary
   generality: I
   source: services/api/app/api/detections.py, incidents.py, evidence.py, graph.py, intel.py,
     events.py, connectors.py, auth.py, services/api/app/core/deps.py
   digest: Nothing that a tenant has changes but at the request of someone entitled to it there. -/

import BlueTeam.Access.Platform
import BlueTeam.Services.Confinement

set_option autoImplicit false
set_option relaxedAutoImplicit false

namespace BlueTeam.Access

open BlueTeam.Python BlueTeam.Schema BlueTeam.Lib BlueTeam.Lib.Exec BlueTeam.Services BlueTeam.Rules
open BlueTeam.Api

/-- What holds between requests, of the database as it was created. -/
structure Platform.Lawful (p : Platform) : Prop where
  pending : p.center.session.pending = []
  keyed : ∀ t, schema.Keyed (p.center.session.stored t)
  selfNamed : SelfNamed p.center.session

/-! ### The endpoints stay within the tenant of their actor -/

/-- Where the endpoint returns, it has stayed within the tenant; where it raises, its transaction
is rolled back. -/
def Stays {α : Type} (tenantId : String) (base : Database schema) (m : Endpoint α) : Prop :=
  Triple (fun c => Confined tenantId base c.session) m
    (fun _ c => Confined tenantId base c.session) (fun _ _ => True)

section

variable {rt : Runtime} {catalogue : Catalogue} {tenantId : String} {base : Database schema}
  {actor : Api.TenantActor} {α : Type}

theorem upkeeps_of_confines {m : Service α} (h : Confines tenantId base m) :
    Upkeeps (Confined tenantId base) m :=
  h.conseq (fun _ hw => hw) (fun _ _ hw => hw) fun _ _ _ => trivial

/-- No service of the tenant goes beyond it. -/
theorem confined_upheld (rt : Runtime) (tenantId : String) (base : Database schema) :
    Upheld rt tenantId (Confined tenantId base) where
  flush _ _ h hflush := h.flush hflush
  runScheduled actorId := upkeeps_of_confines (runScheduled_confines rt actorId)
  createSuppression _ _ _ _ _ _ := upkeeps_of_confines (createSuppression_confines rt _ _ _ _ _ _)
  createException _ _ _ _ _ := upkeeps_of_confines (createException_confines rt _ _ _ _ _)
  persistStorylinesAndIncidents := upkeeps_of_confines (persistStorylinesAndIncidents_confines rt)
  createFromAlert _ _ := upkeeps_of_confines (createFromAlert_confines rt _ _)
  edit request hrequest :=
    ⟨fun edit s => EditsOwn tenantId edit s ∧ Confined tenantId base s,
      (load_confined rt request hrequest).conseq (fun _ hw => hw) (fun _ _ hw => hw)
        fun _ _ _ => trivial,
      fun edit => (save_confined edit).conseq (fun _ hw => hw) (fun _ _ hw => hw)
        fun _ _ _ => trivial⟩
  appendCustody _ _ _ _ := upkeeps_of_confines (appendCustody_confines rt _ _ _ _)
  projectWindow := upkeeps_of_confines (projectWindow_confines rt)
  setCriticality entityId criticality :=
    upkeeps_of_confines (setCriticality_confines entityId criticality)
  ingestPayloads actorId payloads := upkeeps_of_confines (ingestPayloads_confines rt actorId payloads)
  upsertIoc req := upkeeps_of_confines (upsertIoc_confines rt req)
  deactivateIoc iocId actorId :=
    ⟨fun row s => (IndicatorOfCompromise.tenantId row = tenantId ∧ row ∈ s.stored .indicators) ∧
        Confined tenantId base s,
      (getIoc_confined iocId).conseq (fun _ hw => hw) (fun _ _ hw => hw) fun _ _ _ => trivial,
      fun row => (deactivateIoc_confined rt row actorId).conseq (fun _ hw => hw)
        (fun _ _ hw => hw) fun _ _ _ => trivial⟩
  expireStale := upkeeps_of_confines (expireStale_confines rt)

theorem body_stays (route : Route) :
    Stays actor.tenantId base (route.body rt catalogue actor) :=
  body_upholds (confined_upheld rt actor.tenantId base) route

/-- A login stays within any tenant: it writes audit rows only. -/
theorem login_stays (security : Security) (r : LoginRequest) :
    Stays tenantId base (login security rt r) :=
  login_upholds (fun _ _ h hflush => h.flush hflush) security r

/-- A transaction of such an endpoint. -/
theorem getDb_stays {m : Endpoint α} (h : Stays tenantId base m) {c : Center}
    (hpending : c.session.pending = []) (hc : Confined tenantId base c.session) :
    (getDb m c).2.session.pending = [] ∧ Confined tenantId base (getDb m c).2.session :=
  getDb_upholds (fun _ _ h hflush => h.flush hflush) h hpending hc

end

/-! ### Runs -/

section

variable {tokens : Tokens} {security : Security} {rt : Runtime} {catalogue : Catalogue}
  {p : Platform} {tenantId : String} {t : Table}

theorem Platform.Lawful.confined (h : p.Lawful) (tenantId : String) :
    Confined tenantId p.center.session.stored p.center.session := by
  refine ⟨fun _ => rfl, ?_, h.keyed, h.selfNamed⟩
  rw [h.pending]
  intro e he
  cases he

/-- A transaction within a tenant leaves a lawful database, with the others' rows as they were. -/
theorem getDb_lawful (h : p.Lawful) {α : Type} {m : Endpoint α}
    (hm : Stays tenantId p.center.session.stored m) :
    Platform.Lawful { p with center := (getDb m p.center).2 } ∧ ∀ other t, other ≠ tenantId →
      Platform.rows { p with center := (getDb m p.center).2 } other t = p.rows other t := by
  obtain ⟨hpending, hconfined⟩ := getDb_stays hm h.pending (h.confined tenantId)
  refine ⟨⟨hpending, hconfined.keyed, hconfined.selfNamed⟩, fun other t hne => ?_⟩
  unfold Platform.rows
  rw [Database.own_of_others hne, Database.own_of_others hne, hconfined.others t]

theorem step_lawful (h : p.Lawful) (step : Step) :
    (p.step tokens security rt catalogue step).Lawful := by
  cases step with
  | request headers requestId route =>
      unfold Platform.step
      dsimp only
      split
      · exact h
      · exact (getDb_lawful h (body_stays route)).1
  | login r =>
      have hstays : Stays "" p.center.session.stored (login security rt r) := login_stays security r
      exact (getDb_lawful h hstays).1
  | administer users memberships apiKeys => exact ⟨h.pending, h.keyed, h.selfNamed⟩

/-- A step that changes the rows of a tenant is the request of someone entitled to it there. -/
theorem step_entitled (h : p.Lawful) {step : Step}
    (hchange : p.Changes tokens security rt catalogue step tenantId t) :
    ∃ headers requestId route, step = .request headers requestId route ∧
      Entitled tokens rt p.accounts headers route.permission tenantId := by
  cases step with
  | request headers requestId route =>
      refine ⟨headers, requestId, route, rfl, ?_⟩
      unfold Platform.Changes Platform.step at hchange
      dsimp only at hchange
      split at hchange
      · exact absurd rfl hchange
      · rename_i actor hpermit
        by_cases hown : tenantId = actor.tenantId
        · rw [hown]
          exact entitled_of_permit hpermit
        · exact absurd ((getDb_lawful h (body_stays route)).2 tenantId t hown) hchange
  | login r =>
      -- it stays within another tenant, whichever that is
      have hother : tenantId ≠ tenantId ++ "_" := by
        intro hsame
        simpa using congrArg String.length hsame
      exact absurd ((getDb_lawful h (login_stays security r)).2 tenantId t hother) hchange
  | administer users memberships apiKeys => exact absurd rfl hchange

end

/-- Whatever is asked of the platform and however its accounts change: where the rows of a tenant
differ afterwards, they were changed by a request of someone who was then entitled, in that
tenant, to what the request's endpoint asks for. -/
theorem changed_by_entitled (tokens : Tokens) (security : Security) (rt : Runtime)
    (catalogue : Catalogue) (start : Platform) (history : List Step) (tenantId : String)
    (t : Table) (h : start.Lawful)
    (hchange : (start.run tokens security rt catalogue history).rows tenantId t ≠
      start.rows tenantId t) :
    ∃ before headers requestId route after,
      history = before ++ .request headers requestId route :: after ∧
        (start.run tokens security rt catalogue before).Changes tokens security rt catalogue
          (.request headers requestId route) tenantId t ∧
        Entitled tokens rt (start.run tokens security rt catalogue before).accounts headers
          route.permission tenantId := by
  obtain ⟨before, step, after, rfl, hlawful, hstep⟩ :=
    Machine.exists_change Platform.Lawful (fun _ step hp => step_lawful hp step)
      (fun p => p.rows tenantId t) h hchange
  obtain ⟨headers, requestId, route, rfl, hentitled⟩ := step_entitled hlawful hstep
  exact ⟨before, headers, requestId, route, after, rfl, hstep, hentitled⟩

/-! ### Samples -/

/-- A platform with an engineer and no rows. -/
def samplePlatform : Platform where
  center :=
    { vacant with
      users := sampleAccounts.users
      memberships := sampleAccounts.memberships }

/-- The engineer silences a rule. -/
def silencingStep : Step :=
  .request sampleHeaders "req_1" (.change silencing.change)

theorem changed_by_entitled_silencing :
    ∃ before headers requestId route after,
      [silencingStep] = before ++ .request headers requestId route :: after ∧
        (samplePlatform.run sampleTokens plainSecurity sampleRuntime defaultCatalogue before).Changes
          sampleTokens plainSecurity sampleRuntime defaultCatalogue
          (.request headers requestId route) "ten_a" .suppressions ∧
        Entitled sampleTokens sampleRuntime (samplePlatform.run sampleTokens plainSecurity
          sampleRuntime defaultCatalogue before).accounts headers route.permission "ten_a" := by
  refine changed_by_entitled sampleTokens plainSecurity sampleRuntime defaultCatalogue
    samplePlatform [silencingStep] "ten_a" .suppressions ⟨rfl, ?_, ?_⟩ ?_
  · intro t
    exact List.Pairwise.nil
  · intro r hr
    cases hr
  · intro h
    cases h

end BlueTeam.Access
