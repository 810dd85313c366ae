/- GID: BlueTeam/Api/Tenants
   generality: I
   source: services/api/app/api/playbooks.py, improve.py, ai_analyst.py
   digest: When the stores of the process keep the tenants apart. -/

import BlueTeam.Api.Routes
import BlueTeam.Lib.Exec
import BlueTeam.Lib.Unwinding
import BlueTeam.Playbook.Tenants

set_option autoImplicit false
set_option relaxedAutoImplicit false

namespace BlueTeam.Api

open BlueTeam.Python BlueTeam.Schema BlueTeam.Playbook BlueTeam.Improve BlueTeam.Gateway
open BlueTeam.Lib BlueTeam.Lib.Trace BlueTeam.Lib.Unwinding

/-- The process after a history of requests. -/
def Process.after (host : Host) (history : List Request) : Process :=
  Unwinding.after (handle host) {} history

/-- The requests of a tenant with the responses to them. -/
def responsesTo (host : Host) (a : String) (history : List Request) :
    List (Request × Except RouteError Body) :=
  (answers (handle host) {} history).filter fun answered => answered.1.tenantId = a

/-- The request has the executor called, and is answered with a run of the tenant. -/
def RunsStepUnder (host : Host) (p : Process) (r : Request) (tenantId : String) : Prop :=
  (∃ body, (handle host p r).1 = .ok (.fields body) ∧
    body.lookup "tenant_id" = some (.str tenantId)) ∧
  ∃ stepId request answer, .call stepId request answer ∈
    (handle host p r).2.engine.trace.drop p.engine.trace.length

def Route.Creates : Route → Prop
  | .createCandidate _ => True
  | _ => False

/-- What a request of the tenant finds in the shared stores is the tenant's: the run that its key
leads to or that it names, all candidates that have been created before it lists them, and all
calls in the ledger that it is shown. -/
def FindsOwn (a : String) (before : List Request) (p : Process) : Route → Prop
  | .runPlaybook body => ∀ playbook, getPlaybook body.playbookId = .ok playbook →
      ∀ run, p.engine.cached (idempotencyKeyOf playbook a body.idempotencyKey) = some run →
        run.tenantId = a
  | .getRun runId => ∀ run, p.engine.get runId = some run → run.tenantId = a
  | .approveRun runId body => ∀ prior, p.engine.get runId = some prior → prior.tenantId = a ∧
      ∀ run, p.engine.cached (approvalKey prior.idempotencyKey (body.orWaiting prior)) = some run →
        run.tenantId = a
  | .createCandidate _ => True
  | .listCandidates => ∀ r ∈ before, r.route.Creates → r.tenantId = a
  | .aiAnalyst body evidence => missingEvidence a evidence body = [] →
      ∀ entry ∈ p.gateway.ledger.audit, entry.tenantId = a

/-- A request of another tenant approves no run of the tenant, and releases no key of one. -/
def Spares (a : String) (p : Process) : Route → Prop
  | .approveRun runId _ => ∀ prior, p.engine.get runId = some prior → prior.tenantId ≠ a ∧
      ∀ run, p.engine.cached prior.idempotencyKey = some run → run.tenantId ≠ a
  | _ => True

def KeptApart (host : Host) (a : String) (before : List Request) (r : Request) : Prop :=
  (r.tenantId = a → FindsOwn a before (Process.after host before) r.route) ∧
    (r.tenantId ≠ a → Spares a (Process.after host before) r.route)

/-! ### One request and the playbook engine -/

section

variable {e e' : PlaybookEngine} {a : String} {d : Draws}

theorem sameDraws_env (e e' : PlaybookEngine) (d : Draws) :
    SameDraws (d.env e) (d.env e') e e' := by
  refine ⟨rfl, defaultExecutor_forgetful, rfl, ?_, ?_⟩
  · simp [Draws.env]
  · simp [Draws.env]

theorem AnsweredAlike.served {result result' : Playbook.Result}
    (h : AnsweredAlike a result result') : AnsweredAlike a (served result) (served result') := by
  refine ⟨?_, h.part, ?_⟩
  · show result.1.mapError _ = result'.1.mapError _
    rw [h.answer]
  · intro run hrun
    exact h.owner run (served_ok hrun)

theorem runPlaybook_alike (h : PartOf a e e') (fresh : "pbr_" ++ d.uuid ∉ e.runs) (body : RunBody)
    (own : ∀ playbook, getPlaybook body.playbookId = .ok playbook →
      ∀ run, e.cached (idempotencyKeyOf playbook a body.idempotencyKey) = some run →
        run.tenantId = a) :
    AnsweredAlike a (runPlaybook d e a body) (runPlaybook d e' a body) := by
  unfold runPlaybook
  cases hplaybook : getPlaybook body.playbookId with
  | error error => exact .refused h error
  | ok playbook =>
      apply AnsweredAlike.served
      exact h.run (sameDraws_env e e' d) fresh playbook body.dryRun body.idempotencyKey []
        (own playbook hplaybook)

theorem PartOf.get (h : PartOf a e e') {runId : String}
    (own : ∀ run, e.get runId = some run → run.tenantId = a) : e'.get runId = e.get runId := by
  have hpart : e'.get runId = (e.get runId).filter fun run => run.tenantId = a := h.runs runId
  rw [hpart]
  cases hrun : e.get runId with
  | none => rfl
  | some run => exact Option.filter_some_pos (by simpa using own run hrun)

theorem getRun_alike (h : PartOf a e e') {runId : String}
    (own : ∀ run, e.get runId = some run → run.tenantId = a) :
    AnsweredAlike a (getRun e runId, e) (getRun e' runId, e') := by
  unfold getRun
  rw [PartOf.get h own]
  cases hrun : e.get runId with
  | none => exact .refused h _
  | some run =>
      refine ⟨rfl, h, ?_⟩
      intro other hother
      obtain rfl := Except.ok.inj hother
      exact own run hrun

theorem approveRun_alike (h : PartOf a e e') (fresh : "pbr_" ++ d.uuid ∉ e.runs) {runId : String}
    {body : ApproveBody}
    (own : ∀ prior, e.get runId = some prior → prior.tenantId = a ∧
      ∀ run, e.cached (approvalKey prior.idempotencyKey (body.orWaiting prior)) = some run →
        run.tenantId = a) :
    AnsweredAlike a (approveRun d e runId body) (approveRun d e' runId body) := by
  have hget : e'.get runId = e.get runId := PartOf.get h fun prior hprior => (own prior hprior).1
  unfold approveRun
  rw [hget]
  cases hprior : e.get runId with
  | none => exact .refused h _
  | some prior =>
      obtain ⟨rfl, hkey⟩ := own prior hprior
      dsimp only
      cases getPlaybook prior.playbookId with
      | error error => exact .refused h error
      | ok playbook =>
          apply AnsweredAlike.served
          rw [approve_eq hprior, approve_eq (hget.trans hprior)]
          have same := (sameDraws_env e e' d).erase prior.idempotencyKey
          apply (h.erase prior.idempotencyKey).run same fresh
          intro run hrun
          rw [idempotencyKeyOf_approvalKey] at hrun
          exact hkey run (cached_of_erase hrun)

theorem runPlaybook_left (h : PartOf a e e') (fresh : "pbr_" ++ d.uuid ∉ e.runs) {tenantId : String}
    (hidden : tenantId ≠ a) (body : RunBody) : PartOf a (runPlaybook d e tenantId body).2 e' := by
  unfold runPlaybook
  cases getPlaybook body.playbookId with
  | error error => exact h
  | ok playbook =>
      exact h.run_left defaultExecutor_forgetful fresh playbook hidden body.dryRun
        body.idempotencyKey []

theorem approveRun_left (h : PartOf a e e') (fresh : "pbr_" ++ d.uuid ∉ e.runs) {runId : String}
    (spared : ∀ prior, e.get runId = some prior → prior.tenantId ≠ a ∧
      ∀ run, e.cached prior.idempotencyKey = some run → run.tenantId ≠ a) (body : ApproveBody) :
    PartOf a (approveRun d e runId body).2 e' := by
  unfold approveRun
  cases hprior : e.get runId with
  | none => exact h
  | some prior =>
      obtain ⟨hidden, hkey⟩ := spared prior hprior
      dsimp only
      cases getPlaybook prior.playbookId with
      | error error => exact h
      | ok playbook =>
          show PartOf a (e.approve (d.env e) runId (body.orWaiting prior) playbook).2 e'
          rw [approve_eq hprior]
          exact (h.erase_left hkey).run_left defaultExecutor_forgetful fresh playbook hidden _ _ _

/-! ### The ids of the runs -/

theorem mem_runs_runPlaybook (linked : e.Linked) {tenantId id : String} {body : RunBody}
    (h : id ∈ (runPlaybook d e tenantId body).2.runs) : id ∈ e.runs ∨ id = "pbr_" ++ d.uuid := by
  unfold runPlaybook at h
  cases hplaybook : getPlaybook body.playbookId with
  | error error =>
      rw [hplaybook] at h
      exact .inl h
  | ok playbook =>
      rw [hplaybook] at h
      exact mem_runs_run linked (d.env e) defaultExecutor_forgetful playbook tenantId body.dryRun
        body.idempotencyKey [] h

theorem mem_runs_approveRun (linked : e.Linked) {runId id : String} {body : ApproveBody}
    (h : id ∈ (approveRun d e runId body).2.runs) : id ∈ e.runs ∨ id = "pbr_" ++ d.uuid := by
  unfold approveRun at h
  cases hprior : e.get runId with
  | none =>
      rw [hprior] at h
      exact .inl h
  | some prior =>
      rw [hprior] at h
      dsimp only at h
      cases hplaybook : getPlaybook prior.playbookId with
      | error error =>
          rw [hplaybook] at h
          exact .inl h
      | ok playbook =>
          rw [hplaybook] at h
          have happrove : id ∈ (e.approve (d.env e) runId (body.orWaiting prior) playbook).2.runs :=
            h
          rw [approve_eq hprior] at happrove
          exact mem_runs_run (linked.erase prior.idempotencyKey) (d.env e)
            defaultExecutor_forgetful playbook prior.tenantId prior.dryRun _ _ happrove

end

/-! ### One request and the gateway -/

theorem aiAnalyst_refused (host : Host) (g : GatewayState) {tenantId : String} {body : AnalystBody}
    {evidence : List Evidence} (h : missingEvidence tenantId evidence body ≠ []) :
    aiAnalyst host g tenantId body evidence =
      (.error (.blueTeamError "INVALID_EVIDENCE_REF" ("unsupported evidence references: " ++
        host.repr (.arr ((missingEvidence tenantId evidence body).map Json.str))) 422), g) :=
  if_pos h

/-- A question that is not refused leaves an audit entry of its tenant. -/
theorem aiAnalyst_audit (host : Host) (g : GatewayState) {tenantId : String} {body : AnalystBody}
    {evidence : List Evidence} (h : missingEvidence tenantId evidence body = []) :
    ∃ entry : AuditEntry, entry.tenantId = tenantId ∧
      (aiAnalyst host g tenantId body evidence).2.ledger.audit = g.ledger.audit ++ [entry] := by
  have hrouted : (aiAnalyst host g tenantId body evidence).2 =
      (route host.redact g (analystRequest tenantId body) host.aiEnabled none).2 := by
    unfold aiAnalyst
    dsimp only
    rw [if_neg (by simp [h])]
  rw [hrouted]
  exact route_audit host.redact g (analystRequest tenantId body) host.aiEnabled none

/-! ### Two processes -/

/-- The process of a history, and the process of the tenant's requests alone: the second has the
tenant's part of the engine, and the other stores are the same for as long as no other tenant has
written to them. -/
structure Alike (host : Host) (a : String) (before : List Request) (p p' : Process) : Prop where
  reached : p = Process.after host before
  named : ∀ id ∈ p.engine.runs, ∃ r ∈ before, id = "pbr_" ++ r.draws.uuid
  engine : PartOf a p.engine p'.engine
  improvement : (∀ r ∈ before, r.route.Creates → r.tenantId = a) →
    p.improvement = p'.improvement
  gateway : (∀ entry ∈ p.gateway.ledger.audit, entry.tenantId = a) → p.gateway = p'.gateway

/-- The request draws an id that none before it has drawn. -/
def DrawsFresh (before : List Request) (r : Request) : Prop :=
  ∀ other ∈ before, other.draws.uuid ≠ r.draws.uuid

section

variable {host : Host} {a : String} {before : List Request} {p p' : Process} {r : Request}

theorem mem_runs_handle (linked : p.engine.Linked) {id : String}
    (h : id ∈ (handle host p r).2.engine.runs) :
    id ∈ p.engine.runs ∨ id = "pbr_" ++ r.draws.uuid := by
  obtain ⟨tenantId, route, draws⟩ := r
  cases route with
  | runPlaybook body => exact mem_runs_runPlaybook linked h
  | getRun runId => exact .inl h
  | approveRun runId body => exact mem_runs_approveRun linked h
  | createCandidate body => exact .inl h
  | listCandidates => exact .inl h
  | aiAnalyst body evidence => exact .inl h

theorem Alike.fresh (h : Alike host a before p p') (hfresh : DrawsFresh before r) :
    "pbr_" ++ r.draws.uuid ∉ p.engine.runs := by
  intro hmem
  obtain ⟨other, hother, hname⟩ := h.named _ hmem
  apply hfresh other hother
  have hchars := congrArg String.toList hname
  rw [String.toList_append, String.toList_append] at hchars
  exact (String.toList_inj.mp (List.append_cancel_left hchars)).symm

theorem Alike.reached_next (h : Alike host a before p p') (r : Request) :
    (handle host p r).2 = Process.after host (before ++ [r]) := by
  rw [Process.after, Unwinding.after_concat, h.reached]
  rfl

theorem Alike.named_next (h : Alike host a before p p') (r : Request) :
    ∀ id ∈ (handle host p r).2.engine.runs, ∃ other ∈ before ++ [r],
      id = "pbr_" ++ other.draws.uuid := by
  intro id hid
  rcases mem_runs_handle h.engine.linked hid with hid | hid
  · obtain ⟨other, hother, hname⟩ := h.named id hid
    exact ⟨other, List.mem_append_left _ hother, hname⟩
  · exact ⟨r, by simp, hid⟩

theorem Alike.improvement_next (h : Alike host a before p p')
    (hown : ∀ other ∈ before ++ [r], other.route.Creates → other.tenantId = a) :
    p.improvement = p'.improvement :=
  h.improvement fun other hother => hown other (List.mem_append_left _ hother)

/-- A request that only the engine serves, alike in both processes. -/
theorem Alike.served (h : Alike host a before p p')
    {result result' : Except RouteError PlaybookRun × PlaybookEngine}
    (hp : handle host p r = p.withEngine result) (hp' : handle host p' r = p'.withEngine result')
    (hresult : AnsweredAlike a result result') :
    (handle host p r).1 = (handle host p' r).1 ∧
      Alike host a (before ++ [r]) (handle host p r).2 (handle host p' r).2 := by
  have hreached := h.reached_next r
  have hnamed := h.named_next r
  rw [hp] at hreached hnamed ⊢
  rw [hp']
  refine ⟨?_, hreached, hnamed, hresult.part, h.improvement_next, h.gateway⟩
  show result.1.map _ = result'.1.map _
  rw [hresult.answer]

/-- A request that changes the engine of the first process only. -/
theorem Alike.served_left (h : Alike host a before p p')
    {result : Except RouteError PlaybookRun × PlaybookEngine}
    (hp : handle host p r = p.withEngine result) (hresult : PartOf a result.2 p'.engine) :
    Alike host a (before ++ [r]) (handle host p r).2 p' := by
  have hreached := h.reached_next r
  have hnamed := h.named_next r
  rw [hp] at hreached hnamed ⊢
  exact ⟨hreached, hnamed, hresult, h.improvement_next, h.gateway⟩

/-- A request of the tenant that finds what is its own. -/
theorem Alike.own_step (h : Alike host a before p p') (hfresh : DrawsFresh before r)
    (howner : r.tenantId = a) (hown : FindsOwn a before p r.route) :
    (handle host p r).1 = (handle host p' r).1 ∧
      Alike host a (before ++ [r]) (handle host p r).2 (handle host p' r).2 := by
  have hnew := h.fresh hfresh
  have hreached := h.reached_next r
  have hnamed := h.named_next r
  obtain ⟨tenantId, route, draws⟩ := r
  obtain rfl : tenantId = a := howner
  cases route with
  | runPlaybook body => exact h.served rfl rfl (runPlaybook_alike h.engine hnew body hown)
  | getRun runId => exact h.served rfl rfl (getRun_alike h.engine hown)
  | approveRun runId body => exact h.served rfl rfl (approveRun_alike h.engine hnew hown)
  | createCandidate body =>
      refine ⟨rfl, hreached, hnamed, h.engine, ?_, h.gateway⟩
      intro hall
      show (createCandidate draws p.improvement body).2 =
        (createCandidate draws p'.improvement body).2
      rw [h.improvement_next hall]
  | listCandidates =>
      have hsame := h.improvement hown
      refine ⟨?_, hreached, hnamed, h.engine, h.improvement_next, h.gateway⟩
      show (Except.ok (Body.listing (listCandidates p.improvement) _) :
        Except RouteError Body) = _
      rw [hsame]
      rfl
  | aiAnalyst body evidence =>
      by_cases hmissing : missingEvidence tenantId evidence body = []
      · have hsame := h.gateway (hown hmissing)
        refine ⟨?_, hreached, hnamed, h.engine, h.improvement_next, ?_⟩
        · show (aiAnalyst host p.gateway tenantId body evidence).1.map Body.analyst = _
          rw [hsame]
          rfl
        · intro _
          show (aiAnalyst host p.gateway tenantId body evidence).2 = _
          rw [hsame]
          rfl
      · have hrefused := aiAnalyst_refused host p.gateway hmissing
        have hrefused' := aiAnalyst_refused host p'.gateway hmissing
        refine ⟨?_, hreached, hnamed, h.engine, h.improvement_next, ?_⟩
        · show (aiAnalyst host p.gateway tenantId body evidence).1.map Body.analyst =
            (aiAnalyst host p'.gateway tenantId body evidence).1.map Body.analyst
          rw [hrefused, hrefused']
        · show (∀ entry ∈ (aiAnalyst host p.gateway tenantId body evidence).2.ledger.audit, _) →
            (aiAnalyst host p.gateway tenantId body evidence).2 =
              (aiAnalyst host p'.gateway tenantId body evidence).2
          rw [hrefused, hrefused']
          exact h.gateway

/-- A request of another tenant that spares the runs of the tenant. -/
theorem Alike.other_step (h : Alike host a before p p') (hfresh : DrawsFresh before r)
    (hother : r.tenantId ≠ a) (hspares : Spares a p r.route) :
    Alike host a (before ++ [r]) (handle host p r).2 p' := by
  have hnew := h.fresh hfresh
  have hreached := h.reached_next r
  have hnamed := h.named_next r
  obtain ⟨tenantId, route, draws⟩ := r
  cases route with
  | runPlaybook body => exact h.served_left rfl (runPlaybook_left h.engine hnew hother body)
  | getRun runId => exact h.served_left rfl h.engine
  | approveRun runId body => exact h.served_left rfl (approveRun_left h.engine hnew hspares body)
  | createCandidate body =>
      refine ⟨hreached, hnamed, h.engine, ?_, h.gateway⟩
      intro hall
      exact absurd (hall ⟨tenantId, .createCandidate body, draws⟩ (by simp) trivial) hother
  | listCandidates => exact ⟨hreached, hnamed, h.engine, h.improvement_next, h.gateway⟩
  | aiAnalyst body evidence =>
      refine ⟨hreached, hnamed, h.engine, h.improvement_next, ?_⟩
      show (∀ entry ∈ (aiAnalyst host p.gateway tenantId body evidence).2.ledger.audit, _) →
        (aiAnalyst host p.gateway tenantId body evidence).2 = p'.gateway
      by_cases hmissing : missingEvidence tenantId evidence body = []
      · obtain ⟨entry, hentry, haudit⟩ := aiAnalyst_audit host p.gateway hmissing
        intro hall
        rw [haudit] at hall
        have hmine := hall entry (by simp)
        exact absurd (hentry.symm.trans hmine) hother
      · rw [aiAnalyst_refused host p.gateway hmissing]
        exact h.gateway

theorem tenant_of_served {result : Except RouteError PlaybookRun × PlaybookEngine}
    (howner : ∀ run, result.1 = .ok run → run.tenantId = a) {body : JsonObject} {b : String}
    (hbody : (p.withEngine result).1 = .ok (.fields body))
    (hb : body.lookup "tenant_id" = some (.str b)) : b = a := by
  obtain ⟨run, hrun, hfields⟩ := except_of_map hbody
  obtain rfl : run.asDict = body := by simpa using hfields
  have htenant : run.asDict.lookup "tenant_id" = some (.str run.tenantId) := rfl
  rw [htenant] at hb
  have hsame : run.tenantId = b := by simpa using hb
  exact hsame.symm.trans (howner run hrun)

/-- A run that the tenant is shown is the tenant's. -/
theorem Alike.own_tenant (h : Alike host a before p p') (hfresh : DrawsFresh before r)
    (howner : r.tenantId = a) (hown : FindsOwn a before p r.route) {body : JsonObject} {b : String}
    (hbody : (handle host p r).1 = .ok (.fields body))
    (hb : body.lookup "tenant_id" = some (.str b)) : b = a := by
  have hnew := h.fresh hfresh
  obtain ⟨tenantId, route, draws⟩ := r
  obtain rfl : tenantId = a := howner
  cases route with
  | runPlaybook body =>
      exact tenant_of_served (runPlaybook_alike h.engine hnew body hown).owner hbody hb
  | getRun runId => exact tenant_of_served (getRun_alike h.engine hown).owner hbody hb
  | approveRun runId body =>
      exact tenant_of_served (approveRun_alike h.engine hnew hown).owner hbody hb
  | createCandidate body =>
      have hfields := Except.ok.inj hbody
      obtain rfl := Body.fields.inj hfields
      cases hb
  | listCandidates => cases Except.ok.inj hbody
  | aiAnalyst body evidence =>
      obtain ⟨response, -, hfields⟩ := except_of_map hbody
      cases hfields

end

/-! ### Histories -/

theorem alike_empty (host : Host) (a : String) : Alike host a [] {} {} := by
  refine ⟨rfl, ?_, partOf_empty a, fun _ => rfl, fun _ => rfl⟩
  intro id hid
  exact absurd hid (AList.notMem_empty id)

/-- The requests of the other tenants can be taken out. -/
theorem unwinds (host : Host) (a : String) :
    Unwinds (handle host) (fun r => decide (r.tenantId = a))
      (fun before r => KeptApart host a before r ∧ DrawsFresh before r) (Alike host a) := by
  refine ⟨?_, ?_, ?_⟩
  · intro before p p' r h hgood hshown
    have howner : r.tenantId = a := of_decide_eq_true hshown
    have hown := hgood.1.1 howner
    rw [← h.reached] at hown
    exact (h.own_step hgood.2 howner hown).1
  · intro before p p' r h hgood hshown
    have howner : r.tenantId = a := of_decide_eq_true hshown
    have hown := hgood.1.1 howner
    rw [← h.reached] at hown
    exact (h.own_step hgood.2 howner hown).2
  · intro before p p' r h hgood hhidden
    have hother : r.tenantId ≠ a := of_decide_eq_false hhidden
    have hspares := hgood.1.2 hother
    rw [← h.reached] at hspares
    exact h.other_step hgood.2 hother hspares

theorem always_drawsFresh {history : List Request}
    (fresh : (history.map fun r => r.draws.uuid).Nodup) : Always DrawsFresh history := by
  rintro before r rest rfl other hother
  rw [List.map_append, List.nodup_append] at fresh
  exact fresh.2.2 _ (List.mem_map_of_mem hother) _ (by simp)

theorem responsesTo_own (host : Host) (a : String) (history : List Request) :
    responsesTo host a (history.filter fun r => r.tenantId = a) =
      answers (handle host) {} (history.filter fun r => r.tenantId = a) := by
  apply List.filter_eq_self.mpr
  intro answered hanswered
  exact (List.mem_filter.mp (mem_calls_of_mem_answers _ hanswered)).2

/-- Where every request of the tenant finds only what is its own, and the others spare its runs,
the tenant is answered as if it were alone, and no request of it runs a step for another tenant. -/
theorem tenants_isolated (host : Host) (a : String) (history : List Request)
    (fresh : (history.map fun r => r.draws.uuid).Nodup)
    (apart : Always (KeptApart host a) history) :
    responsesTo host a history = responsesTo host a (history.filter fun r => r.tenantId = a) ∧
      Always (fun before r => r.tenantId = a → ∀ b, b ≠ a →
        ¬ RunsStepUnder host (Process.after host before) r b) history := by
  have good : Always (fun before r => KeptApart host a before r ∧ DrawsFresh before r) history :=
    fun before r rest hsplit =>
      ⟨apart before r rest hsplit, always_drawsFresh fresh before r rest hsplit⟩
  refine ⟨?_, ?_⟩
  · rw [responsesTo_own]
    exact (unwinds host a).answers_eq (alike_empty host a) good
  · rintro before r rest rfl howner b hb ⟨⟨body, hbody, htenant⟩, -⟩
    obtain ⟨hbefore, -⟩ := (always_append before (r :: rest)).mp good
    have hr := good before r rest rfl
    have halike := (unwinds host a).alike_after (alike_empty host a) hbefore
    exact hb (Alike.own_tenant halike hr.2 howner (hr.1.1 howner) hbody htenant)

/-- A host to evaluate histories with: no text is redacted, and no model is called. -/
def sampleHost : Host where
  repr _ := ""
  redact text := text
  aiEnabled := false

def sampleDraws (n : Nat) : Draws where
  uuid := toString n
  startedAt := ""
  finishedAt := ""

def enrichFor (tenantId : String) (n : Nat) : Request :=
  ⟨tenantId, .runPlaybook { playbookId := "pb.enrich_only" }, sampleDraws n⟩

def listFor (tenantId : String) (n : Nat) : Request :=
  ⟨tenantId, .listCandidates, sampleDraws n⟩

/-- Two tenants run the same playbook under the default key, and one of them lists candidates. -/
theorem tenants_isolated_enriching :
    responsesTo sampleHost "ten_a" [enrichFor "ten_b" 0, enrichFor "ten_a" 1, listFor "ten_a" 2] =
        responsesTo sampleHost "ten_a" ([enrichFor "ten_b" 0, enrichFor "ten_a" 1,
          listFor "ten_a" 2].filter fun r => r.tenantId = "ten_a") ∧
      Always (fun before r => r.tenantId = "ten_a" → ∀ b, b ≠ "ten_a" →
        ¬ RunsStepUnder sampleHost (Process.after sampleHost before) r b)
        [enrichFor "ten_b" 0, enrichFor "ten_a" 1, listFor "ten_a" 2] := by
  apply tenants_isolated sampleHost "ten_a" _ (by decide)
  show Always _ ([enrichFor "ten_b" 0] ++ [enrichFor "ten_a" 1] ++ [listFor "ten_a" 2])
  rw [always_concat, always_concat, always_singleton]
  refine ⟨⟨⟨?_, fun _ => trivial⟩, ?_, fun hother => absurd rfl hother⟩, ?_,
    fun hother => absurd rfl hother⟩
  · intro howner
    exact absurd howner (by decide)
  · intro _ playbook hplaybook run hrun
    obtain rfl : enrichOnly = playbook := Except.ok.inj hplaybook
    have hnone : ((Process.after sampleHost [enrichFor "ten_b" 0]).engine.cached
        (idempotencyKeyOf enrichOnly "ten_a" none)).isNone = true := by decide
    rw [hrun] at hnone
    cases hnone
  · intro _ r hr hcreates
    rcases List.mem_append.mp hr with hr | hr
    · obtain rfl := List.mem_singleton.mp hr
      cases hcreates
    · obtain rfl := List.mem_singleton.mp hr
      cases hcreates

/-- A live run that waits for the approval of its second step. -/
def waitingRun : Request :=
  ⟨"ten_b", .runPlaybook { playbookId := "pb.contain_host_t0", dryRun := false }, sampleDraws 0⟩

def approvalByOther : Request :=
  ⟨"ten_a", .approveRun "pbr_0" {}, sampleDraws 1⟩

/-- Whoever knows the id of another tenant's waiting run can have its host isolated. -/
theorem approval_crosses_tenants :
    ¬ ∀ (host : Host) (a b : String) (history : List Request),
      (∀ r ∈ history, r.tenantId = a ∨ r.tenantId = b) →
      (history.map fun r => r.draws.uuid).Nodup →
      responsesTo host a history = responsesTo host a (history.filter fun r => r.tenantId = a) ∧
        Always (fun before r => r.tenantId = a → ∀ b, b ≠ a →
          ¬ RunsStepUnder host (Process.after host before) r b) history := by
  intro h
  obtain ⟨-, hsteps⟩ := h sampleHost "ten_a" "ten_b" [waitingRun, approvalByOther] (by decide)
    (by decide)
  have hnone := hsteps [waitingRun] approvalByOther [] rfl rfl "ten_b" (by decide)
  apply hnone
  have hisolated : ((handle sampleHost (Process.after sampleHost [waitingRun])
      approvalByOther).2.engine.trace.drop
        (Process.after sampleHost [waitingRun]).engine.trace.length).any (fun event =>
          event.request?.isSome) = true := by decide
  obtain ⟨event, hevent, hcall⟩ := List.any_eq_true.mp hisolated
  refine ⟨⟨_, rfl, rfl⟩, ?_⟩
  cases event with
  | call stepId request answer => exact ⟨stepId, request, answer, hevent⟩
  | record stepRun => cases hcall

end BlueTeam.Api
