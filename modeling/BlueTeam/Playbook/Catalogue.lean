/- GID: BlueTeam/Playbook/Catalogue
   generality: I
   source: packages/playbook-sdk/blueteam_playbook/engine.py
   digest: The playbooks that the service offers, and how a run is shown. -/

import BlueTeam.Playbook.Run

set_option autoImplicit false
set_option relaxedAutoImplicit false

namespace BlueTeam.Playbook

def StepStatus.text : StepStatus → String
  | .success => "success"
  | .skipped => "skipped"
  | .failed => "failed"
  | .awaitingApproval => "awaiting_approval"
  | .denied => "denied"

def RunStatus.text : RunStatus → String
  | .running => "running"
  | .failed => "failed"
  | .awaitingApproval => "awaiting_approval"
  | .completed => "completed"

def textOrNone (text : Option String) : Json :=
  (text.map Json.str).getD .null

def StepRun.asDict (step : StepRun) : JsonObject :=
  [("step_id", .str step.stepId),
    ("action_type", .str step.actionType),
    ("status", .str step.status.text),
    ("attempts", .int step.attempts),
    ("outputs", .obj step.outputs),
    ("error", textOrNone step.error),
    ("rollback_hook", textOrNone step.rollbackHook)]

def PlaybookRun.asDict (run : PlaybookRun) : JsonObject :=
  [("run_id", .str run.runId),
    ("playbook_id", .str run.playbookId),
    ("tenant_id", .str run.tenantId),
    ("status", .str run.status.text),
    ("dry_run", .bool run.dryRun),
    ("idempotency_key", .str run.idempotencyKey),
    ("approval_required", .arr (run.approvalRequired.map Json.str)),
    ("started_at", .str run.startedAt),
    ("finished_at", textOrNone run.finishedAt),
    ("steps", .arr (run.steps.map fun step => .obj step.asDict))]

def enrichOnly : PlaybookDef where
  playbookId := "pb.enrich_only"
  name := "Read-only enrichment chain"
  description := "T0 DAG with two collect steps."
  steps :=
    [{ id := "a", actionType := "collect.windows.processes" },
      { id := "b", actionType := "collect.windows.events", dependsOn := ["a"] }]

def autopilotInvestigate : PlaybookDef where
  playbookId := "pb.autopilot_investigate"
  name := "Blue Autopilot investigate"
  description := "Automated investigation DAG: collect auth + processes, then policy-gated contain suggestion."
  steps :=
    [{ id := "collect_auth", actionType := "collect.windows.auth_events", retries := 1 },
      { id := "collect_procs", actionType := "collect.windows.processes",
        dependsOn := ["collect_auth"] },
      { id := "suggest_contain", actionType := "isolate.host", tier := 2,
        dependsOn := ["collect_procs"], rollbackAction := some "release.host" }]

/-- `CATALOGUE`, whose keys are the ids of its playbooks. -/
def catalogue : List PlaybookDef :=
  [{ containHostT0 with
      description := "T0 collect processes, then T2 isolate (approval required when not dry-run)." },
    enrichOnly, autopilotInvestigate]

/-- What a route raises: a `BlueTeamError`, or what the engine raises. -/
inductive RouteError
  | blueTeamError (code message : String) (status : Nat)
  | engine (error : EngineError)
  deriving DecidableEq, Repr

def getPlaybook (playbookId : String) : Except RouteError PlaybookDef :=
  match catalogue.find? (fun item => item.playbookId = playbookId) with
  | some playbook => .ok playbook
  | none => .error
      (.blueTeamError "UNKNOWN_PLAYBOOK" ("Playbook " ++ playbookId ++ " not found") 404)

end BlueTeam.Playbook
