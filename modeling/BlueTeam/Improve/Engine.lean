/- GID: BlueTeam/Improve/Engine
   generality: I
   source: packages/self-improvement/blueteam_improve/engine.py, metrics.py
   digest: The improvement candidates, which belong to no tenant. -/

import BlueTeam.Json
import BlueTeam.Python.Dict

set_option autoImplicit false
set_option relaxedAutoImplicit false

namespace BlueTeam.Improve

open BlueTeam.Python

inductive CandidateStatus
  | proposed | replayed | approved | rejected | promoted
  deriving DecidableEq, Repr

def CandidateStatus.text : CandidateStatus → String
  | .proposed => "proposed"
  | .replayed => "replayed"
  | .approved => "approved"
  | .rejected => "rejected"
  | .promoted => "promoted"

structure ImprovementCandidate where
  candidateId : String
  ruleId : String
  rationale : String
  status : CandidateStatus
  metrics : JsonObject := []
  createdAt : String := ""
  aiSuggested : Bool := false
  replayJobId : Option String := none
  deriving DecidableEq

def mayAutoPromote (policyAllows : Bool) : Bool := policyAllows

def ImprovementCandidate.asDict (row : ImprovementCandidate) : JsonObject :=
  [("candidate_id", .str row.candidateId),
    ("rule_id", .str row.ruleId),
    ("rationale", .str row.rationale),
    ("status", .str row.status.text),
    ("metrics", .obj row.metrics),
    ("created_at", .str row.createdAt),
    ("ai_suggested", .bool row.aiSuggested),
    ("replay_job_id", (row.replayJobId.map Json.str).getD .null),
    ("may_auto_promote", .bool (mayAutoPromote false))]

structure ImprovementEngine where
  candidates : Dict String ImprovementCandidate := []

/-- `create`, with the id and the clock reading that it draws. -/
def ImprovementEngine.create (e : ImprovementEngine) (candidateId createdAt ruleId rationale : String)
    (metrics : JsonObject) (aiSuggested : Bool) : ImprovementCandidate × ImprovementEngine :=
  let row : ImprovementCandidate :=
    { candidateId := candidateId, ruleId := ruleId, rationale := rationale, status := .proposed,
      metrics := metrics, createdAt := createdAt, aiSuggested := aiSuggested }
  (row, { e with candidates := e.candidates.set candidateId row })

end BlueTeam.Improve
