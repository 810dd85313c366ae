/- GID: BlueTeam/Correlation/Engine
   generality: I
   source: packages/correlation/blueteam_correlation/engine.py, rules.py
   digest: Cross-domain storylines from findings and events. -/

import BlueTeam.Schema.Records
import BlueTeam.Python.Dict

set_option autoImplicit false
set_option relaxedAutoImplicit false

namespace BlueTeam.Correlation

open BlueTeam.Python BlueTeam.Schema BlueTeam.Lib

def officeRules : List String :=
  ["sigma.office-spawns-powershell", "endpoint.office_spawns_shell", "endpoint.encoded_powershell"]

def beaconRules : List String := ["network.repetitive_beacon", "endpoint.process_network_chain"]

/-- `finding.attributes.get(name)` -/
def attributeOf (finding : Finding) (name : String) : Option String :=
  finding.attributes.lookup name

/-- `min(times)` and `max(times)` of a list that is not empty. -/
def earliest (d : DateTime) : List DateTime → Except Exn DateTime
  | [] => .ok d
  | t :: ts => do
      let less ← t.lt d
      earliest (if less then t else d) ts

def latest (d : DateTime) : List DateTime → Except Exn DateTime
  | [] => .ok d
  | t :: ts => do
      let more ← d.lt t
      latest (if more then t else d) ts

/-- `_story`; the stages are given with their first one, whose time stamp is set. -/
def story (rt : Runtime) (tenantId title : String) (first : DateTime)
    (stages : List StorylineStage) (techniques evidenceIds eventIds : List String)
    (entities : List (String × List String)) (confidence : Rat) : Draw Storyline := do
  let times := stages.filterMap (·.timestamp)
  let start ← Exec.lift (earliest first times)
  let finish ← Exec.lift (latest first times)
  let id ← newId rt "stl"
  pure
    { storylineId := id
      tenantId := tenantId
      title := title
      entities := entities.map fun f => (f.1, f.2.filter (· ≠ ""))
      stages := stages
      confidence := confidence
      evidenceIds := evidenceIds
      eventIds := eventIds
      mitreTechniques := techniques
      start := start
      finish := finish }

def evidenceIdsOf (finding : Finding) : List String :=
  finding.evidence.map (·.evidenceId)

/-- A stage that stands for a finding. -/
def stageOf (name : String) (finding : Finding) : StorylineStage :=
  { name := name, ruleIds := [finding.ruleId], eventIds := finding.eventIds
    timestamp := some finding.createdAt }

/-- `_overlap_user` -/
def overlapUser (left right : Finding) : Bool :=
  given (attributeOf left "user") ∧ attributeOf left "user" = attributeOf right "user"

/-- `_near` -/
def near (left right : Finding) : Except Exn Bool :=
  (left.createdAt.minus right.createdAt).map fun us =>
    decide ((us.natAbs : Int) ≤ 7200 * DateTime.second)

/-- The first grant that belongs to a spray. -/
def grantFor (spray : Finding) : List Finding → Except Exn (Option Finding)
  | [] => .ok none
  | item :: items =>
      if overlapUser spray item then .ok (some item)
      else do
        let close ← near spray item
        if close then pure (some item) else grantFor spray items

/-- The successful logins from the sprayed address, from two hours before the finding on. -/
def laterSuccess (spray : Finding) : List CanonicalEvent → Except Exn (List CanonicalEvent)
  | [] => .ok []
  | event :: events =>
      if event.category = "authentication" ∧ event.outcome = some .success ∧
          event.srcIp = attributeOf spray "src_ip" then do
        let since ← spray.createdAt.before 7200
        let early ← event.timestamp.lt since
        let rest ← laterSuccess spray events
        pure (if early then rest else event :: rest)
      else laterSuccess spray events

def sprayStory (rt : Runtime) (successes grants : List Finding) (events : List CanonicalEvent)
    (spray : Finding) : Draw (List Storyline) := do
  let grant ← Exec.lift (grantFor spray grants)
  let later ← Exec.lift (laterSuccess spray events)
  if grant.isNone ∧ later.isEmpty ∧ successes.isEmpty then pure []
  else do
    let stages := [stageOf "password_spray" spray] ++
      (later.head?.map fun event =>
        { name := "authentication_success", eventIds := later.map (·.id)
          timestamp := some event.timestamp : StorylineStage }).toList ++
      (grant.map (stageOf "privilege_grant")).toList
    let storyline ← story rt spray.tenantId "Password spray to privilege" spray.createdAt stages
      ["T1110.003", "T1098"]
      (evidenceIdsOf spray ++ (grant.map evidenceIdsOf).getD [])
      (spray.eventIds ++ (grant.map (·.eventIds)).getD [])
      [("user", [(attributeOf spray "user").getD ""]), ("ip", [(attributeOf spray "src_ip").getD ""])]
      80
    pure [storyline]

/-- A loop that collects what its body gives. -/
def collect {α β : Type} (f : α → Draw (List β)) (items : List α) : Draw (List β) :=
  Exec.loop (fun out item => do
    let more ← f item
    pure (out ++ more)) [] items

def identityChain (rt : Runtime) (findings : List Finding) (events : List CanonicalEvent) :
    Draw (List Storyline) :=
  let sprays := findings.filter fun item => item.ruleId = "identity.password_spray"
  let successes := findings.filter fun item => item.ruleId = "identity.brute_force"
  let grants := findings.filter fun item => item.ruleId = "identity.privilege_grant"
  collect (sprayStory rt successes grants events) sprays

def beaconsOf (findings : List Finding) : List Finding :=
  findings.filter fun item => item.ruleId ∈ beaconRules

/-- The first beacon that goes with an office finding. -/
def beaconFor (spawn : Finding) (beacons : List Finding) : Option Finding :=
  beacons.find? fun item =>
    !given (attributeOf spawn "host") || attributeOf item "host" = attributeOf spawn "host" ||
      given (attributeOf item "src_ip")

def officeStory (rt : Runtime) (beacons : List Finding) (spawn : Finding) :
    Draw (List Storyline) :=
  match beaconFor spawn beacons with
  | none => pure []
  | some beacon => do
      let storyline ← story rt spawn.tenantId "Office to PowerShell to beacon" spawn.createdAt
        [stageOf "office_process" spawn, stageOf "powershell" spawn,
          stageOf "external_beacon" beacon]
        ["T1059.001", "T1204.002", "T1071"]
        (evidenceIdsOf spawn ++ evidenceIdsOf beacon)
        (spawn.eventIds ++ beacon.eventIds)
        [("host", [(attributeOf spawn "host").getD ""]),
          ("ip", [(attributeOf beacon "dst_ip").getD ""]),
          ("process", [(attributeOf spawn "process").getD ""])]
        85
      pure [storyline]

def officeC2 (rt : Runtime) (findings : List Finding) : Draw (List Storyline) :=
  collect (officeStory rt (beaconsOf findings))
    (findings.filter fun item => item.ruleId ∈ officeRules)

def lateralC2 (rt : Runtime) (findings : List Finding) : Draw (List Storyline) :=
  match findings.find? fun item => item.ruleId = "network.unusual_east_west",
      (beaconsOf findings).head? with
  | some spawn, some beacon => do
      let storyline ← story rt spawn.tenantId "Endpoint to lateral movement to C2" spawn.createdAt
        [{ stageOf "compromised_endpoint" spawn with ruleIds := [] },
          stageOf "smb_rdp_movement" spawn,
          { stageOf "second_endpoint" spawn with ruleIds := [] }, stageOf "c2" beacon]
        ["T1021", "T1071"]
        (evidenceIdsOf spawn ++ evidenceIdsOf beacon)
        (spawn.eventIds ++ beacon.eventIds)
        [("ip", [(attributeOf spawn "src_ip").getD "", (attributeOf spawn "dst_ip").getD "",
            (attributeOf beacon "dst_ip").getD ""]),
          ("host", [(attributeOf spawn "host").getD ""])]
        78
      pure [storyline]
  | _, _ => pure []

structure CorrelationRule where
  ruleId : String
  title : String
  requiredRuleIds : List String
  entityKey : String
  windowSeconds : Int
  mitreTechniques : List String := []
  minFindings : Int := 2

def defaultCorrelationRules : List CorrelationRule :=
  [{ ruleId := "corr.identity.spray_then_grant"
     title := "Password spray correlated with privilege grant"
     requiredRuleIds := ["identity.password_spray", "identity.privilege_grant"]
     entityKey := "user"
     windowSeconds := 7200
     mitreTechniques := ["T1110.003", "T1098"] },
   { ruleId := "corr.endpoint.office_c2"
     title := "Office execution correlated with beacon"
     requiredRuleIds := ["endpoint.office_spawns_shell", "network.repetitive_beacon"]
     entityKey := "host"
     windowSeconds := 3600
     mitreTechniques := ["T1059.001", "T1071"] },
   { ruleId := "corr.network.lateral_c2"
     title := "East-west movement correlated with C2"
     requiredRuleIds := ["network.unusual_east_west", "network.repetitive_beacon"]
     entityKey := "ip"
     windowSeconds := 3600
     mitreTechniques := ["T1021", "T1071"] }]

/-- The entity a correlation rule groups a finding under. -/
def groupKey (rule : CorrelationRule) (item : Finding) : String :=
  orText (attributeOf item rule.entityKey) ((attributeOf item "src_ip").getD "")

/-- Whether every required rule is among those of the findings. -/
def covers (rule : CorrelationRule) (findings : List Finding) : Bool :=
  rule.requiredRuleIds.length ≤ (toSet (findings.map (·.ruleId))).length

/-- `timedelta(seconds=s)`, in microseconds: no more than 999999999 days either way. -/
def timedelta (s : Int) : Except Exn Int :=
  if -999999999 ≤ s / 86400 ∧ s / 86400 ≤ 999999999 then .ok (s * DateTime.second)
  else .error .overflowError

/-- The storyline of one group, if the group has one. -/
def groupStory (rt : Runtime) (rule : CorrelationRule) (matched : List Finding) (entity : String) :
    Draw (List Storyline) :=
  let group := matched.filter fun item => groupKey rule item = entity
  match group with
  | [] => pure []
  | head :: _ =>
      if !covers rule group || group.length < rule.minFindings then pure []
      else do
        let times := group.map (·.createdAt)
        let finish ← Exec.lift (latest head.createdAt times)
        let start ← Exec.lift (earliest head.createdAt times)
        let span ← Exec.lift (finish.minus start)
        let window ← Exec.lift (timedelta rule.windowSeconds)
        if window < span then pure []
        else do
          let id ← newId rt "stl"
          -- The times compare with each other, or `max` has raised already.
          let sorted := group.insertionSort fun a b => a.createdAt.asUtc.wall ≤ b.createdAt.asUtc.wall
          pure
            [{ storylineId := id
               tenantId := head.tenantId
               title := rule.title
               entities := [(rule.entityKey, if entity = "" then [] else [entity])]
               stages := sorted.map fun item => stageOf item.ruleId item
               confidence := 75
               evidenceIds := group.flatMap evidenceIdsOf
               eventIds := group.flatMap (·.eventIds)
               mitreTechniques := rule.mitreTechniques
               start := start
               finish := finish
               attributes := [("correlation_rule_id", .str rule.ruleId)] }]

def applyCorrelationRule (rt : Runtime) (findings : List Finding) (rule : CorrelationRule) :
    Draw (List Storyline) :=
  let matched := findings.filter fun item => item.ruleId ∈ rule.requiredRuleIds
  if covers rule matched then
    collect (groupStory rt rule matched) (toSet (matched.map (groupKey rule)))
  else pure []

def applyCorrelationRules (rt : Runtime) (findings : List Finding)
    (rules : List CorrelationRule := defaultCorrelationRules) : Draw (List Storyline) :=
  collect (applyCorrelationRule rt findings) rules

/-- Append the storylines whose title and events are not there yet. -/
def appendNew (storylines extras : List Storyline) : List Storyline :=
  extras.foldl (fun acc extra =>
    if (extra.title, extra.eventIds) ∈ acc.map (fun item => (item.title, item.eventIds)) then acc
    else acc ++ [extra]) storylines

/-- `{event.id: event for event in events}.values()` -/
def byId (events : List CanonicalEvent) : List CanonicalEvent :=
  Dict.values (Dict.index (·.id) events)

def correlate (rt : Runtime) (events : List CanonicalEvent) (findings : List Finding) :
    Draw (List Storyline) :=
  if findings.isEmpty then pure []
  else do
    let identity ← identityChain rt findings (byId events)
    let office ← officeC2 rt findings
    let lateral ← lateralC2 rt findings
    let extras ← applyCorrelationRules rt findings
    pure (appendNew (identity ++ office ++ lateral) extras)

/-- `incident_fingerprint` -/
def incidentFingerprint (storyline : Storyline) : String :=
  let entities := storyline.entities.insertionSort fun a b => a.1 ≤ b.1
  storyline.title ++ "|" ++ "|".intercalate (entities.map fun f =>
    f.1 ++ "=" ++ ",".intercalate (sortedTexts (f.2.filter (· ≠ ""))))

end BlueTeam.Correlation
