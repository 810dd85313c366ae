/- GID: BlueTeam/Detection/Catalog
   generality: I
   source: detections/python/catalog.py, detections/python/identity, network, endpoint, scheduled,
     packages/sigma-compiler/blueteam_sigma/compiler.py,
     security-languages/sigma/windows/proc_office_spawns_powershell.yml
   digest: The rules of the default registry, in registration order. -/

import BlueTeam.Detection.Rule

set_option autoImplicit false
set_option relaxedAutoImplicit false

namespace BlueTeam.Detection

open BlueTeam.Python BlueTeam.Schema BlueTeam.Lib

/-! ### Identity -/

def loginTypes : List String := ["login", "authentication", "logon"]

def isAuthFailure (event : CanonicalEvent) : Bool :=
  event.category = "authentication" ∧ event.eventType ∈ loginTypes ∧ event.outcome = some .failure

def isAuthSuccess (event : CanonicalEvent) : Bool :=
  event.category = "authentication" ∧ event.eventType ∈ loginTypes ∧ event.outcome = some .success

/-- `{item.user.name for item in related if item.user and item.user.name}` -/
def usersOf (related : List CanonicalEvent) : List String :=
  toSet ((related.filter fun item => given (eventUser item)).filterMap eventUser)

def passwordSprayRule : DetectionRule where
  info :=
    { ruleId := "identity.password_spray"
      name := "Password spraying"
      description := "Many distinct usernames failing authentication from one source IP " ++
        "inside a short window. Classic password-spray pattern (T1110.003)."
      version := "1.0.0"
      severity := .high
      confidence := 85
      mitreTactics := ["credential-access"]
      mitreTechniques := ["T1110.003"] }
  attributes := identityAttributes
  selects _ context event :=
    if isAuthFailure event ∧ given event.srcIp then do
      let related ← context.eventsInWindow event 600
        { category := some "authentication", outcome := some .failure, srcIp := event.srcIp }
      let users := usersOf related
      if users.length < 5 then pure none
      else
        let src := showText event.srcIp
        let accounts := ", ".intercalate (sortedTexts users)
        pure (some
          { tail := src ++ ":" ++ event.timestamp.toMinute.isoformat
            related := related
            explanation := s!"{users.length} distinct accounts failed authentication from {src} " ++
              s!"within 600s. Accounts: {accounts}." })
    else pure none

def bruteForceRule : DetectionRule where
  info :=
    { ruleId := "identity.brute_force"
      name := "Authentication brute force"
      description := "Repeated authentication failures against one account inside a short window " ++
        "(T1110.001)."
      version := "1.0.0"
      severity := .high
      confidence := 80
      mitreTactics := ["credential-access"]
      mitreTechniques := ["T1110.001"] }
  attributes := identityAttributes
  selects _ context event :=
    if isAuthFailure event ∧ given (eventUser event) then do
      let related ← context.eventsInWindow event 600
        { category := some "authentication", outcome := some .failure
          userName := eventUser event }
      if related.length < 8 then pure none
      -- Spray is many users / one IP. Brute force is one user / many attempts.
      else if 2 < (usersOf related).length then pure none
      else
        let user := showText (eventUser event)
        pure (some
          { tail := user ++ ":" ++ event.timestamp.toTenMinutes.isoformat
            related := related
            explanation := s!"Account {user} recorded {related.length} failed authentications " ++
              "within 600s." })
    else pure none

def privilegedMarkers : List String :=
  ["domain admins", "enterprise admins", "administrators", "global admin",
   "privileged role administrator", "organization management", "sudo", "root"]

def privilegeGrantRule : DetectionRule where
  info :=
    { ruleId := "identity.privilege_grant"
      name := "Privileged group or role grant"
      description :=
        "A principal was added to an administrative group or granted a privileged role."
      version := "1.0.0"
      severity := .high
      confidence := 90
      mitreTactics := ["privilege-escalation", "persistence"]
      mitreTechniques := ["T1098", "T1078"] }
  attributes := identityAttributes
  selects rt _ event :=
    if event.category ∈ ["identity", "directory"] ∧
        event.action.getD "" ∈ ["add_to_group", "grant_role", "add_member", "elevate"] then
      let target := rt.lower
        ((Json.orElse (Json.getFirst event.attributes ["group", "role"]) (.str "")).text rt)
      if privilegedMarkers.any fun marker => hasInfix marker target then
        let actor := orText (eventUser event) "unknown"
        let action := showText event.action
        let outcome := ((event.outcome.map Outcome.text).getD "unknown")
        pure (some
          { tail := event.id
            related := [event]
            explanation := s!"{actor} granted privileged membership '{target}' " ++
              s!"(action={action}, outcome={outcome})." })
      else pure none
    else pure none

def repeatedFailuresRule : DetectionRule where
  info :=
    { ruleId := "identity.repeated_failures"
      name := "Repeated failed login"
      description :=
        "Repeated authentication failures for one account (lower intensity than brute force)."
      version := "1.0.0"
      severity := .medium
      confidence := 75
      mitreTactics := ["credential-access"]
      mitreTechniques := ["T1110"] }
  attributes := identityAttributes
  selects _ context event :=
    if isAuthFailure event ∧ given (eventUser event) then do
      let related ← context.eventsInWindow event 900
        { category := some "authentication", outcome := some .failure
          userName := eventUser event }
      if related.length ≠ 5 then pure none
      else
        let user := showText (eventUser event)
        pure (some
          { tail := user ++ ":" ++ event.timestamp.toHour.isoformat
            related := related
            explanation := s!"Account {user} had {related.length} failed logins within 900s." })
    else pure none

def unusualSuccessRule : DetectionRule where
  info :=
    { ruleId := "identity.unusual_success"
      name := "Unusual successful login"
      description := "Successful authentication after recent failures for the same account."
      version := "1.0.0"
      severity := .high
      confidence := 78
      mitreTactics := ["credential-access", "initial-access"]
      mitreTechniques := ["T1078", "T1110"] }
  attributes := identityAttributes
  selects _ context event :=
    if isAuthSuccess event ∧ given (eventUser event) then do
      let window ← context.eventsInWindow event 1800
        { category := some "authentication", outcome := some .failure
          userName := eventUser event }
      let failures := window.filter isAuthFailure
      if failures.length < 3 then pure none
      else
        let user := showText (eventUser event)
        let src := showText event.srcIp
        pure (some
          { tail := user ++ ":" ++ event.timestamp.toMinute.isoformat
            related := failures ++ [event]
            explanation := s!"Account {user} succeeded after {failures.length} failures " ++
              s!"in 1800s from {src}." })
    else pure none

/-- `_country`: a country that is a list or a dict cannot be looked up in a set. -/
def countryOf (rt : Runtime) (event : CanonicalEvent) : Except Exn (Option String) :=
  match Json.get event.attributes "geoip" with
  | .obj geo =>
      let country := Json.get geo "country"
      if country.truthy then do
        let vague ← country.inSet ["unknown", "private"]
        pure (if vague then none else some (country.text rt))
      else pure none
  | _ => pure none

/-- The first prior login from another country. -/
def otherCountry (rt : Runtime) (current : String) :
    List CanonicalEvent → Except Exn (Option (CanonicalEvent × String))
  | [] => pure none
  | item :: items => do
      let other ← countryOf rt item
      if given other ∧ other ≠ some current then pure (some (item, showText other))
      else otherCountry rt current items

def impossibleTravelRule : DetectionRule where
  info :=
    { ruleId := "identity.impossible_travel"
      name := "Impossible travel abstraction"
      description := "Two successful authentications for one account from different GeoIP " ++
        "countries inside a short window. Uses fixture/enrichment country codes only — not live " ++
        "travel math."
      version := "1.0.0"
      severity := .high
      confidence := 70
      mitreTactics := ["initial-access"]
      mitreTechniques := ["T1078"] }
  attributes := identityAttributes
  selects rt context event :=
    if isAuthSuccess event ∧ given (eventUser event) then do
      let current ← countryOf rt event
      if given current then do
        let window ← context.eventsInWindow event 7200
          { category := some "authentication", outcome := some .success
            userName := eventUser event }
        let prior := window.filter fun item => item.id ≠ event.id ∧ isAuthSuccess item
        let found ← otherCountry rt (showText current) prior
        pure (found.map fun (item, other) =>
          let user := showText (eventUser event)
          let here := showText current
          { tail := user ++ ":" ++ other ++ "->" ++ here ++ ":" ++ event.timestamp.dateIso
            related := [item, event]
            explanation := s!"Account {user} authenticated from {other} then {here} " ++
              "within 7200s (GeoIP fixture abstraction)." })
      else pure none
    else pure none

def mfaActions : List String := ["mfa_challenge", "mfa_deny", "mfa_push", "mfa_reject"]

def isMfa (rt : Runtime) (event : CanonicalEvent) : Bool :=
  event.category = "authentication" ∧
    (rt.lower (event.action.getD "") ∈ mfaActions ∨ rt.lower event.eventType ∈ mfaActions ∨
      (Json.get event.attributes "mfa").truthy)

def mfaFatigueRule : DetectionRule where
  info :=
    { ruleId := "identity.mfa_fatigue"
      name := "MFA fatigue"
      description :=
        "Burst of MFA challenges or denials against one account (T1621 abstraction)."
      version := "1.0.0"
      severity := .high
      confidence := 80
      mitreTactics := ["credential-access"]
      mitreTechniques := ["T1621"] }
  attributes := identityAttributes
  selects rt context event :=
    if isMfa rt event ∧ given (eventUser event) then do
      let window ← context.eventsInWindow event 600
        { category := some "authentication", userName := eventUser event }
      let related := window.filter (isMfa rt)
      if related.length < 5 then pure none
      else
        let user := showText (eventUser event)
        pure (some
          { tail := user ++ ":" ++ event.timestamp.toTenMinutes.isoformat
            related := related
            explanation := s!"Account {user} received {related.length} MFA challenge/deny events " ++
              "within 600s." })
    else pure none

def yesTexts : List String := ["true", "1", "yes"]

/-- `int(value) >= 90`, with `TypeError` and `ValueError` read as no. -/
def idleLong (rt : Runtime) (value : Json) : Except Exn Bool :=
  match (Json.orElse value (.int 0)).toInt rt with
  | .ok days => .ok (decide (90 ≤ days))
  | .error e => if e = .typeError ∨ e.isValueError then .ok false else .error e

/-- `str(fields.get(key, "")).lower()` -/
def loweredAttribute (rt : Runtime) (fields : JsonObject) (key : String) : String :=
  rt.lower (((fields.lookup key).getD (.str "")).text rt)

/-- What the directory entry of the account says. -/
def directoryDormant (rt : Runtime) (event : CanonicalEvent) : Except Exn Bool :=
  match Json.get event.attributes "directory" with
  | .obj directory =>
      if loweredAttribute rt directory "dormant" ∈ yesTexts then .ok true
      else idleLong rt (Json.get directory "last_login_days")
  | _ => .ok false

/-- `_is_dormant` -/
def isDormant (rt : Runtime) (event : CanonicalEvent) : Except Exn Bool := do
  let marked ← directoryDormant rt event
  pure (marked || loweredAttribute rt event.attributes "dormant" ∈ yesTexts)

def dormantAccountRule : DetectionRule where
  info :=
    { ruleId := "identity.dormant_account"
      name := "Dormant account activity"
      description :=
        "Successful login for an account marked dormant or long-idle in directory enrichment."
      version := "1.0.0"
      severity := .medium
      confidence := 72
      mitreTactics := ["persistence", "initial-access"]
      mitreTechniques := ["T1078"] }
  attributes := identityAttributes
  selects rt _ event :=
    if isAuthSuccess event ∧ given (eventUser event) then do
      let dormant ← isDormant rt event
      if dormant then
        let user := showText (eventUser event)
        let src := showText event.srcIp
        pure (some
          { tail := user ++ ":" ++ event.timestamp.dateIso
            related := [event]
            explanation := s!"Dormant/long-idle account {user} authenticated successfully " ++
              s!"from {src}." })
      else pure none
    else pure none

/-- `_is_service` -/
def isService (rt : Runtime) (event : CanonicalEvent) : Bool :=
  let name := rt.lower ((eventUser event).getD "")
  name.startsWith "svc-" || name.startsWith "svc_" ||
    (match Json.get event.attributes "directory" with
      | .obj directory => decide (loweredAttribute rt directory "type" = "service")
      | _ => false) ||
    decide (loweredAttribute rt event.attributes "account_type" = "service")

def interactive : List String :=
  ["interactive", "2", "10", "11", "remoteinteractive", "unlocked"]

/-- `_is_interactive` -/
def isInteractive (rt : Runtime) (event : CanonicalEvent) : Bool :=
  rt.lower ((Json.orElse (Json.getFirst event.attributes ["logon_type", "LogonType"])
    (.str "")).text rt) ∈ interactive ∨
  rt.lower (event.action.getD "") ∈ ["interactive_login", "rdp", "console"]

def serviceAccountMisuseRule : DetectionRule where
  info :=
    { ruleId := "identity.service_account_misuse"
      name := "Service account misuse"
      description := "Interactive or unusual authentication by a service account."
      version := "1.0.0"
      severity := .high
      confidence := 82
      mitreTactics := ["persistence", "privilege-escalation"]
      mitreTechniques := ["T1078.001"] }
  attributes := identityAttributes
  selects rt _ event :=
    if isAuthSuccess event ∧ given (eventUser event) ∧ isService rt event ∧
        isInteractive rt event then
      let user := showText (eventUser event)
      let src := showText event.srcIp
      pure (some
        { tail := user ++ ":" ++ event.timestamp.toHour.isoformat
          related := [event]
          explanation := s!"Service account {user} performed interactive authentication " ++
            s!"from {src}." })
    else pure none

/-! ### Network -/

/-- `str` of an optional port. -/
def showPort (port : Option Int) : String :=
  (port.map toString).getD "None"

def isFlow (event : CanonicalEvent) : Bool :=
  event.category ∈ ["network", "alert"]

def horizontalScanRule : DetectionRule where
  info :=
    { ruleId := "network.horizontal_scan"
      name := "Horizontal network scan"
      description := "One source contacts many distinct destinations on a shared port."
      version := "1.0.0"
      severity := .medium
      confidence := 80
      mitreTactics := ["discovery"]
      mitreTechniques := ["T1046"] }
  attributes := sharedAttributes
  selects _ context event :=
    if isFlow event ∧ given event.srcIp ∧ given event.dstIp then do
      let window ← context.eventsInWindow event 120 { srcIp := event.srcIp }
      let related := window.filter fun item =>
        isFlow item ∧ given item.dstIp ∧ item.dstPort = event.dstPort
      let destinations := toSet (related.map (·.dstIp))
      if destinations.length < 8 then pure none
      else
        let src := showText event.srcIp
        let port := showPort event.dstPort
        pure (some
          { tail := src ++ ":" ++ port
            related := related
            explanation := s!"{src} contacted {destinations.length} distinct hosts on port " ++
              s!"{port} within 120s." })
    else pure none

def verticalScanRule : DetectionRule where
  info :=
    { ruleId := "network.vertical_scan"
      name := "Vertical port scan"
      description := "One source probes many ports on a single destination."
      version := "1.0.0"
      severity := .medium
      confidence := 80
      mitreTactics := ["discovery"]
      mitreTechniques := ["T1046"] }
  attributes := sharedAttributes
  selects _ context event :=
    if isFlow event ∧ given event.srcIp ∧ given event.dstIp then do
      let window ← context.eventsInWindow event 120 { srcIp := event.srcIp }
      let related := window.filter fun item =>
        item.dstIp = event.dstIp ∧ item.dstPort.getD 0 ≠ 0
      let ports := toSet (related.map (·.dstPort))
      if ports.length < 8 then pure none
      else
        let src := showText event.srcIp
        let dst := showText event.dstIp
        pure (some
          { tail := src ++ ":" ++ dst
            related := related
            explanation := s!"{src} probed {ports.length} ports on {dst}." })
    else pure none

def rareDestinationRule : DetectionRule where
  info :=
    { ruleId := "network.rare_destination"
      name := "Rare destination"
      description := "First observed outbound destination from a host in the recent window."
      version := "1.0.0"
      severity := .low
      confidence := 65
      mitreTactics := ["command-and-control"]
      mitreTechniques := ["T1071"] }
  attributes := sharedAttributes
  selects _ context event :=
    if event.category = "network" ∧ given event.srcIp ∧ given event.dstIp then do
      let window ← context.eventsInWindow event 3600 { srcIp := event.srcIp }
      let peers := window.filter fun item => item.category = "network" ∧ given item.dstIp
      let count (dst : Option String) : Nat := (peers.filter fun item => item.dstIp = dst).length
      let destinations := toSet (peers.map (·.dstIp))
      if count event.dstIp ≠ 1 then pure none
      else if (∀ dst ∈ destinations, count dst < 3) ∨ destinations.length < 2 then pure none
      else
        let src := showText event.srcIp
        let dst := showText event.dstIp
        pure (some
          { tail := src ++ ":" ++ dst
            related := peers
            explanation := s!"{src} reached rare destination {dst}." })
    else pure none

def repetitiveBeaconRule : DetectionRule where
  info :=
    { ruleId := "network.repetitive_beacon"
      name := "Repetitive beacon"
      description := "Regular outbound connections from one host to one destination."
      version := "1.0.0"
      severity := .high
      confidence := 82
      mitreTactics := ["command-and-control"]
      mitreTechniques := ["T1071"] }
  attributes := sharedAttributes
  selects _ context event :=
    if event.category = "network" ∧ given event.srcIp ∧ given event.dstIp then do
      let window ← context.eventsInWindow event 600 { srcIp := event.srcIp }
      let related := window.filter fun item =>
        item.dstIp = event.dstIp ∧ item.category = "network"
      if related.length < 4 then pure none
      else
        let src := showText event.srcIp
        let dst := showText event.dstIp
        pure (some
          { tail := src ++ ":" ++ dst
            related := related
            explanation := s!"{related.length} outbound connections from {src} to {dst}." })
    else pure none

/-- The length of the longest label of a domain. -/
def longestLabel (domain : String) : Nat :=
  ((domain.toList.splitOn '.').map List.length).foldl max 0

def suspiciousDnsRule : DetectionRule where
  info :=
    { ruleId := "network.suspicious_dns"
      name := "Suspicious DNS"
      description :=
        "Unusually long DNS query labels consistent with tunneling or DGA-like names."
      version := "1.0.0"
      severity := .medium
      confidence := 70
      mitreTactics := ["command-and-control", "exfiltration"]
      mitreTechniques := ["T1071.004"] }
  attributes := sharedAttributes
  selects rt _ event :=
    if event.category = "dns" ∧ given event.domain then
      let domain := showText event.domain
      if longestLabel domain < 40 ∧ ¬ hasInfix "tunnel" (rt.lower domain) then pure none
      else
        pure (some
          { tail := domain
            related := [event]
            explanation := s!"DNS query {domain} has a {longestLabel domain}-character label." })
    else pure none

def adminPorts : List Int := [445, 3389, 5985, 5986]

/-- `ip_address(text).is_private`, no where the text is not an address. -/
def isPrivateIp (rt : Runtime) (ip : Option String) : Bool :=
  ((rt.ipAddress (ip.getD "")).map rt.isPrivate).getD false

def unusualEastWestRule : DetectionRule where
  info :=
    { ruleId := "network.unusual_east_west"
      name := "Unusual east-west traffic"
      description :=
        "Internal-to-internal SMB/RDP/WinRM after or alongside other suspicious activity."
      version := "1.0.0"
      severity := .high
      confidence := 75
      mitreTactics := ["lateral-movement"]
      mitreTechniques := ["T1021.002", "T1021.001"] }
  attributes := sharedAttributes
  selects rt _ event :=
    if event.category = "network" ∧ given event.srcIp ∧ given event.dstIp ∧
        event.dstPort.getD 0 ∈ adminPorts ∧ isPrivateIp rt event.srcIp ∧
        isPrivateIp rt event.dstIp then
      let src := showText event.srcIp
      let dst := showText event.dstIp
      let port := showPort event.dstPort
      let protocol := orText event.protocol "tcp"
      pure (some
        { tail := src ++ ":" ++ dst ++ ":" ++ port
          related := [event]
          explanation := s!"East-west {protocol}/{port} from {src} to {dst}." })
    else pure none

/-! ### Endpoint -/

/-- `(process.name or "").lower()` -/
def loweredName (rt : Runtime) (process : CanonicalProcess) : String :=
  rt.lower (process.name.getD "")

/-- The process and parent of a process event that has both. -/
def parentAndChild (event : CanonicalEvent) : Option (CanonicalProcess × CanonicalProcess) :=
  if event.category = "process" then
    event.process.bind fun child => event.parentProcess.map fun parent => (parent, child)
  else none

def office : List String := ["winword.exe", "excel.exe", "powerpnt.exe", "outlook.exe"]

def shells : List String :=
  ["powershell.exe", "pwsh.exe", "cmd.exe", "wscript.exe", "cscript.exe"]

def officeSpawnsShellRule : DetectionRule where
  info :=
    { ruleId := "endpoint.office_spawns_shell"
      name := "Office spawns a shell"
      description := "Office process launches powershell, cmd, or wscript."
      version := "1.0.0"
      severity := .high
      confidence := 88
      mitreTactics := ["execution"]
      mitreTechniques := ["T1059.001", "T1204.002"] }
  attributes := sharedAttributes
  selects rt _ event :=
    match parentAndChild event with
    | none => pure none
    | some (parent, child) =>
        let parent := loweredName rt parent
        let child := loweredName rt child
        if parent ∈ office ∧ child ∈ shells then
          pure (some
            { tail := parent ++ ":" ++ child ++ ":" ++ event.id
              related := [event]
              explanation := s!"{parent} spawned {child}." })
        else pure none

def encodedMarkers : List String := [" -enc ", " -encodedcommand ", " -e ", "frombase64string"]

def encodedPowershellRule : DetectionRule where
  info :=
    { ruleId := "endpoint.encoded_powershell"
      name := "Encoded PowerShell"
      description := "PowerShell launched with encoded command switches."
      version := "1.0.0"
      severity := .high
      confidence := 86
      mitreTactics := ["defense-evasion", "execution"]
      mitreTechniques := ["T1027", "T1059.001"] }
  attributes := sharedAttributes
  selects rt _ event :=
    match event.process with
    | none => pure none
    | some process =>
        let cmd := rt.lower (process.commandLine.getD "")
        if event.category = "process" ∧
            loweredName rt process ∈ ["powershell.exe", "pwsh.exe"] ∧
            encodedMarkers.any (fun marker => hasInfix marker (" " ++ cmd ++ " ")) then
          pure (some
            { tail := event.id
              related := [event]
              explanation := "PowerShell command line contains an encoded-command marker." })
        else pure none

def interpreters : List String :=
  ["wscript.exe", "cscript.exe", "mshta.exe", "python.exe", "wmic.exe"]

def userPaths : List String := ["\\users\\", "/home/", "\\appdata\\", "\\temp\\"]

def suspiciousScriptInterpreterRule : DetectionRule where
  info :=
    { ruleId := "endpoint.suspicious_script_interpreter"
      name := "Suspicious script interpreter"
      description := "Script host or interpreter launched from user content paths."
      version := "1.0.0"
      severity := .medium
      confidence := 74
      mitreTactics := ["execution"]
      mitreTechniques := ["T1059"] }
  attributes := sharedAttributes
  selects rt _ event :=
    match event.process with
    | none => pure none
    | some process =>
        let name := loweredName rt process
        let path := rt.lower ((firstGiven process.path process.commandLine).getD "")
        if event.category = "process" ∧ name ∈ interpreters ∧
            userPaths.any (fun token => hasInfix token path) then
          pure (some
            { tail := name ++ ":" ++ event.id
              related := [event]
              explanation := s!"{name} executed from a user/content path." })
        else pure none

/-- `_persist` -/
def persists (event : CanonicalEvent) (explanation : String) : Option Selection :=
  some { tail := event.id, related := [event], explanation := explanation }

def servicePersistenceRule : DetectionRule where
  info :=
    { ruleId := "endpoint.service_persistence"
      name := "Service persistence"
      description := "New or modified service creation from endpoint telemetry."
      version := "1.0.0"
      severity := .medium
      confidence := 78
      mitreTactics := ["persistence"]
      mitreTechniques := ["T1543.003"] }
  attributes := sharedAttributes
  selects _ _ event :=
    -- The source tests category and action first; only the event type decides.
    if event.eventType ≠ "service" ∧ event.category ≠ "persistence" then pure none
    else if event.action.getD "" ∉ ["service", "service_start", "service_create"] ∧
        event.eventType ≠ "service" then pure none
    else if event.eventType ≠ "service" then pure none
    else pure (persists event "Service persistence event observed.")

def scheduledTaskPersistenceRule : DetectionRule where
  info :=
    { ruleId := "endpoint.scheduled_task_persistence"
      name := "Scheduled-task persistence"
      description := "Scheduled task creation or modification."
      version := "1.0.0"
      severity := .medium
      confidence := 78
      mitreTactics := ["persistence"]
      mitreTechniques := ["T1053.005"] }
  attributes := sharedAttributes
  selects _ _ event :=
    if event.eventType ≠ "scheduled_task" then pure none
    else pure (persists event "Scheduled-task persistence event observed.")

def registryPersistenceRule : DetectionRule where
  info :=
    { ruleId := "endpoint.registry_persistence"
      name := "Registry persistence"
      description := "Run-key or similar registry persistence write."
      version := "1.0.0"
      severity := .medium
      confidence := 80
      mitreTactics := ["persistence"]
      mitreTechniques := ["T1547.001"] }
  attributes := sharedAttributes
  selects rt _ event :=
    if event.category ≠ "registry" then pure none
    else
      let target := (Json.orElse (Json.get event.rawEvent "TargetObject") (.str "")).text rt
      let path := rt.lower (orText (event.file.bind (·.path)) target)
      if hasInfix "\\currentversion\\run" path ∨ hasInfix "runonce" path then
        pure (persists event s!"Registry persistence write: {path}")
      else pure none

def unusualParents : List String := ["explorer.exe", "services.exe"]

def unusualChildren : List String :=
  ["powershell.exe", "cmd.exe", "mshta.exe", "rundll32.exe", "regsvr32.exe", "payload.exe"]

def unusualChildProcessRule : DetectionRule where
  info :=
    { ruleId := "endpoint.unusual_child_process"
      name := "Unusual child process"
      description := "Trusted parent launches an unexpected LOLBin or payload-like child."
      version := "1.0.0"
      severity := .medium
      confidence := 72
      mitreTactics := ["execution"]
      mitreTechniques := ["T1204"] }
  attributes := sharedAttributes
  selects rt _ event :=
    match parentAndChild event with
    | none => pure none
    | some (parent, process) =>
        let parent := loweredName rt parent
        let child := loweredName rt process
        let path := rt.lower (process.path.getD "")
        -- Explorer launching a shell is common; require a payload-like path.
        let common : Bool := parent = "explorer.exe" ∧ child ∈ ["powershell.exe", "cmd.exe"] ∧
          ¬ hasInfix "\\temp\\" path ∧ ¬ hasInfix "\\users\\" path ∧ child ≠ "payload.exe"
        if parent ∈ unusualParents ∧ child ∈ unusualChildren ∧ ¬ common then
          pure (some
            { tail := parent ++ ":" ++ child ++ ":" ++ event.id
              related := [event]
              explanation := s!"Unusual child {child} from {parent}." })
        else pure none

def rarePaths : List String :=
  ["\\temp\\", "\\appdata\\local\\temp\\", "/tmp/", "\\users\\public\\"]

def rareExecutablePathRule : DetectionRule where
  info :=
    { ruleId := "endpoint.rare_executable_path"
      name := "Rare executable path"
      description := "Executable launched from a world-writable or user-temp path."
      version := "1.0.0"
      severity := .medium
      confidence := 70
      mitreTactics := ["defense-evasion"]
      mitreTechniques := ["T1036"] }
  attributes := sharedAttributes
  selects rt _ event :=
    match event.process with
    | none => pure none
    | some process =>
        let path := rt.lower (process.path.getD "")
        if event.category = "process" ∧ path ≠ "" ∧
            rarePaths.any (fun token => hasInfix token path) then
          pure (some
            { tail := path
              related := [event]
              explanation := s!"Process launched from rare path {path}." })
        else pure none

def interesting : List String :=
  ["powershell.exe", "pwsh.exe", "cmd.exe", "payload.exe", "wscript.exe"]

/-- `event.host.name or event.host.id` -/
def hostLabel (event : CanonicalEvent) : Option String :=
  event.host.bind fun host => firstGiven host.name host.id

def processNetworkChainRule : DetectionRule where
  info :=
    { ruleId := "endpoint.process_network_chain"
      name := "Process to network chain"
      description := "A newly created process on a host is followed by an outbound connection."
      version := "1.0.0"
      severity := .high
      confidence := 80
      mitreTactics := ["command-and-control"]
      mitreTechniques := ["T1071"] }
  attributes := sharedAttributes
  selects rt context event :=
    if event.category = "network" ∧ given event.dstIp ∧ given (hostLabel event) then do
      let window ← context.eventsInWindow event 180 {}
      let processes := window.filter fun item =>
        item.category = "process" ∧
          (item.process.map (loweredName rt)).getD "" ∈ interesting ∧
          hostLabel item = hostLabel event
      match processes.getLast? with
      | none => pure none
      | some last =>
          let host := showText (hostLabel event)
          let dst := showText event.dstIp
          let name := showText (last.process.bind (·.name))
          pure (some
            { tail := host ++ ":" ++ dst
              related := processes ++ [event]
              explanation := s!"Host {host} ran {name} then connected to {dst}." })
    else pure none

/-! ### Scheduled -/

def scheduledAuthFailureSweep : DetectionRule where
  info :=
    { ruleId := "scheduled.auth_failure_sweep"
      name := "Scheduled authentication failure sweep"
      description := "Window sweep for repeated authentication failures. Runs only on the " ++
        "scheduled runner."
      version := "1.0.0"
      severity := .medium
      confidence := 70
      mitreTactics := ["credential-access"]
      mitreTechniques := ["T1110"]
      execution := .scheduled }
  separator := "|"
  attributes := sharedAttributes
  selects _ context event :=
    if context.scheduled ∧ event.category = "authentication" ∧ event.outcome = some .failure then do
      let related ← context.eventsInWindow event (24 * 3600)
        { category := some "authentication", outcome := some .failure, srcIp := event.srcIp }
      if related.length < 8 then pure none
      else
        let src := showText event.srcIp
        let users := usersOf related
        pure (some
          { tail := src
            related := related
            explanation := s!"Scheduled sweep observed {related.length} authentication failures " ++
              s!"from {src} across {users.length} users." })
    else pure none

/-! ### Sigma -/

/-- One pattern of `_match_value`, both sides lowered; a star at an end matches anything there. -/
def matchText (text value : String) : Bool :=
  if text.endsWith "*" && text.startsWith "*" then
    hasInfix (String.ofList (text.toList.drop 1).dropLast) value
  else if text.endsWith "*" then value.startsWith (String.ofList text.toList.dropLast)
  else if text.startsWith "*" then value.endsWith (String.ofList (text.toList.drop 1))
  else value = text

/-- `_match_value` for a list of patterns -/
def matchValue (rt : Runtime) (observed : Option String) (expected : List String) : Bool :=
  match observed with
  | none => false
  | some value => expected.any fun text => matchText (rt.lower text) (rt.lower value)

/-- The compiled `proc_office_spawns_powershell.yml`. -/
def sigmaOfficeSpawnsPowershell : DetectionRule where
  info :=
    { ruleId := "sigma.office-spawns-powershell"
      name := "Office application spawned PowerShell"
      description := "Word or Excel launching powershell.exe is a common initial-access " ++
        "tradecraft path (T1059.001). Compiled only after fixture validation.\n"
      version := "1.0.0"
      severity := .high
      confidence := 75
      mitreTechniques := ["T1059.001"] }
  attributes _ := .ok []
  selects rt _ event :=
    if matchValue rt (event.process.bind (·.name)) ["powershell.exe", "pwsh.exe"] ∧
        matchValue rt (event.parentProcess.bind (·.name))
          ["winword.exe", "excel.exe", "outlook.exe"] then
      pure (some
        { tail := event.id
          related := [event]
          explanation := s!"Sigma sigma.office-spawns-powershell matched selection on event " ++
            s!"{event.id}." })
    else pure none

/-- `build_default_registry()` -/
def defaultRegistry : List DetectionRule :=
  [passwordSprayRule, bruteForceRule, privilegeGrantRule, repeatedFailuresRule, unusualSuccessRule,
   impossibleTravelRule, mfaFatigueRule, dormantAccountRule, serviceAccountMisuseRule,
   horizontalScanRule, verticalScanRule, rareDestinationRule, repetitiveBeaconRule,
   suspiciousDnsRule, unusualEastWestRule,
   officeSpawnsShellRule, encodedPowershellRule, suspiciousScriptInterpreterRule,
   servicePersistenceRule, scheduledTaskPersistenceRule, registryPersistenceRule,
   unusualChildProcessRule, rareExecutablePathRule, processNetworkChainRule,
   scheduledAuthFailureSweep, sigmaOfficeSpawnsPowershell]

theorem defaultRegistry_wellNamed : ∀ rule ∈ defaultRegistry, rule.WellNamed := by
  decide +kernel

theorem defaultRegistry_ids_nodup : (defaultRegistry.map (·.info.ruleId)).Nodup := by
  decide +kernel

end BlueTeam.Detection
