/- GID: BlueTeam/Access/Permissions
   generality: I
   source: services/api/app/domain/permissions.py
   digest: The roles of the platform and what each of them permits. -/

import BlueTeam.Python.Runtime

set_option autoImplicit false
set_option relaxedAutoImplicit false

namespace BlueTeam.Access

open BlueTeam.Python

def analystPerms : List String :=
  ["tenants:read", "users:read", "roles:read", "audit:read", "events:read", "detections:read",
    "alerts:read", "incidents:read", "incidents:write", "evidence:read", "quality:read",
    "languages:read", "hunts:execute", "intel:read"]

def hunterPerms : List String :=
  analystPerms ++ ["events:ingest", "intel:write"]

def detectionEngineerPerms : List String :=
  analystPerms ++ ["detections:write", "events:ingest", "blue_range:execute", "quality:read"]

def responderPerms : List String :=
  analystPerms ++ ["alerts:write", "evidence:write", "evidence:export", "response:tier0",
    "response:tier1", "response:tier2", "broker:execute"]

def adminPerms : List String :=
  detectionEngineerPerms ++ responderPerms ++
    ["users:write", "tenants:write", "roles:write", "intel:write"]

/-- `ROLE_CATALOG`: the permissions of each role. -/
def roleCatalog : List (String × List String) :=
  [("platform_super_admin", adminPerms ++ ["admin:platform"]),
    ("tenant_owner", adminPerms),
    ("security_admin", adminPerms),
    ("soc_manager", responderPerms ++ ["users:read", "blue_range:execute"]),
    ("senior_analyst", responderPerms),
    ("analyst", analystPerms),
    ("threat_hunter", hunterPerms),
    ("detection_engineer", detectionEngineerPerms),
    ("incident_responder", responderPerms),
    ("auditor",
      ["tenants:read", "users:read", "roles:read", "audit:read", "events:read", "detections:read",
        "alerts:read", "incidents:read", "evidence:read", "quality:read"]),
    ("read_only",
      ["tenants:read", "alerts:read", "incidents:read", "detections:read", "quality:read"])]

/-- What a role permits; a key that is not in the catalogue permits nothing. -/
def permissionsOf (roleKey : String) : List String :=
  (roleCatalog.lookup roleKey).getD []

def permissionsForRoles (roleKeys : List String) : List String :=
  toSet (roleKeys.flatMap permissionsOf)

theorem mem_permissionsForRoles {roleKeys : List String} {permission : String} :
    permission ∈ permissionsForRoles roleKeys ↔
      ∃ roleKey ∈ roleKeys, permission ∈ permissionsOf roleKey := by
  unfold permissionsForRoles
  rw [mem_toSet, List.mem_flatMap]

end BlueTeam.Access
