/- GID: BlueTeam/Access/Auth
   generality: I
   source: services/api/app/services/auth.py, services/api/app/core/deps.py,
     services/api/app/core/security.py, services/api/app/models/identity.py
   digest: Who a request is made by, for which tenant, and whether it is permitted. -/

import BlueTeam.Access.Permissions
import BlueTeam.Api.Login

set_option autoImplicit false
set_option relaxedAutoImplicit false

namespace BlueTeam.Access

open BlueTeam.Python BlueTeam.Schema BlueTeam.Services BlueTeam.Api

structure ApiKey where
  id : String
  tenantId : String
  name : String
  keyHash : String
  status : String := "active"
  deriving DecidableEq, Repr

/-- The tables that say who may do what. -/
structure Accounts where
  users : List User
  memberships : List Membership
  apiKeys : List ApiKey

/-- What `create_access_token` puts into a token, without its times. -/
structure TokenPayload where
  sub : Option String
  tenantIds : List String := []
  isPlatformAdmin : Bool := false
  deriving DecidableEq, Repr

/-- `decode_token`, with the key and the clock of the service: none where `jwt` refuses. -/
structure Tokens where
  decodeToken : String → Option TokenPayload

structure Headers where
  authorization : Option String := none
  xApiKey : Option String := none
  xTenantId : Option String := none
  deriving DecidableEq, Repr

structure Actor extends toRequester : Api.Actor where
  email : Option String
  displayName : String
  isPlatformAdmin : Bool
  tenantIds : List String
  deriving DecidableEq, Repr

structure TenantActor extends Actor where
  tenantId : String
  roleKeys : List String
  permissions : List String
  deriving DecidableEq, Repr

def permissionDenied (message : String) : CenterFailure :=
  .service (.blueTeamError "PERMISSION_DENIED" message 403)

section

variable (tokens : Tokens) (rt : Runtime) (accounts : Accounts)

/-- The tenants of a user, `sorted({item.tenant_id for item in memberships})`. -/
def Accounts.tenantsOf (userId : String) : List String :=
  sortedTexts (toSet ((accounts.memberships.filter fun m => m.userId = userId).map (·.tenantId)))

/-- What a bearer token makes of its user: of the token only the subject counts. -/
def Accounts.userActor (user : User) (requestId : String) : Actor where
  userId := user.id
  email := some user.email
  displayName := user.displayName
  isPlatformAdmin := user.isPlatformAdmin
  tenantIds := accounts.tenantsOf user.id
  actorType := "user"
  requestId := requestId

def ApiKey.actor (key : ApiKey) (requestId : String) : Actor where
  userId := key.id
  email := none
  displayName := key.name
  isPlatformAdmin := false
  tenantIds := [key.tenantId]
  actorType := "api_key"
  requestId := requestId

def actorFromBearer (token requestId : String) : Except CenterFailure Actor :=
  match tokens.decodeToken token with
  | none => .error (unauthorized "Invalid token")
  | some payload =>
      match payload.sub.bind fun sub => accounts.users.find? fun user => user.id = sub with
      | none => .error (unauthorized "Invalid token subject")
      | some user =>
          if user.status ≠ "active" then .error (unauthorized "Invalid token subject")
          else .ok (accounts.userActor user requestId)

def actorFromApiKey (rawKey requestId : String) : Except CenterFailure Actor :=
  match accounts.apiKeys.filter fun key =>
      key.keyHash = sha256Hex rawKey ∧ key.status = "active" with
  | [] => .error (unauthorized "Invalid API key")
  | [key] => .ok (key.actor requestId)
  | _ => .error .multipleResultsFound

/-- `authorization.split(" ", 1)[1]`, of a text that has a blank. -/
def afterBlank (text : String) : String :=
  String.ofList ((text.toList.dropWhile (· ≠ ' ')).drop 1)

/-- The token of an `Authorization` header, if there is one. -/
def bearerToken (headers : Headers) : Option String :=
  if given headers.authorization ∧
      "bearer ".toList.isPrefixOf (rt.lower (headers.authorization.getD "")).toList then
    some (afterBlank (headers.authorization.getD ""))
  else none

def getActor (headers : Headers) (requestId : String) : Except CenterFailure Actor :=
  if given headers.xApiKey then actorFromApiKey accounts (headers.xApiKey.getD "") requestId
  else
    match bearerToken rt headers with
    | some token => actorFromBearer tokens accounts token requestId
    | none => .error (unauthorized "Authentication required")

def roleKeysOf (actor : Actor) (tenantId : String) : List String :=
  let memberships := accounts.memberships.filter fun m =>
    m.userId = actor.userId ∧ m.tenantId = tenantId
  if actor.actorType = "api_key" then ["detection_engineer"]
  else if actor.isPlatformAdmin ∧ memberships.isEmpty then ["platform_super_admin"]
  else memberships.map (·.roleKey)

def bindTenant (actor : Actor) (tenantId : String) : Except CenterFailure TenantActor :=
  if tenantId ∉ actor.tenantIds ∧ !actor.isPlatformAdmin then
    .error (permissionDenied "Cross-tenant access denied")
  else
    let roleKeys := roleKeysOf accounts actor tenantId
    if roleKeys.isEmpty ∧ !actor.isPlatformAdmin then
      .error (permissionDenied "No membership in tenant")
    else .ok
      { actor with
        tenantId := tenantId
        roleKeys := roleKeys
        permissions := permissionsForRoles roleKeys }

/-- The tenant that the request names, or the only one of its actor. -/
def namedTenant (headers : Headers) (actor : Actor) : Except CenterFailure String :=
  if given headers.xTenantId then .ok (headers.xTenantId.getD "")
  else
    match actor.tenantIds with
    | [tenantId] => .ok tenantId
    | _ => .error (unauthorized "X-Tenant-ID is required")

def getTenantActor (headers : Headers) (requestId : String) :
    Except CenterFailure TenantActor := do
  let actor ← getActor tokens rt accounts headers requestId
  let tenantId ← namedTenant headers actor
  bindTenant accounts actor tenantId

def requirePermission (actor : TenantActor) (permission : String) : Except CenterFailure Unit :=
  if actor.isPlatformAdmin then .ok ()
  else if permission ∉ actor.permissions then
    .error (permissionDenied ("Missing permission " ++ permission))
  else .ok ()

/-- `Permission(permission)` as a dependency of an endpoint. -/
def permit (permission : String) (headers : Headers) (requestId : String) :
    Except CenterFailure TenantActor := do
  let actor ← getTenantActor tokens rt accounts headers requestId
  requirePermission actor permission
  pure actor

end

end BlueTeam.Access
