/- GID: BlueTeam/Access/Entitlement
   generality: I
   source: services/api/app/services/auth.py, services/api/app/core/deps.py
   digest: Who is entitled to what, and that the checks of a request decide exactly that. -/

import BlueTeam.Access.Auth

set_option autoImplicit false
set_option relaxedAutoImplicit false

namespace BlueTeam.Access

open BlueTeam.Python BlueTeam.Schema BlueTeam.Lib BlueTeam.Lib.Exec BlueTeam.Services BlueTeam.Api

/-- The keys of the tables. -/
structure Accounts.Keyed (accounts : Accounts) : Prop where
  users : (accounts.users.map (·.id)).Nodup
  apiKeys : (accounts.apiKeys.map (·.keyHash)).Nodup

section

variable (tokens : Tokens) (rt : Runtime) (accounts : Accounts)

/-- The request shows a token of the user, who may log in, and no API key. -/
structure Bears (headers : Headers) (user : User) : Prop where
  bare : ¬ given headers.xApiKey
  token : ∃ token payload, bearerToken rt headers = some token ∧
    tokens.decodeToken token = some payload ∧ payload.sub = some user.id
  known : user ∈ accounts.users
  active : user.status = "active"

/-- The tenant the request is for: the one it names, or else the only one it can be for. -/
def Addresses (headers : Headers) (tenantIds : List String) (tenantId : String) : Prop :=
  if given headers.xTenantId then headers.xTenantId = some tenantId else tenantIds = [tenantId]

/-- The user has a role in the tenant that permits it. -/
def Accounts.Grants (userId tenantId permission : String) : Prop :=
  ∃ m ∈ accounts.memberships, m.userId = userId ∧ m.tenantId = tenantId ∧
    permission ∈ permissionsOf m.roleKey

/-- Who may have something done in a tenant. -/
inductive Entitled (headers : Headers) (permission tenantId : String) : Prop
  /-- an active API key of the tenant, which counts as a detection engineer -/
  | apiKey (key : ApiKey) (raw : String) (shown : headers.xApiKey = some raw) (text : raw ≠ "")
      (known : key ∈ accounts.apiKeys) (hash : key.keyHash = sha256Hex raw)
      (active : key.status = "active") (tenant : key.tenantId = tenantId)
      (addresses : Addresses headers [key.tenantId] tenantId)
      (permits : permission ∈ permissionsOf "detection_engineer")
  /-- an active user with a role there that permits it, or an administrator of the platform -/
  | user (user : User) (bears : Bears tokens rt accounts headers user)
      (addresses : Addresses headers (accounts.tenantsOf user.id) tenantId)
      (permits : user.isPlatformAdmin = true ∨ accounts.Grants user.id tenantId permission)

end

section

variable {tokens : Tokens} {rt : Runtime} {accounts : Accounts} {headers : Headers}
  {requestId permission tenantId : String}

theorem given_iff {text : Option String} : given text = true ↔ ∃ t, text = some t ∧ t ≠ "" := by
  cases text with
  | none => simp [given, orText]
  | some t =>
      by_cases ht : t = ""
      · simp [given, orText, ht]
      · simp [given, orText, ht]

theorem Accounts.mem_tenantsOf {userId : String} : tenantId ∈ accounts.tenantsOf userId ↔
    ∃ m ∈ accounts.memberships, m.userId = userId ∧ m.tenantId = tenantId := by
  unfold Accounts.tenantsOf sortedTexts
  rw [(List.perm_insertionSort _ _).mem_iff, mem_toSet]
  simp [and_assoc]

/-- A row looked up by a key that no two rows share. -/
theorem find_key_iff {α : Type} {key : α → String} {rows : List α} (h : (rows.map key).Nodup)
    {k : String} {r : α} : rows.find? (fun x => key x = k) = some r ↔ r ∈ rows ∧ key r = k := by
  constructor
  · intro hfind
    exact ⟨List.mem_of_find?_eq_some hfind, by simpa using List.find?_some hfind⟩
  · rintro ⟨hr, rfl⟩
    cases hfind : rows.find? fun x => key x = key r with
    | none =>
        have hnot := List.find?_eq_none.mp hfind r hr
        simp at hnot
    | some r' =>
        have hkey : key r' = key r := by simpa using List.find?_some hfind
        rw [List.inj_on_of_nodup_map h (List.mem_of_find?_eq_some hfind) hr hkey]

/-- The rows of the API keys that a raw key can be. -/
def Accounts.shown (accounts : Accounts) (raw : String) : List ApiKey :=
  accounts.apiKeys.filter fun key => key.keyHash = sha256Hex raw ∧ key.status = "active"

theorem Accounts.mem_shown {raw : String} {key : ApiKey} : key ∈ accounts.shown raw ↔
    key ∈ accounts.apiKeys ∧ key.keyHash = sha256Hex raw ∧ key.status = "active" := by
  simp [Accounts.shown, List.mem_filter]

/-- A raw key stands for the only row that it can be. -/
theorem actorFromApiKey_ok_iff {raw : String} {actor : Actor} :
    actorFromApiKey accounts raw requestId = .ok actor ↔
      ∃ key, accounts.shown raw = [key] ∧ actor = key.actor requestId := by
  unfold actorFromApiKey Accounts.shown
  generalize List.filter _ accounts.apiKeys = keys
  rcases keys with _ | ⟨key, _ | ⟨other, rest⟩⟩
  · simp
  · simp [eq_comm]
  · simp

theorem Accounts.Keyed.shown_eq (h : accounts.Keyed) {raw : String} {key : ApiKey}
    (hkey : key ∈ accounts.shown raw) : accounts.shown raw = [key] := by
  have hnodup : (accounts.shown raw).Nodup := (h.apiKeys.of_map _).filter _
  have honly : ∀ other ∈ accounts.shown raw, other = key := by
    intro other hother
    obtain ⟨hknown, hhash, -⟩ := Accounts.mem_shown.mp hkey
    obtain ⟨hknown', hhash', -⟩ := Accounts.mem_shown.mp hother
    exact List.inj_on_of_nodup_map h.apiKeys hknown' hknown (hhash'.trans hhash.symm)
  exact List.perm_singleton.mp ((List.perm_ext_iff_of_nodup hnodup (List.nodup_singleton key)).mpr
    fun other => ⟨fun hother => List.mem_singleton.mpr (honly other hother),
      fun hother => List.mem_singleton.mp hother ▸ hkey⟩)

theorem actorFromBearer_ok_iff {token : String} {actor : Actor} :
    actorFromBearer tokens accounts token requestId = .ok actor ↔
      ∃ payload sub user, tokens.decodeToken token = some payload ∧ payload.sub = some sub ∧
        accounts.users.find? (fun user => user.id = sub) = some user ∧ user.status = "active" ∧
          actor = accounts.userActor user requestId := by
  unfold actorFromBearer
  constructor
  · intro hok
    split at hok
    · cases hok
    · rename_i payload hpayload
      split at hok
      · cases hok
      · rename_i user huser
        obtain ⟨sub, hsub, hfound⟩ := Option.bind_eq_some_iff.mp huser
        split at hok
        · cases hok
        · rename_i hactive
          exact ⟨payload, sub, user, hpayload, hsub, hfound, not_not.mp hactive,
            (Except.ok.inj hok).symm⟩
  · rintro ⟨payload, sub, user, hpayload, hsub, hfound, hactive, rfl⟩
    simp only [hpayload, hsub, Option.bind_some, hfound, hactive, ne_eq, not_true_eq_false, if_false]

theorem namedTenant_ok_iff {actor : Actor} :
    namedTenant headers actor = .ok tenantId ↔ Addresses headers actor.tenantIds tenantId := by
  unfold namedTenant Addresses
  split
  · rename_i hgiven
    obtain ⟨text, htext, -⟩ := given_iff.mp hgiven
    simp [htext]
  · split
    · rename_i only hone
      simp [hone]
    · rename_i hnot
      constructor
      · intro hok
        cases hok
      · intro hone
        exact absurd hone (hnot tenantId)

theorem bindTenant_tenantId {actor : Actor} {bound : TenantActor}
    (h : bindTenant accounts actor tenantId = .ok bound) : bound.tenantId = tenantId := by
  unfold bindTenant at h
  split at h
  · cases h
  · dsimp only at h
    split at h
    · cases h
    · obtain rfl := Except.ok.inj h
      rfl

/-- An actor is let through as an administrator, or with a role in a tenant of theirs. -/
theorem bound_iff {actor : Actor} :
    (∃ bound, bindTenant accounts actor tenantId = .ok bound ∧
        requirePermission bound permission = .ok ()) ↔
      actor.isPlatformAdmin = true ∨ tenantId ∈ actor.tenantIds ∧
        ∃ roleKey ∈ roleKeysOf accounts actor tenantId, permission ∈ permissionsOf roleKey := by
  unfold bindTenant requirePermission
  by_cases hadmin : actor.isPlatformAdmin = true
  · simp [hadmin]
  · by_cases htenant : tenantId ∈ actor.tenantIds
    · by_cases hroles : (roleKeysOf accounts actor tenantId).isEmpty = true
      · have hnone : roleKeysOf accounts actor tenantId = [] := List.isEmpty_iff.mp hroles
        simp [hadmin, htenant, hnone]
      · by_cases hpermission : permission ∈ permissionsForRoles (roleKeysOf accounts actor tenantId)
        · have hrole := mem_permissionsForRoles.mp hpermission
          simp [hadmin, htenant, hroles, hpermission, hrole]
        · have hrole := mt mem_permissionsForRoles.mpr hpermission
          simp [hadmin, htenant, hroles, hpermission, hrole]
    · simp [hadmin, htenant]

theorem permit_ok_iff {bound : TenantActor} :
    permit tokens rt accounts permission headers requestId = .ok bound ↔
      ∃ actor, getActor tokens rt accounts headers requestId = .ok actor ∧
        ∃ tenantId, namedTenant headers actor = .ok tenantId ∧
          bindTenant accounts actor tenantId = .ok bound ∧
          requirePermission bound permission = .ok () := by
  unfold permit getTenantActor
  constructor
  · intro h
    obtain ⟨bound', hbound, h⟩ := except_of_bind h
    obtain ⟨_, hpermission, h⟩ := except_of_bind h
    obtain rfl := Except.ok.inj h
    obtain ⟨actor, hactor, h⟩ := except_of_bind hbound
    obtain ⟨tenantId, htenant, hbind⟩ := except_of_bind h
    exact ⟨actor, hactor, tenantId, htenant, hbind, hpermission⟩
  · rintro ⟨actor, hactor, tenantId, htenant, hbind, hpermission⟩
    simp only [hactor, htenant, hbind, hpermission, bind, Except.bind, pure, Except.pure]

/-- A role that a user has in a tenant makes the tenant one of theirs. -/
theorem user_allowed_iff {user : User} :
    (user.isPlatformAdmin = true ∨ tenantId ∈ accounts.tenantsOf user.id ∧
        ∃ roleKey ∈ roleKeysOf accounts (accounts.userActor user requestId) tenantId,
          permission ∈ permissionsOf roleKey) ↔
      user.isPlatformAdmin = true ∨ accounts.Grants user.id tenantId permission := by
  by_cases hadmin : user.isPlatformAdmin = true
  · simp [hadmin]
  · have hroles (roleKey : String) :
        roleKey ∈ roleKeysOf accounts (accounts.userActor user requestId) tenantId ↔
          ∃ m ∈ accounts.memberships, m.userId = user.id ∧ m.tenantId = tenantId ∧
            m.roleKey = roleKey := by
      simp [roleKeysOf, Accounts.userActor, hadmin, and_assoc]
    simp only [hadmin, Bool.false_eq_true, false_or, Accounts.mem_tenantsOf, hroles, Accounts.Grants]
    constructor
    · rintro ⟨-, _, ⟨m, hm, huser, htenant, rfl⟩, hpermission⟩
      exact ⟨m, hm, huser, htenant, hpermission⟩
    · rintro ⟨m, hm, huser, htenant, hpermission⟩
      exact ⟨⟨m, hm, huser, htenant⟩, m.roleKey, ⟨m, hm, huser, htenant, rfl⟩, hpermission⟩

/-- Whoever is let through for a tenant is entitled to it there. -/
theorem entitled_of_permit {bound : TenantActor}
    (h : permit tokens rt accounts permission headers requestId = .ok bound) :
    Entitled tokens rt accounts headers permission bound.tenantId := by
  obtain ⟨actor, hactor, tenantId, hnamed, hbind, hpermission⟩ := permit_ok_iff.mp h
  rw [bindTenant_tenantId hbind]
  have haddresses := namedTenant_ok_iff.mp hnamed
  have hallowed := bound_iff.mp ⟨bound, hbind, hpermission⟩
  unfold getActor at hactor
  split at hactor
  · rename_i hkey
    obtain ⟨raw, hraw, htext⟩ := given_iff.mp hkey
    rw [hraw, Option.getD_some] at hactor
    obtain ⟨key, hshown, rfl⟩ := actorFromApiKey_ok_iff.mp hactor
    have hmem : key ∈ accounts.shown raw := by rw [hshown]; exact List.mem_singleton_self key
    obtain ⟨hknown, hhash, hactive⟩ := Accounts.mem_shown.mp hmem
    rcases hallowed with hadmin | ⟨hin, roleKey, hrole, hpermits⟩
    · cases hadmin
    · obtain rfl : roleKey = "detection_engineer" := by
        simpa [roleKeysOf, ApiKey.actor] using hrole
      exact .apiKey key raw hraw htext hknown hhash hactive (List.mem_singleton.mp hin).symm
        haddresses hpermits
  · rename_i hbare
    split at hactor
    · rename_i token htoken
      obtain ⟨payload, sub, user, hpayload, hsub, hfound, hactive, rfl⟩ :=
        actorFromBearer_ok_iff.mp hactor
      obtain rfl : user.id = sub := by simpa using List.find?_some hfound
      have hbears : Bears tokens rt accounts headers user :=
        ⟨hbare, ⟨token, payload, htoken, hpayload, hsub⟩, List.mem_of_find?_eq_some hfound, hactive⟩
      exact .user user hbears haddresses (user_allowed_iff.mp hallowed)
    · cases hactor

/-- Whoever is entitled is known by what the request shows. -/
theorem Entitled.actor (requestId : String) (h : accounts.Keyed)
    (hentitled : Entitled tokens rt accounts headers permission tenantId) :
    ∃ actor, getActor tokens rt accounts headers requestId = .ok actor ∧
      Addresses headers actor.tenantIds tenantId ∧ (actor.isPlatformAdmin = true ∨
        tenantId ∈ actor.tenantIds ∧ ∃ roleKey ∈ roleKeysOf accounts actor tenantId,
          permission ∈ permissionsOf roleKey) := by
  unfold getActor
  cases hentitled with
  | apiKey key raw shown text known hash active tenant addresses permits =>
      have hkey : accounts.shown raw = [key] :=
        h.shown_eq (Accounts.mem_shown.mpr ⟨known, hash, active⟩)
      refine ⟨key.actor requestId, ?_, addresses, .inr ⟨?_, "detection_engineer", ?_, permits⟩⟩
      · rw [if_pos (given_iff.mpr ⟨raw, shown, text⟩), shown, Option.getD_some]
        exact actorFromApiKey_ok_iff.mpr ⟨key, hkey, rfl⟩
      · exact List.mem_singleton.mpr tenant.symm
      · simp [roleKeysOf, ApiKey.actor]
  | user user bears addresses permits =>
      obtain ⟨token, payload, htoken, hpayload, hsub⟩ := bears.token
      refine ⟨accounts.userActor user requestId, ?_, addresses, user_allowed_iff.mpr permits⟩
      rw [if_neg bears.bare, htoken]
      exact actorFromBearer_ok_iff.mpr ⟨payload, user.id, user, hpayload, hsub,
        (find_key_iff h.users).mpr ⟨bears.known, rfl⟩, bears.active, rfl⟩

/-- A request is let through for a tenant exactly if it is made by someone who is entitled to it
there; what the token says of tenants and administrators plays no part. -/
theorem permitted_iff (tokens : Tokens) (rt : Runtime) (accounts : Accounts) (headers : Headers)
    (requestId permission tenantId : String) (h : accounts.Keyed) :
    (∃ actor, permit tokens rt accounts permission headers requestId = .ok actor ∧
        actor.tenantId = tenantId) ↔
      Entitled tokens rt accounts headers permission tenantId := by
  constructor
  · rintro ⟨bound, hpermit, rfl⟩
    exact entitled_of_permit hpermit
  · intro hentitled
    obtain ⟨actor, hactor, hnamed, hallowed⟩ := hentitled.actor requestId h
    obtain ⟨bound, hbind, hpermission⟩ := bound_iff.mpr hallowed
    exact ⟨bound, permit_ok_iff.mpr ⟨actor, hactor, tenantId, namedTenant_ok_iff.mpr hnamed,
      hbind, hpermission⟩, bindTenant_tenantId hbind⟩

end

/-! ### Samples -/

/-- One token is good; it claims that its bearer administers the platform. -/
def sampleTokens : Tokens where
  decodeToken token :=
    if token = "tok" then some { sub := some "usr_1", isPlatformAdmin := true } else none

def sampleAccounts : Accounts where
  users := [{ id := "usr_1", email := "a@b.c", displayName := "A", passwordHash := "" }]
  memberships := [{ tenantId := "ten_a", userId := "usr_1", roleKey := "detection_engineer" }]
  apiKeys := []

def sampleHeaders : Headers where
  authorization := some "Bearer tok"

/-- The engineer is let through where the engineer has the role, the token's claim or not. -/
theorem permitted_iff_engineer :
    (∃ actor, permit sampleTokens sampleRuntime sampleAccounts "detections:write" sampleHeaders
        "req_1" = .ok actor ∧ actor.tenantId = "ten_a") ∧
      Entitled sampleTokens sampleRuntime sampleAccounts sampleHeaders "detections:write" "ten_a" := by
  have hkeyed : sampleAccounts.Keyed := ⟨by decide, by decide⟩
  have hlet : ∃ actor, permit sampleTokens sampleRuntime sampleAccounts "detections:write"
      sampleHeaders "req_1" = .ok actor ∧ actor.tenantId = "ten_a" := ⟨_, rfl, rfl⟩
  exact ⟨hlet, (permitted_iff sampleTokens sampleRuntime sampleAccounts sampleHeaders "req_1"
    "detections:write" "ten_a" hkeyed).mp hlet⟩

end BlueTeam.Access
