/- GID: BlueTeam/Api/Login
   generality: I
   source: services/api/app/api/auth.py, services/api/app/services/auth.py
   digest: Logins and what the audit log keeps of them. -/

import BlueTeam.Api.Center

set_option autoImplicit false
set_option relaxedAutoImplicit false

namespace BlueTeam.Api

open BlueTeam.Python BlueTeam.Schema BlueTeam.Lib BlueTeam.Services BlueTeam.Audit

/-- `bcrypt` and `jwt`. -/
structure Security where
  /-- `verify_password`; a text that cannot be checked is a wrong password -/
  verifyPassword : String → String → Bool
  createAccessToken : (subject : String) → (tenantIds : List String) → (admin : Bool) →
    (now : DateTime) → String

structure LoginRequest where
  email : String
  password : String
  requestId : String
  deriving DecidableEq, Repr

/-- The field constraints of the body. -/
def LoginRequest.WellFormed (r : LoginRequest) : Prop :=
  3 ≤ r.email.length ∧ r.email.length ≤ 254 ∧ 1 ≤ r.password.length

instance (r : LoginRequest) : Decidable r.WellFormed :=
  inferInstanceAs (Decidable (_ ∧ _ ∧ _))

structure LoginReply where
  accessToken : String
  userId : String
  email : String
  displayName : String
  isPlatformAdmin : Bool
  deriving DecidableEq, Repr

def unauthorized (message : String) : CenterFailure :=
  .service (.blueTeamError "UNAUTHORIZED" message 401)

section

variable (security : Security) (rt : Runtime)

def authenticatePassword (email password : String) : Endpoint User := do
  let users ← Exec.gets fun c => c.users.filter fun user => user.email = rt.lower email
  match users with
  | [] => Exec.raise (unauthorized "Invalid credentials")
  | [user] =>
      if user.status ≠ "active" ∨ !security.verifyPassword password user.passwordHash then
        Exec.raise (unauthorized "Invalid credentials")
      else pure user
  | _ => Exec.raise .multipleResultsFound

def membershipsOf (userId : String) : Endpoint (List Membership) :=
  Exec.gets fun c => c.memberships.filter fun m => m.userId = userId

def issueToken (user : User) : Endpoint String := do
  let memberships ← membershipsOf user.id
  let now ← service (draw (utcnow rt))
  pure (security.createAccessToken user.id (sortedTexts (toSet (memberships.map (·.tenantId))))
    user.isPlatformAdmin now)

def deniedEntry (r : LoginRequest) : AuditEntry where
  tenantId := none
  actorType := "user"
  actorId := r.email
  requestId := r.requestId
  action := "auth.login"
  targetType := "user"
  result := "denied"
  reason := some "invalid credentials"

def successEntry (r : LoginRequest) (user : User) (tenantId : Option String) : AuditEntry where
  tenantId := tenantId
  actorType := "user"
  actorId := user.id
  requestId := r.requestId
  action := "auth.login"
  targetType := "user"
  targetId := some user.id
  result := "success"

/-- The tenants of a login's audit rows. -/
def loginTenants (memberships : List Membership) : List (Option String) :=
  if memberships.isEmpty then [none] else memberships.map fun m => some m.tenantId

/-- What `login` does for a user who is authenticated. -/
def welcome (r : LoginRequest) (user : User) : Endpoint LoginReply := do
  let token ← issueToken security rt user
  let memberships ← membershipsOf user.id
  Exec.loop (fun _ tenantId => writeAudit rt (successEntry r user tenantId)) ()
    (loginTenants memberships)
  pure
    { accessToken := token
      userId := user.id
      email := user.email
      displayName := user.displayName
      isPlatformAdmin := user.isPlatformAdmin }

def login (r : LoginRequest) : Endpoint LoginReply := do
  if r.WellFormed then
    match ← Exec.attempt (authenticatePassword security rt r.email r.password) with
    | .ok user => welcome security rt r user
    | .error e => do
        writeAudit rt (deniedEntry r)
        Exec.raise e
  else Exec.raise .requestValidation

/-- The database after some login requests, each a transaction. -/
def afterLogins (c : Center) (requests : List LoginRequest) : Center :=
  requests.foldl (fun c r => (getDb (login security rt r) c).2) c

/-! ### Failed logins -/

/-- There is one user of that address, active and with that password. -/
def authentic (c : Center) (r : LoginRequest) : Bool :=
  match c.users.filter fun user => user.email = rt.lower r.email with
  | [user] => user.status = "active" && security.verifyPassword r.password user.passwordHash
  | _ => false

/-- The request reaches the endpoint and fails authentication. -/
def failsAuthentication (c : Center) (r : LoginRequest) : Bool :=
  decide r.WellFormed && !authentic security rt c r

def isDenied (row : AuditLog) : Bool :=
  row.action = "auth.login" ∧ row.result = "denied"

/-- Who was denied a login, and in which request, as the audit log tells it. -/
def denials (rows : List AuditLog) : List (String × String) :=
  (rows.filter isDenied).map fun row => (row.actorId, row.requestId)

/-- The log verifies, and has one more denial for each request that failed authentication. -/
def FailuresAudited (c : Center) (requests : List LoginRequest) : Prop :=
  let after := (afterLogins security rt c requests).audits
  (verifyAuditChain after).1 = true ∧
    denials after = denials c.audits ++
      (requests.filter (failsAuthentication security rt c)).map fun r => (r.email, r.requestId)

/-- The log is a chain with these denials, and these are the users. -/
structure Quiet (denied : List (String × String)) (users : List User) (c : Center) : Prop where
  chain : Chain c.audits
  denials : denials c.audits = denied
  users : c.users = users

section

variable {security : Security} {rt : Runtime} {denied : List (String × String)} {users : List User}

theorem denials_append_of_not_denied {rows : List AuditLog} {row : AuditLog}
    (h : row.result ≠ "denied") : denials (rows ++ [row]) = denials rows := by
  have hnot : isDenied row = false := by simp [isDenied, h]
  unfold denials
  rw [List.filter_append]
  simp [hnot]

theorem writeAudit_quiet {entry : AuditEntry} (hentry : entry.result ≠ "denied") :
    Exec.Triple (Quiet denied users) (writeAudit rt entry) (fun _ => Quiet denied users)
      (fun _ _ => True) := by
  constructor
  intro c hc
  have hchain := writeAudit_chain rt entry hc.chain
  have hleaves : Leaves Center.users (writeAudit rt entry) :=
    leaves_writeAudit (fun _ _ => rfl) (fun _ _ => rfl) rt entry
  have husers := hleaves c
  rcases writeAudit_cases rt entry c with ⟨e, c', hrun, -⟩ | ⟨id, timestamp, c', hrun, hrows⟩
  · rw [hrun]
    trivial
  · rw [hrun] at hchain husers ⊢
    refine ⟨hchain, ?_, husers.trans hc.users⟩
    show Api.denials c'.audits = denied
    rw [hrows, denials_append_of_not_denied hentry]
    exact hc.denials

theorem quiet_of_leaves {α : Type} {m : Endpoint α} (haudits : Leaves Center.audits m)
    (husers : Leaves Center.users m) :
    Exec.Triple (Quiet denied users) m (fun _ => Quiet denied users) (fun _ _ => True) := by
  constructor
  intro c hc
  have ha := haudits c
  have hu := husers c
  rcases hrun : m c with ⟨⟨e⟩ | ⟨a⟩, c'⟩
  · trivial
  · rw [hrun] at ha hu
    have ha : c'.audits = c.audits := ha
    refine ⟨?_, ?_, hu.trans hc.users⟩
    · rw [ha]
      exact hc.chain
    · rw [ha]
      exact hc.denials

theorem welcome_quiet (r : LoginRequest) (user : User) :
    Exec.Triple (Quiet denied users) (welcome security rt r user) (fun _ => Quiet denied users)
      (fun _ _ => True) := by
  refine Exec.triple_bind (quiet_of_leaves ?_ ?_) fun token => ?_
  · exact leaves_bind (leaves_gets _) fun _ => leaves_bind (leaves_service (fun _ _ => rfl) _)
      fun _ => leaves_pure _
  · exact leaves_bind (leaves_gets _) fun _ => leaves_bind (leaves_service (fun _ _ => rfl) _)
      fun _ => leaves_pure _
  refine Exec.triple_bind (quiet_of_leaves (leaves_gets _) (leaves_gets _)) fun memberships => ?_
  refine Exec.triple_bind ?_ fun _ => Exec.triple_pure fun _ hc => hc
  exact Exec.triple_loop (fun _ _ => Quiet denied users)
    (fun _ _ _ => writeAudit_quiet (by simp [successEntry])) () _

/-- `authenticate_password` reads only. -/
theorem leaves_authenticatePassword {γ : Type} (part : Center → γ) (email password : String) :
    Leaves part (authenticatePassword security rt email password) := by
  refine leaves_bind (leaves_gets _) fun found => ?_
  cases found with
  | nil => exact leaves_raise _
  | cons user others =>
      cases others with
      | nil =>
          show Leaves part (if user.status ≠ "active" ∨
            !security.verifyPassword password user.passwordHash then _ else _)
          split
          · exact leaves_raise _
          · exact leaves_pure _
      | cons other others => exact leaves_raise _

/-- A login that returns has denied nobody. -/
theorem login_quiet (r : LoginRequest) :
    Exec.Triple (Quiet denied users) (login security rt r) (fun _ => Quiet denied users)
      (fun _ _ => True) := by
  unfold login
  split
  · have hread {γ : Type} (part : Center → γ) : Leaves part
        (Exec.attempt (authenticatePassword security rt r.email r.password)) :=
      leaves_attempt (leaves_authenticatePassword part r.email r.password)
    refine Exec.triple_bind (quiet_of_leaves (hread _) (hread _)) fun outcome => ?_
    cases outcome with
    | ok user => exact welcome_quiet r user
    | error e =>
        -- the denial is written, and then the request raises
        refine Exec.triple_bind (Q := fun _ _ => True) ?_ fun _ =>
          Exec.triple_raise fun _ _ => trivial
        constructor
        intro c _
        split <;> trivial
  · exact Exec.triple_raise fun _ _ => trivial

theorem Quiet.same {c c' : Center} (h : Quiet denied users c) (haudits : c'.audits = c.audits)
    (husers : c'.users = c.users) : Quiet denied users c' := by
  refine ⟨?_, ?_, husers.trans h.users⟩
  · rw [haudits]
    exact h.chain
  · rw [haudits]
    exact h.denials

/-- No request adds a denial: the row that a failed one wrote is rolled back. -/
theorem getDb_login_quiet (r : LoginRequest) {c : Center} (hc : Quiet denied users c) :
    Quiet denied users (getDb (login security rt r) c).2 := by
  rcases getDb_cases (login security rt r) c with
    ⟨e, t, hrun⟩ | ⟨reply, c₁, c', hreturned, hflush, hrun⟩
  · rw [hrun]
    exact hc.same rfl rfl
  · rw [hrun]
    have hquiet := (login_quiet r).ok hc hreturned
    have hleaves : Leaves Center.users (service flush) := leaves_service (fun _ _ => rfl) flush
    have haudits := service_leaves_audits flush c₁
    have husers := hleaves c₁
    rw [hflush] at haudits husers
    exact hquiet.same haudits husers

theorem afterLogins_quiet (requests : List LoginRequest) {c : Center}
    (hc : Quiet denied users c) : Quiet denied users (afterLogins security rt c requests) := by
  unfold afterLogins
  induction requests generalizing c with
  | nil => exact hc
  | cons r requests ih => exact ih (getDb_login_quiet r hc)

/-- Over every sequence of logins the log keeps verifying, and it has its denials exactly if there
was none to record. -/
theorem denied_logins_audited_iff (security : Security) (rt : Runtime) (c : Center)
    (requests : List LoginRequest) (hc : Chain c.audits) :
    FailuresAudited security rt c requests ↔
      ∀ r ∈ requests, failsAuthentication security rt c r = false := by
  have hquiet : Quiet (denials c.audits) c.users (afterLogins security rt c requests) :=
    afterLogins_quiet requests ⟨hc, rfl, rfl⟩
  have hverify : (verifyAuditChain (afterLogins security rt c requests).audits).1 = true := by
    rw [hquiet.chain.verify]
  unfold FailuresAudited
  simp only [hverify, hquiet.denials, true_and, List.self_eq_append_right, List.map_eq_nil_iff,
    List.filter_eq_nil_iff, Bool.not_eq_true]

end

end

/-! ### Samples -/

/-- A center with one user. -/
def staffed : Center where
  session := emptyWorld.session
  users := [{ id := "usr_1", email := "lead@example.test", displayName := "Lead",
              passwordHash := "right" }]

def attemptWith (password : String) : LoginRequest where
  email := "lead@example.test"
  password := password
  requestId := "req_1"

/-- Passwords are their own hashes. -/
def plainSecurity : Security where
  verifyPassword := fun password hash => password = hash
  createAccessToken := fun subject _ _ _ => subject

theorem denied_logins_audited_iff_right_password :
    Chain staffed.audits ∧
      FailuresAudited plainSecurity sampleRuntime staffed [attemptWith "right"] :=
  ⟨chain_nil, (denied_logins_audited_iff plainSecurity sampleRuntime staffed [attemptWith "right"]
    chain_nil).mpr (by decide +kernel)⟩

/-- The denial of a wrong password is gone when the request ends. -/
theorem denied_login_lost :
    Chain staffed.audits ∧
      ¬ FailuresAudited plainSecurity sampleRuntime staffed [attemptWith "guess"] := by
  refine ⟨chain_nil, fun h => ?_⟩
  have hdenials : denials (afterLogins plainSecurity sampleRuntime staffed
      [attemptWith "guess"]).audits = [] := by decide +kernel
  have hfails : failsAuthentication plainSecurity sampleRuntime staffed (attemptWith "guess") = true
    := by decide +kernel
  have hlog := h.2
  rw [hdenials] at hlog
  simp [hfails] at hlog

end BlueTeam.Api
