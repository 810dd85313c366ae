/- GID: BlueTeam/Access/Accountability
   generality: I
   source: services/api/app/services/audit.py, services/api/app/api/auth.py, detections.py,
     incidents.py, evidence.py, graph.py, intel.py, events.py, connectors.py
   digest: Whoever the audit log names did what it says, in the tenant it says. -/

import BlueTeam.Access.Boundary

set_option autoImplicit false
set_option relaxedAutoImplicit false

namespace BlueTeam.Access

open BlueTeam.Python BlueTeam.Schema BlueTeam.Lib BlueTeam.Lib.Exec BlueTeam.Services BlueTeam.Rules
open BlueTeam.Audit BlueTeam.Api

/-- The row says of itself that the actor's request wrote it. -/
structure By (actor : Api.TenantActor) (row : AuditLog) : Prop where
  tenantId : row.tenantId = some actor.tenantId
  actorId : row.actorId = actor.userId
  requestId : row.requestId = actor.requestId

/-- The row says of itself that it is of a login of the user. -/
structure OfLogin (r : LoginRequest) (user : User) (memberships : List Membership)
    (row : AuditLog) : Prop where
  action : row.action = "auth.login"
  result : row.result = "success"
  actorId : row.actorId = user.id
  requestId : row.requestId = r.requestId
  tenantId : ∀ tenantId, row.tenantId = some tenantId →
    ∃ m ∈ memberships, m.userId = user.id ∧ m.tenantId = tenantId

/-- The user may log in with what the request says. -/
structure Authentic (security : Security) (rt : Runtime) (users : List User) (r : LoginRequest)
    (user : User) : Prop where
  known : user ∈ users
  email : user.email = rt.lower r.email
  active : user.status = "active"
  password : security.verifyPassword r.password user.passwordHash = true

/-- The step does what the row says. -/
inductive Accounts.Explains (tokens : Tokens) (security : Security) (rt : Runtime)
    (accounts : Accounts) : Step → AuditLog → Prop
  /-- a request of someone who is let through -/
  | request (headers : Headers) (requestId : String) (route : Route) (actor : TenantActor)
      (row : AuditLog)
      (permitted : permit tokens rt accounts route.permission headers requestId = .ok actor)
      (written : By actor.forServices row) (same : row.requestId = requestId) :
      Accounts.Explains tokens security rt accounts (.request headers requestId route) row
  /-- a login that succeeds -/
  | login (r : LoginRequest) (user : User) (row : AuditLog)
      (authentic : Authentic security rt accounts.users r user)
      (written : OfLogin r user accounts.memberships row) :
      Accounts.Explains tokens security rt accounts (.login r) row

/-- The log has grown by rows of a kind, and is a chain. -/
structure Logged (base : List AuditLog) (p : AuditLog → Prop) (c : Center) : Prop where
  chain : Chain c.audits
  grown : ∃ rows, c.audits = base ++ rows ∧ ∀ row ∈ rows, p row

/-- Where the endpoint returns, it has written rows of the kind only. -/
def Writes {α : Type} (base : List AuditLog) (p : AuditLog → Prop) (m : Endpoint α) : Prop :=
  Triple (Logged base p) m (fun _ => Logged base p) (fun _ _ => True)

/-! ### What endpoints write -/

section

variable {rt : Runtime} {catalogue : Catalogue} {base : List AuditLog} {p : AuditLog → Prop}
  {actor : Api.TenantActor} {α β : Type}

theorem writes_bind {m : Endpoint α} {f : α → Endpoint β} (hm : Writes base p m)
    (hf : ∀ a, Writes base p (f a)) : Writes base p (m >>= f) :=
  triple_bind hm hf

theorem writes_pure (a : α) : Writes base p (pure a : Endpoint α) :=
  triple_pure fun _ h => h

theorem writes_raise (e : CenterFailure) : Writes base p (raise e : Endpoint α) :=
  triple_raise fun _ _ => trivial

theorem writes_of_leaves {m : Endpoint α} (h : Leaves Center.audits m) : Writes base p m := by
  constructor
  intro c hc
  have hsame := h c
  split
  · rename_i hrun
    rw [hrun] at hsame
    have hsame : _ = c.audits := hsame
    obtain ⟨hchain, hgrown⟩ := hc
    rw [← hsame] at hchain hgrown
    exact ⟨hchain, hgrown⟩
  · trivial

theorem writes_service (m : Service α) : Writes base p (service m) :=
  writes_of_leaves (service_leaves_audits m)

theorem writes_silently {m : Endpoint α} (h : Writes base p m) : Writes base p (silently m) :=
  writes_bind h fun _ => writes_pure _

theorem writes_writeAudit {entry : AuditEntry} (hentry : ∀ row, Logs entry row → p row) :
    Writes base p (writeAudit rt entry) := by
  constructor
  intro c hc
  have hchain := writeAudit_chain rt entry hc.chain
  rcases writeAudit_cases rt entry c with ⟨e, c', hrun, -⟩ | ⟨id, timestamp, c', hrun, hrows⟩
  · rw [hrun]
    trivial
  · rw [hrun] at hchain ⊢
    obtain ⟨rows, hbase, hall⟩ := hc.grown
    rw [hbase, List.append_assoc] at hrows
    refine ⟨hchain, _, hrows, fun row hrow => ?_⟩
    rcases List.mem_append.mp hrow with hrow | hrow
    · exact hall row hrow
    · obtain rfl := List.mem_singleton.mp hrow
      exact hentry _ (logs_newRecord _ _ _ _ _)

/-- The entry is the actor's. -/
structure OfActor (actor : Api.TenantActor) (entry : AuditEntry) : Prop where
  tenantId : entry.tenantId = some actor.tenantId
  actorId : entry.actorId = actor.userId
  requestId : entry.requestId = actor.requestId

theorem writes_entry {entry : AuditEntry} (h : OfActor actor entry) :
    Writes base (By actor) (writeAudit rt entry) :=
  writes_writeAudit fun _ hlogs => ⟨hlogs.tenantId.trans h.tenantId, hlogs.actorId.trans h.actorId,
    hlogs.requestId.trans h.requestId⟩

theorem onIncident_writes (incidentId : String) (op : IncidentOp) {entry : Edit → AuditEntry}
    (hentry : ∀ edit, OfActor actor (entry edit)) :
    Writes base (By actor) (onIncident rt actor incidentId op entry) := by
  refine writes_bind (writes_service _) fun edit => ?_
  refine writes_bind (writes_service _) fun _ => ?_
  exact writes_bind (writes_entry (hentry edit)) fun _ => writes_pure _

theorem minLength_writes (n : Nat) (text : String) : Writes base p (minLength n text) :=
  writes_of_leaves (quiet_minLength n text)

theorem updateCriticality_writes (entityId criticality : String) :
    Writes base (By actor) (updateCriticality rt actor entityId criticality) := by
  have hprojected : Writes base (By actor) (projectUpdated rt actor entityId criticality) := by
    refine writes_bind (writes_service _) fun _ => ?_
    refine writes_bind (writes_service _) fun updated => ?_
    refine writes_bind (writes_entry ⟨rfl, rfl, rfl⟩) fun _ => ?_
    cases updated with
    | none => exact writes_raise _
    | some row => exact writes_pure _
  refine writes_bind (writes_of_leaves (leaves_attempt (service_leaves_audits _))) fun outcome => ?_
  rcases outcome with e | (_ | row)
  · cases e with
    | service f =>
        cases f with
        | python e =>
            dsimp only
            split <;> exact writes_raise _
        | _ => exact writes_raise _
    | _ => exact writes_raise _
  · exact writes_raise _
  · exact hprojected

theorem change_writes (made : Change) :
    Writes base (By actor) ((ChangeRequest.mk actor made).body rt catalogue) := by
  by_cases haudited : made.audited = true
  · cases made with
    | fromAlert alertId =>
        refine writes_silently (writes_bind (writes_service _) fun row => ?_)
        exact writes_bind (writes_entry ⟨rfl, rfl, rfl⟩) fun _ => writes_pure _
    | changeStatus incidentId status =>
        exact writes_silently (onIncident_writes _ _ fun _ => ⟨rfl, rfl, rfl⟩)
    | assignIncident incidentId assigneeUserId assigneeEmail =>
        exact writes_silently (onIncident_writes _ _ fun _ => ⟨rfl, rfl, rfl⟩)
    | note incidentId body =>
        exact writes_silently (writes_bind (minLength_writes _ _) fun _ =>
          onIncident_writes _ _ fun _ => ⟨rfl, rfl, rfl⟩)
    | task incidentId title =>
        exact writes_silently (writes_bind (minLength_writes _ _) fun _ =>
          onIncident_writes _ _ fun _ => ⟨rfl, rfl, rfl⟩)
    | rootCause incidentId text =>
        exact writes_silently (writes_bind (minLength_writes _ _) fun _ =>
          onIncident_writes _ _ fun _ => ⟨rfl, rfl, rfl⟩)
    | lessons incidentId text =>
        exact writes_silently (writes_bind (minLength_writes _ _) fun _ =>
          onIncident_writes _ _ fun _ => ⟨rfl, rfl, rfl⟩)
    | evidence incidentId evidenceId =>
        exact writes_silently (onIncident_writes _ _ fun _ => ⟨rfl, rfl, rfl⟩)
    | rebuildGraph =>
        refine writes_silently (writes_bind (writes_service _) fun stats => ?_)
        exact writes_bind (writes_entry ⟨rfl, rfl, rfl⟩) fun _ => writes_pure _
    | updateCriticality entityId criticality =>
        exact writes_silently (updateCriticality_writes entityId criticality)
    | scheduledRun | addSuppression | addException | promoteRule | changeRuleStatus
    | rebuildIncidents | validateClaim | custodyEvent => cases haudited
  · exact writes_of_leaves (unaudited_leaves _ (by simpa using haudited))

theorem takeIn_writes (payloads : List JsonObject) {entry : IngestResult → AuditEntry}
    (hentry : ∀ result, OfActor actor (entry result)) :
    Writes base (By actor) (takeIn rt actor payloads entry) := by
  refine writes_bind (writes_service _) fun result => ?_
  exact writes_bind (writes_entry (hentry result)) fun _ => writes_pure _

theorem batchLength_writes (items : List α) : Writes base p (batchLength items) := by
  unfold batchLength
  split
  · exact writes_pure _
  · exact writes_raise _

theorem serializeIoc_writes (row : IndicatorOfCompromise) :
    Writes base p (serializeIoc rt row) :=
  writes_bind (writes_service _) fun _ => writes_bind (writes_service _) fun _ => writes_pure _

theorem body_writes (route : Route) :
    Writes base (By actor) (route.body rt catalogue actor) := by
  cases route with
  | change made => exact change_writes made
  | ingest events =>
      exact writes_silently (writes_bind (batchLength_writes _) fun _ =>
        takeIn_writes _ fun _ => ⟨rfl, rfl, rfl⟩)
  | syslog lines =>
      exact writes_silently (writes_bind (batchLength_writes _) fun _ =>
        takeIn_writes _ fun _ => ⟨rfl, rfl, rfl⟩)
  | webhook body =>
      exact writes_silently (writes_bind (writes_service _) fun _ =>
        takeIn_writes _ fun _ => ⟨rfl, rfl, rfl⟩)
  | wazuhIngest alerts => exact writes_silently (takeIn_writes _ fun _ => ⟨rfl, rfl, rfl⟩)
  | iocs includeExpired =>
      refine writes_silently (writes_bind (writes_service _) fun _ => ?_)
      refine writes_bind (writes_service _) fun rows => ?_
      refine triple_loop (fun _ _ => Logged base (By actor)) (fun replies row _ => ?_) [] rows
      exact writes_bind (serializeIoc_writes row) fun _ => writes_pure _
  | createIoc body =>
      refine writes_silently (writes_bind (writes_service _) fun row => ?_)
      exact writes_bind (writes_entry ⟨rfl, rfl, rfl⟩) fun _ => serializeIoc_writes row
  | readIoc iocId =>
      exact writes_silently (writes_bind (writes_service _) serializeIoc_writes)
  | deactivateIoc iocId =>
      refine writes_silently (writes_bind (writes_service _) fun found => ?_)
      refine writes_bind (writes_service _) fun row => ?_
      exact writes_bind (writes_entry ⟨rfl, rfl, rfl⟩) fun _ => serializeIoc_writes row
  | expireIocs =>
      refine writes_silently (writes_bind (writes_service _) fun count => ?_)
      exact writes_bind (writes_entry ⟨rfl, rfl, rfl⟩) fun _ => writes_pure _

end

/-! ### What logins write -/

/-- The log as above, and the accounts as they were. -/
structure Manned (base : List AuditLog) (p : AuditLog → Prop) (users : List User)
    (memberships : List Membership) (c : Center) : Prop extends Logged base p c where
  users : c.users = users
  memberships : c.memberships = memberships

section

variable {security : Security} {rt : Runtime} {base : List AuditLog} {p : AuditLog → Prop}
  {users : List User} {memberships : List Membership} {r : LoginRequest} {user : User} {α : Type}

theorem manned_of_leaves {m : Endpoint α}
    (h : Leaves (fun c => (c.audits, c.users, c.memberships)) m) :
    Triple (Manned base p users memberships) m (fun _ => Manned base p users memberships)
      (fun _ _ => True) := by
  constructor
  intro c hc
  have hsame := h c
  split
  · rename_i hrun
    rw [hrun] at hsame
    obtain ⟨haudits, hrest⟩ := Prod.mk.inj hsame
    obtain ⟨husers, hmemberships⟩ := Prod.mk.inj hrest
    obtain ⟨⟨hchain, hgrown⟩, hu, hm⟩ := hc
    rw [← haudits] at hchain hgrown
    exact ⟨⟨hchain, hgrown⟩, husers.trans hu, hmemberships.trans hm⟩
  · trivial

theorem manned_writeAudit {entry : AuditEntry} (hentry : ∀ row, Logs entry row → p row) :
    Triple (Manned base p users memberships) (writeAudit rt entry)
      (fun _ => Manned base p users memberships) (fun _ _ => True) := by
  have hleaves : Leaves (fun c => (c.users, c.memberships)) (writeAudit rt entry) :=
    leaves_writeAudit (fun _ _ => rfl) (fun _ _ => rfl) rt entry
  have hwrites : Writes base p (writeAudit rt entry) := writes_writeAudit hentry
  constructor
  intro c hc
  have hsame := hleaves c
  split
  · rename_i hrun
    rw [hrun] at hsame
    obtain ⟨husers, hmemberships⟩ := Prod.mk.inj hsame
    exact ⟨hwrites.ok hc.toLogged hrun, husers.trans hc.users, hmemberships.trans hc.memberships⟩
  · trivial

/-- Whoever is authenticated may log in. -/
theorem authenticatePassword_ok {c c' : Center}
    (h : authenticatePassword security rt r.email r.password c = (.ok user, c')) :
    Authentic security rt c.users r user := by
  unfold authenticatePassword at h
  obtain ⟨found, c₁, hfound, h⟩ := ok_of_bind h
  obtain ⟨hvalue, rfl⟩ := Prod.mk.inj hfound
  have hvalue : c.users.filter (fun user => user.email = rt.lower r.email) = found :=
    Except.ok.inj hvalue
  rcases found with _ | ⟨only, _ | ⟨other, rest⟩⟩
  · cases h
  · obtain ⟨hknown, hemail⟩ := List.mem_filter.mp (hvalue ▸ List.mem_singleton_self only)
    dsimp only at h
    split at h
    · cases h
    · rename_i hallowed
      obtain ⟨hsame, -⟩ := Prod.mk.inj h
      obtain rfl := Except.ok.inj hsame
      simp only [ne_eq, Bool.not_eq_true', not_or, not_not, Bool.not_eq_false] at hallowed
      exact ⟨hknown, of_decide_eq_true hemail, hallowed.1, hallowed.2⟩
  · cases h

theorem membershipsOf_manned (userId : String) :
    Triple (Manned base p users memberships) (membershipsOf userId)
      (fun found c => found = memberships.filter (fun m => m.userId = userId) ∧
        Manned base p users memberships c) (fun _ _ => True) := by
  refine triple_gets fun c hc => ⟨?_, hc⟩
  rw [hc.memberships]

theorem ofLogin_of_logs {tenantId : Option String}
    (htenant : ∀ t, tenantId = some t → ∃ m ∈ memberships, m.userId = user.id ∧ m.tenantId = t)
    {row : AuditLog} (h : Logs (successEntry r user tenantId) row) :
    OfLogin r user memberships row where
  action := h.action
  result := h.result
  actorId := h.actorId
  requestId := h.requestId
  tenantId t ht := htenant t (h.tenantId.symm.trans ht)

theorem welcome_manned (hp : ∀ row, OfLogin r user memberships row → p row) :
    Triple (Manned base p users memberships) (welcome security rt r user)
      (fun _ => Manned base p users memberships) (fun _ _ => True) := by
  have htoken : Leaves (fun c => (c.audits, c.users, c.memberships)) (issueToken security rt user) :=
    leaves_bind (leaves_gets _) fun _ => leaves_bind (leaves_service (fun _ _ => rfl) _)
      fun _ => leaves_pure _
  refine triple_bind (manned_of_leaves htoken) fun token => ?_
  refine triple_bind (membershipsOf_manned user.id) fun found => ?_
  apply triple_given
  rintro rfl
  refine triple_bind ?_ fun _ => triple_pure fun _ hc => hc
  -- each row is of a tenant that the user is a member of, or of none
  refine Triple.conseq (triple_loop (fun _ rest c => (∀ tenantId ∈ rest, ∀ t, tenantId = some t →
    ∃ m ∈ memberships, m.userId = user.id ∧ m.tenantId = t) ∧ Manned base p users memberships c)
      (fun _ tenantId rest => ?_) () _) (fun c hc => ⟨?_, hc⟩) (fun _ _ hc => hc.2) fun _ _ h => h
  · apply triple_given
    intro hall
    obtain ⟨htenant, hrest⟩ := List.forall_mem_cons.mp hall
    exact (manned_writeAudit fun row hlogs => hp row (ofLogin_of_logs htenant hlogs)).post
      fun _ _ hc => ⟨hrest, hc⟩
  · intro tenantId hmem t ht
    unfold loginTenants at hmem
    split at hmem
    · obtain rfl := List.mem_singleton.mp hmem
      cases ht
    · obtain ⟨m, hm, rfl⟩ := List.mem_map.mp hmem
      obtain ⟨hm, huser⟩ := List.mem_filter.mp hm
      exact ⟨m, hm, of_decide_eq_true huser, Option.some.inj ht⟩

/-- A login writes rows of the user who is authenticated. -/
theorem login_manned (hp : ∀ user row, Authentic security rt users r user →
      OfLogin r user memberships row → p row) :
    Triple (Manned base p users memberships) (login security rt r)
      (fun _ => Manned base p users memberships) (fun _ _ => True) := by
  unfold login
  split
  · refine triple_bind (Q := fun outcome c => (∀ user, outcome = .ok user →
      Authentic security rt users r user) ∧ Manned base p users memberships c) ?_ fun outcome => ?_
    · constructor
      intro c hc
      have hsame : (authenticatePassword security rt r.email r.password c).2 = c :=
        leaves_authenticatePassword (fun c => c) r.email r.password c
      refine ⟨fun user huser => ?_, ?_⟩
      · rw [← hc.users]
        exact authenticatePassword_ok (Prod.ext huser rfl)
      · show Manned base p users memberships (authenticatePassword security rt r.email r.password c).2
        rw [hsame]
        exact hc
    · apply triple_given
      intro hauthentic
      cases outcome with
      | ok user => exact welcome_manned fun row hrow => hp user row (hauthentic user rfl) hrow
      | error e =>
          refine triple_bind (Q := fun _ _ => True) ?_ fun _ => triple_raise fun _ _ => trivial
          constructor
          intro c _
          split <;> trivial
  · exact triple_raise fun _ _ => trivial

end

/-! ### Runs -/

section

variable {tokens : Tokens} {security : Security} {rt : Runtime} {catalogue : Catalogue}

/-- An actor carries the id of the request that shows it. -/
theorem getActor_requestId {accounts : Accounts} {headers : Headers} {requestId : String}
    {actor : Actor} (h : getActor tokens rt accounts headers requestId = .ok actor) :
    actor.requestId = requestId := by
  unfold getActor at h
  split at h
  · obtain ⟨key, -, rfl⟩ := actorFromApiKey_ok_iff.mp h
    rfl
  · split at h
    · obtain ⟨-, -, user, -, -, -, -, rfl⟩ := actorFromBearer_ok_iff.mp h
      rfl
    · cases h

theorem bindTenant_requestId {accounts : Accounts} {actor : Actor} {tenantId : String}
    {bound : TenantActor} (h : bindTenant accounts actor tenantId = .ok bound) :
    bound.requestId = actor.requestId := by
  unfold bindTenant at h
  split at h
  · cases h
  · dsimp only at h
    split at h
    · cases h
    · obtain rfl := Except.ok.inj h
      rfl

theorem permit_requestId {accounts : Accounts} {headers : Headers} {requestId permission : String}
    {bound : TenantActor}
    (h : permit tokens rt accounts permission headers requestId = .ok bound) :
    bound.requestId = requestId := by
  obtain ⟨actor, hactor, tenantId, -, hbind, -⟩ := permit_ok_iff.mp h
  exact (bindTenant_requestId hbind).trans (getActor_requestId hactor)

theorem Logged.refl {c : Center} {p : AuditLog → Prop} (h : Chain c.audits) :
    Logged c.audits p c :=
  ⟨h, [], (List.append_nil _).symm, fun row hrow => (by cases hrow)⟩

/-- A request's transaction writes what its endpoint does, or nothing. -/
theorem getDb_logged {α : Type} {m : Endpoint α} {c : Center} {P : Center → Prop}
    {p : AuditLog → Prop} (h : Triple P m (fun _ => Logged c.audits p) (fun _ _ => True)) (hP : P c)
    (hc : Chain c.audits) : Logged c.audits p (getDb m c).2 := by
  rcases getDb_cases m c with ⟨e, t, hrun⟩ | ⟨a, c₁, c', hreturned, hflush, hrun⟩
  · rw [hrun]
    have hnone : Logged c.audits p c := Logged.refl hc
    exact ⟨hnone.chain, hnone.grown⟩
  · rw [hrun]
    have hsame := service_leaves_audits flush c₁
    rw [hflush] at hsame
    have hsame : c'.audits = c₁.audits := hsame
    obtain ⟨hchain, hgrown⟩ := h.ok hP hreturned
    rw [← hsame] at hchain hgrown
    exact ⟨hchain, hgrown⟩

/-- Each step adds to the log what it explains. -/
theorem step_explained {p : Platform} (hp : Chain p.center.audits) (step : Step) :
    Logged p.center.audits (p.accounts.Explains tokens security rt step)
      (p.step tokens security rt catalogue step).center := by
  cases step with
  | request headers requestId route =>
      unfold Platform.step
      dsimp only
      split
      · exact Logged.refl hp
      · rename_i actor hpermit
        have hbody : Writes p.center.audits (By actor.forServices)
            (route.body rt catalogue actor.forServices) := body_writes route
        obtain ⟨hchain, rows, hrows, hby⟩ := getDb_logged hbody (Logged.refl hp) hp
        refine ⟨hchain, rows, hrows, fun row hrow => ?_⟩
        exact .request headers requestId route actor row hpermit (hby row hrow)
          ((hby row hrow).requestId.trans (permit_requestId hpermit))
  | login r =>
      have hlogin : Triple (Manned p.center.audits (p.accounts.Explains tokens security rt (.login r))
          p.center.users p.center.memberships) (login security rt r)
          (fun _ => Manned p.center.audits (p.accounts.Explains tokens security rt (.login r))
            p.center.users p.center.memberships) (fun _ _ => True) :=
        login_manned fun user row hauthentic hrow => .login r user row hauthentic hrow
      exact getDb_logged (hlogin.post fun _ _ hc => hc.toLogged) ⟨Logged.refl hp, rfl, rfl⟩ hp
  | administer users memberships apiKeys =>
      exact ⟨hp, [], (List.append_nil _).symm, fun row hrow => (by cases hrow)⟩

end

/-- Over every history of requests, logins and changes of the accounts the audit log keeps
verifying and only grows, and whatever it has more was written by a step of the history that the
row names rightly: the actor whom the request let in, in the tenant it let them in to, or the user
who was authenticated. -/
theorem audit_accountable (tokens : Tokens) (security : Security) (rt : Runtime)
    (catalogue : Catalogue) (start : Platform) (history : List Step)
    (h : Chain start.center.audits) :
    (verifyAuditChain (start.run tokens security rt catalogue history).center.audits).1 = true ∧
      ∃ rows, (start.run tokens security rt catalogue history).center.audits =
          start.center.audits ++ rows ∧
        ∀ row ∈ rows, ∃ before step after, history = before ++ step :: after ∧
          (start.run tokens security rt catalogue before).accounts.Explains tokens security rt step
            row := by
  have hkeep : ∀ (p : Platform) (step : Step), Chain p.center.audits →
      Chain (p.step tokens security rt catalogue step).center.audits := by
    intro p step hp
    exact (step_explained hp step).chain
  constructor
  · have hchain := Machine.run_inv (fun p : Platform => Chain p.center.audits) hkeep h history
    exact congrArg Prod.fst hchain.verify
  · exact Machine.exists_author (fun p : Platform => Chain p.center.audits) hkeep
      (fun p => p.center.audits) (fun p step hp => (step_explained hp step).grown) h history

/-! ### Samples -/

/-- A platform with an engineer and an alert. -/
def alertedPlatform : Platform where
  center :=
    { alerted with
      users := sampleAccounts.users
      memberships := sampleAccounts.memberships }

/-- The engineer makes an incident of the alert. -/
def convertingSteps : List Step :=
  [.request sampleHeaders "req_1" (.change converting.change)]

theorem audit_accountable_converting :
    Chain alertedPlatform.center.audits ∧
      (verifyAuditChain (alertedPlatform.run sampleTokens plainSecurity sampleRuntime
        defaultCatalogue convertingSteps).center.audits).1 = true ∧
      ∃ rows, (alertedPlatform.run sampleTokens plainSecurity sampleRuntime defaultCatalogue
          convertingSteps).center.audits = alertedPlatform.center.audits ++ rows ∧
        ∀ row ∈ rows, ∃ before step after, convertingSteps = before ++ step :: after ∧
          (alertedPlatform.run sampleTokens plainSecurity sampleRuntime defaultCatalogue
            before).accounts.Explains sampleTokens plainSecurity sampleRuntime step row :=
  ⟨chain_nil, audit_accountable sampleTokens plainSecurity sampleRuntime defaultCatalogue
    alertedPlatform convertingSteps chain_nil⟩

end BlueTeam.Access
