/- GID: BlueTeam/Api/Center
   generality: I
   source: services/api/app/core/db.py, services/api/app/services/audit.py
   digest: The database behind the endpoints, a request's transaction, and the audit log in it. -/

import BlueTeam.Audit.Concurrency
import BlueTeam.Rules.Revisions
import BlueTeam.Services.Ingestion
import BlueTeam.Services.Rules

set_option autoImplicit false
set_option relaxedAutoImplicit false

namespace BlueTeam.Api

open BlueTeam.Python BlueTeam.Schema BlueTeam.Lib BlueTeam.Services BlueTeam.Audit BlueTeam.Rules

structure User where
  id : String
  email : String
  displayName : String
  passwordHash : String
  status : String := "active"
  isPlatformAdmin : Bool := false
  deriving DecidableEq, Repr

structure Membership where
  tenantId : String
  userId : String
  roleKey : String
  deriving DecidableEq, Repr

/-- What the endpoints read and write: the session of the services, the rule revisions, the audit
log, and who may log in. -/
structure Center where
  session : Session schema
  revisions : List RuleRevision := []
  audits : List AuditLog := []
  users : List User := []
  memberships : List Membership := []
  ticks : Ticks := {}

inductive CenterFailure
  | service (e : Failure)
  /-- the body is refused before the endpoint is called -/
  | requestValidation
  /-- an `IntegrityError` of `audit_logs` -/
  | auditConflict
  | multipleResultsFound
  | assertionError

abbrev Endpoint (α : Type) := Exec Center CenterFailure α

/-- Who makes a request. -/
structure Actor where
  userId : String
  actorType : String
  requestId : String
  deriving DecidableEq, Repr

structure TenantActor extends Actor where
  tenantId : String
  deriving DecidableEq, Repr

/-- What every audit entry of the actor says. -/
def TenantActor.entry (actor : TenantActor) (action targetType : String) : AuditEntry where
  tenantId := some actor.tenantId
  actorType := actor.actorType
  actorId := actor.userId
  requestId := actor.requestId
  action := action
  targetType := targetType

/-- A service of the application, on its part of the database. -/
def service {α : Type} (m : Service α) : Endpoint α :=
  Exec.zoom (fun c => ⟨c.session, c.ticks⟩)
    (fun c w => { c with session := w.session, ticks := w.ticks }) .service m

def ruleService {α : Type} (m : RuleService α) : Endpoint α :=
  Exec.zoom (fun c => ⟨c.revisions, c.ticks⟩)
    (fun c db => { c with revisions := db.revisions, ticks := db.ticks }) .service m

/-- The `INSERT` of an audit row, under the unique constraints of its table. -/
def insertAudit (record : AuditLog) : Endpoint Unit := fun c =>
  if c.audits.any fun row => row.id = record.id ∨ row.sequence = record.sequence ∨
      row.recordHash = record.recordHash then (.error .auditConflict, c)
  else (.ok (), { c with audits := c.audits ++ [record] })

/-- `write_audit`; its flush writes what else is pending too. -/
def writeAudit (rt : Runtime) (entry : AuditEntry) : Endpoint Unit := do
  let sequence ← Exec.gets fun c => nextSequence c.audits
  let previous ← Exec.gets fun c => latestHash c.audits
  let id ← service (draw (newId rt "aud"))
  let timestamp ← service (draw (utcnow rt))
  service flush
  insertAudit (newRecord id timestamp.isoformat sequence previous entry)

/-- A request as `get_db` runs it: commit (which flushes) after a normal return, roll back after an
exception. Ids and clock readings that were used stay used. -/
def getDb {α : Type} (m : Endpoint α) : Endpoint α := fun c =>
  match (m >>= fun a => service flush >>= fun _ => pure a) c with
  | (.ok a, c') => (.ok a, c')
  | (.error e, c') => (.error e, { c with ticks := c'.ticks })

/-- The exits of a request: it fails and the database is as before, or what it did is committed. -/
theorem getDb_cases {α : Type} (m : Endpoint α) (c : Center) :
    (∃ e t, getDb m c = (.error e, { c with ticks := t })) ∨
    ∃ a c₁ c', m c = (.ok a, c₁) ∧ service flush c₁ = (.ok (), c') ∧ getDb m c = (.ok a, c') := by
  unfold getDb
  rw [Exec.bind_run]
  rcases hrun : m c with ⟨⟨e⟩ | ⟨a⟩, c₁⟩
  · exact .inl ⟨e, c₁.ticks, rfl⟩
  · simp only [Exec.andThen, Exec.bind_run]
    rcases hflush : service flush c₁ with ⟨⟨e⟩ | ⟨u⟩, c'⟩
    · exact .inl ⟨e, c'.ticks, rfl⟩
    · exact .inr ⟨a, c₁, c', rfl, hflush, rfl⟩

/-- A request raises what its work raises, or what the database does at the commit. -/
theorem getDb_error {α : Type} {m : Endpoint α} {c : Center} {e : CenterFailure}
    (h : (getDb m c).1 = .error e) : (∃ c', m c = (.error e, c')) ∨ ∃ f, e = .service f := by
  unfold getDb at h
  rw [Exec.bind_run] at h
  rcases hrun : m c with ⟨⟨e'⟩ | ⟨a⟩, c₁⟩
  · rw [hrun] at h
    obtain rfl := Except.error.inj h
    exact .inl ⟨c₁, rfl⟩
  · rw [hrun] at h
    simp only [Exec.andThen, Exec.bind_run, service, Exec.zoom] at h
    rcases hflush : flush ⟨c₁.session, c₁.ticks⟩ with ⟨⟨f⟩ | ⟨u⟩, w⟩
    · rw [hflush] at h
      exact .inr ⟨f, (Except.error.inj h).symm⟩
    · rw [hflush] at h
      cases h

/-! ### What a service does to the session -/

section

variable {α : Type} {P : Session schema → Prop} {Q : α → Session schema → Prop}
  {E : CenterFailure → Center → Prop}

theorem triple_service {m : Service α}
    (hm : Exec.Triple (fun w => P w.session) m (fun a w => Q a w.session) (fun _ _ => True))
    (hE : ∀ f c, E (.service f) c) :
    Exec.Triple (fun c => P c.session) (service m) (fun a c => Q a c.session) E := by
  refine Exec.triple_zoom (fun c a w hc hrun => ?_) fun c e w _ _ => hE e _
  exact hm.ok (s := ⟨c.session, c.ticks⟩) hc hrun

/-- `write_audit` touches the session by its flush only. -/
theorem triple_writeAudit {I : Session schema → Prop} (rt : Runtime) (entry : AuditEntry)
    (hflush : ∀ s s', I s → s.flush = .ok s' → I s') (hE : ∀ f c, E (.service f) c)
    (hconflict : ∀ c, E .auditConflict c) :
    Exec.Triple (fun c => I c.session) (writeAudit rt entry) (fun _ c => I c.session) E := by
  have hdraw {β : Type} (m : Draw β) : Exec.Triple (fun c => I c.session) (service (draw m))
      (fun _ c => I c.session) E := by
    refine triple_service ?_ hE
    exact triple_draw (fun _ _ _ hw _ => hw) fun _ _ _ _ _ => trivial
  have hread {β : Type} (f : Center → β) : Exec.Triple (fun c => I c.session)
      (Exec.gets f : Endpoint β) (fun _ c => I c.session) E := Exec.triple_gets fun _ hc => hc
  refine Exec.triple_bind (hread _) fun sequence => ?_
  refine Exec.triple_bind (hread _) fun previous => ?_
  refine Exec.triple_bind (hdraw _) fun id => ?_
  refine Exec.triple_bind (hdraw _) fun timestamp => ?_
  refine Exec.triple_bind (Q := fun _ c => I c.session) ?_ fun _ => ?_
  · refine triple_service ?_ hE
    exact triple_flush (fun w s hw hs => hflush w.session s hw hs) fun _ _ _ _ => trivial
  · constructor
    intro c hc
    unfold insertAudit
    split
    · rename_i heq
      split at heq
      · cases heq
      · cases heq
        exact hc
    · rename_i heq
      split at heq
      · cases heq
        exact hconflict _
      · cases heq

end

/-! ### What a program does to the audit log -/

section

variable {α β : Type} {tenantId : String} {p : AuditLog → Prop}

/-- The program leaves a part of the database as it is. -/
def Leaves {γ : Type} (part : Center → γ) (m : Endpoint α) : Prop :=
  ∀ c, part (m c).2 = part c

/-- What the program adds to the audit log where it returns. -/
def Appends (p : AuditLog → Prop) (m : Endpoint α) : Prop :=
  ∀ c a c', m c = (.ok a, c') → ∃ rows, c'.audits = c.audits ++ rows ∧ ∃ row ∈ rows, p row

/-- The program only adds to the audit log. -/
def AppendOnly (m : Endpoint α) : Prop :=
  ∀ c, c.audits <+: (m c).2.audits

section

variable {γ : Type} {part : Center → γ}

theorem leaves_pure (a : α) : Leaves part (pure a : Endpoint α) :=
  fun _ => rfl

theorem leaves_gets (f : Center → α) : Leaves part (Exec.gets f : Endpoint α) :=
  fun _ => rfl

theorem leaves_raise (e : CenterFailure) : Leaves part (Exec.raise e : Endpoint α) :=
  fun _ => rfl

theorem leaves_attempt {m : Endpoint α} (h : Leaves part m) : Leaves part (Exec.attempt m) :=
  h

theorem leaves_bind {m : Endpoint α} {f : α → Endpoint β} (hm : Leaves part m)
    (hf : ∀ a, Leaves part (f a)) : Leaves part (m >>= f) := by
  intro c
  have hfirst := hm c
  rw [Exec.bind_run]
  rcases hrun : m c with ⟨⟨e⟩ | ⟨a⟩, c₁⟩
  · rw [hrun] at hfirst
    exact hfirst
  · rw [hrun] at hfirst
    exact (hf a c₁).trans hfirst

/-- A part that is none of the services'. -/
theorem leaves_service
    (hpart : ∀ (c : Center) (w : World),
      part { c with session := w.session, ticks := w.ticks } = part c)
    (m : Service α) : Leaves part (service m) :=
  fun c => hpart c (m ⟨c.session, c.ticks⟩).2

theorem service_leaves_audits (m : Service α) : Leaves Center.audits (service m) :=
  leaves_service (fun _ _ => rfl) m

/-- A part that is neither the services' nor the audit log. -/
theorem leaves_writeAudit
    (hpart : ∀ (c : Center) (w : World),
      part { c with session := w.session, ticks := w.ticks } = part c)
    (haudits : ∀ (c : Center) (rows : List AuditLog), part { c with audits := rows } = part c)
    (rt : Runtime) (entry : AuditEntry) : Leaves part (writeAudit rt entry) := by
  refine leaves_bind (leaves_gets _) fun sequence => ?_
  refine leaves_bind (leaves_gets _) fun previous => ?_
  refine leaves_bind (leaves_service hpart _) fun id => ?_
  refine leaves_bind (leaves_service hpart _) fun timestamp => ?_
  refine leaves_bind (leaves_service hpart _) fun _ => ?_
  intro c
  unfold insertAudit
  split
  · rfl
  · exact haudits c _

end

theorem leaves_ruleService (m : RuleService α) : Leaves Center.audits (ruleService m) :=
  fun _ => rfl

theorem Leaves.appendOnly {m : Endpoint α} (h : Leaves Center.audits m) : AppendOnly m := by
  intro c
  rw [h c]

/-- What comes after an append keeps it. -/
theorem Appends.bind {m : Endpoint α} {f : α → Endpoint β} (hm : Appends p m)
    (hf : ∀ a, AppendOnly (f a)) : Appends p (m >>= f) := by
  intro c b c' h
  obtain ⟨a, c₁, ha, hb⟩ := Exec.ok_of_bind h
  obtain ⟨rows, hrows, row, hrow, hp⟩ := hm c a c₁ ha
  obtain ⟨more, hmore⟩ := hf a c₁
  rw [hb] at hmore
  have hmore : c₁.audits ++ more = c'.audits := hmore
  refine ⟨rows ++ more, ?_, row, List.mem_append_left _ hrow, hp⟩
  rw [← hmore, hrows, List.append_assoc]

/-- What comes before an append leaves it possible. -/
theorem appends_bind {m : Endpoint α} {f : α → Endpoint β} (hm : AppendOnly m)
    (hf : ∀ a, Appends p (f a)) : Appends p (m >>= f) := by
  intro c b c' h
  obtain ⟨a, c₁, ha, hb⟩ := Exec.ok_of_bind h
  obtain ⟨rows, hrows, row, hrow, hp⟩ := hf a c₁ b c' hb
  obtain ⟨before, hbefore⟩ := hm c
  rw [ha] at hbefore
  have hbefore : c.audits ++ before = c₁.audits := hbefore
  refine ⟨before ++ rows, ?_, row, List.mem_append_right _ hrow, hp⟩
  rw [hrows, ← hbefore, List.append_assoc]

end

/-! ### The chain of the audit log -/

/-- What an entry looks like in the log. -/
structure Logs (entry : AuditEntry) (row : AuditLog) : Prop where
  tenantId : row.tenantId = entry.tenantId
  actorId : row.actorId = entry.actorId
  requestId : row.requestId = entry.requestId
  action : row.action = entry.action
  result : row.result = entry.result

theorem logs_newRecord (id timestamp : String) (sequence : Int) (previous : String)
    (entry : AuditEntry) : Logs entry (newRecord id timestamp sequence previous entry) :=
  ⟨rfl, rfl, rfl, rfl, rfl⟩

/-- The exits of `write_audit`: it raises and leaves the log as it is, or adds the next record. -/
theorem writeAudit_cases (rt : Runtime) (entry : AuditEntry) (c : Center) :
    (∃ e c', writeAudit rt entry c = (.error e, c') ∧ c'.audits = c.audits) ∨
    ∃ id timestamp c', writeAudit rt entry c = (.ok (), c') ∧ c'.audits = c.audits ++
      [newRecord id timestamp (nextSequence c.audits) (latestHash c.audits) entry] := by
  let id := "aud_" ++ rt.uuid4 c.ticks.uuids
  let timestamp := (rt.now c.ticks.readings).isoformat
  let ticks : Ticks := { uuids := c.ticks.uuids + 1, readings := c.ticks.readings + 1 }
  let record := newRecord id timestamp (nextSequence c.audits) (latestHash c.audits) entry
  have hrun : writeAudit rt entry c =
      Exec.andThen (fun _ => insertAudit record) (service flush { c with ticks := ticks }) := rfl
  rw [hrun]
  rcases hflush : service flush { c with ticks := ticks } with ⟨⟨e⟩ | ⟨u⟩, c₁⟩
  · refine .inl ⟨e, c₁, rfl, ?_⟩
    have hsame := service_leaves_audits flush { c with ticks := ticks }
    rw [hflush] at hsame
    exact hsame
  · have hsame := service_leaves_audits flush { c with ticks := ticks }
    rw [hflush] at hsame
    have hsame : c₁.audits = c.audits := hsame
    simp only [Exec.andThen, insertAudit]
    split
    · exact .inl ⟨_, c₁, rfl, hsame⟩
    · refine .inr ⟨id, timestamp, _, rfl, ?_⟩
      rw [hsame]

/-- Where `write_audit` returns, there is a row for its entry. -/
theorem appends_writeAudit (rt : Runtime) (entry : AuditEntry) :
    Appends (Logs entry) (writeAudit rt entry) := by
  intro c a c' h
  rcases writeAudit_cases rt entry c with ⟨e, c₁, hrun, -⟩ | ⟨id, timestamp, c₁, hrun, hrows⟩
  · rw [h] at hrun
    cases hrun
  · rw [h] at hrun
    obtain ⟨-, rfl⟩ := Prod.mk.inj hrun
    exact ⟨_, hrows, _, List.mem_singleton_self _, logs_newRecord _ _ _ _ _⟩

/-- A log that is a chain stays one. -/
theorem writeAudit_chain (rt : Runtime) (entry : AuditEntry) {c : Center} (h : Chain c.audits) :
    Chain (writeAudit rt entry c).2.audits := by
  rcases writeAudit_cases rt entry c with ⟨e, c', hrun, hsame⟩ | ⟨id, timestamp, c', hrun, hrows⟩
  · rw [hrun]
    show Chain c'.audits
    rw [hsame]
    exact h
  · rw [hrun]
    show Chain c'.audits
    rw [hrows, h.nextSequence_eq, h.latestHash_eq]
    exact h.concat id timestamp entry

end BlueTeam.Api
