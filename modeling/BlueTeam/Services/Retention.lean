/- GID: BlueTeam/Services/Retention
   generality: I
   source: packages/dataplane-clients/blueteam_dataplane/retention.py
   digest: What retention deletes, and which references lose their end by it. -/

import BlueTeam.Services.Evidence
import BlueTeam.Services.Integrity

set_option autoImplicit false
set_option relaxedAutoImplicit false

namespace BlueTeam.Services

open BlueTeam.Python BlueTeam.Schema BlueTeam.Lib BlueTeam.Lib.Exec

structure RetentionPolicy where
  eventsDays : Nat := 90
  deadLetterDays : Nat := 30
  findingsDays : Nat := 365
  deriving DecidableEq, Repr

structure RetentionCounts where
  eventsDeleted : Nat
  deadLetterDeleted : Nat
  findingsDeleted : Nat
  deriving DecidableEq, Repr

/-- `delete(t).where(t.tenant_id == tenant_id, ...)`: the number of the rows that go. -/
def deleteWhere (t : Table) (tenantId : String) (p : t.Row → Bool) : Service Nat := do
  let rows ← select t tenantId p
  Exec.modify fun w =>
    { w with session := w.session.delete t fun r => Table.tenantId r = tenantId && p r }
  pure rows.length

/-- `now - timedelta(days=days)` -/
def daysBefore (now : DateTime) (days : Nat) : Except Exn DateTime :=
  now.before (86400 * days)

def applyRetention (rt : Runtime) (tenantId : String) (policy : RetentionPolicy) :
    Service RetentionCounts := do
  let now ← draw (utcnow rt)
  let eventsFrom ← compute (daysBefore now policy.eventsDays)
  let events ← deleteWhere .events tenantId fun r => r.ingestedAt.wall < eventsFrom.wall
  let deadLettersFrom ← compute (daysBefore now policy.deadLetterDays)
  let deadLetters ← deleteWhere .deadLetters tenantId
    fun r => r.createdAt.wall < deadLettersFrom.wall
  let findingsFrom ← compute (daysBefore now policy.findingsDays)
  let findings ← deleteWhere .findings tenantId fun r => r.createdAt.wall < findingsFrom.wall
  flush
  pure
    { eventsDeleted := events
      deadLetterDeleted := deadLetters
      findingsDeleted := findings }

/-! ### What it deletes -/

/-- A row's clock is past its age. -/
def aged (now : DateTime) (days : Nat) (clock : DateTime) : Bool :=
  clock.wall < now.wall - days * DateTime.day

/-- The rows that retention takes from a table. -/
def doomed (policy : RetentionPolicy) (now : DateTime) : (t : Table) → t.Row → Bool
  | .events, r => aged now policy.eventsDays (SecurityEvent.ingestedAt r)
  | .deadLetters, r => aged now policy.deadLetterDays (DeadLetterEvent.createdAt r)
  | .findings, r => aged now policy.findingsDays (FindingRecord.createdAt r)
  | _, _ => false

/-- A database after retention: the tenant's doomed rows are gone, and nothing else. -/
def Pruned (tenantId : String) (policy : RetentionPolicy) (now : DateTime) (w w' : World) : Prop :=
  ∀ t, w'.session.stored t =
    (w.session.stored t).filter fun r => !(Table.tenantId r = tenantId && doomed policy now t r)

theorem daysBefore_wall {now early : DateTime} {days : Nat} (h : daysBefore now days = .ok early) :
    early.wall = now.wall - days * DateTime.day := by
  unfold daysBefore DateTime.before at h
  split at h
  · cases h
  · obtain rfl := Except.ok.inj h
    unfold DateTime.day DateTime.hour DateTime.minute DateTime.second
    push_cast
    omega

/-- The session without the tenant's doomed rows of a table. -/
def drop (tenantId : String) (policy : RetentionPolicy) (now : DateTime) (t : Table)
    (s : Session schema) : Session schema :=
  s.delete t fun r => Table.tenantId r = tenantId && doomed policy now t r

/-- The session after the three deletes. -/
def pruned (tenantId : String) (policy : RetentionPolicy) (now : DateTime) (s : Session schema) :
    Session schema :=
  drop tenantId policy now .findings
    (drop tenantId policy now .deadLetters (drop tenantId policy now .events s))

theorem pruned_stored (tenantId : String) (policy : RetentionPolicy) (now : DateTime)
    (s : Session schema) (t : Table) : (pruned tenantId policy now s).stored t =
      (s.stored t).filter fun r => !(Table.tenantId r = tenantId && doomed policy now t r) := by
  have hkept (rows : List t.Row) (h : ∀ r : t.Row, doomed policy now t r = false) :
      rows.filter (fun r => !(Table.tenantId r = tenantId && doomed policy now t r)) = rows := by
    refine List.filter_eq_self.mpr fun r _ => ?_
    rw [h r, Bool.and_false, Bool.not_false]
  unfold pruned drop
  cases t with
  | findings =>
      rw [Session.delete_stored_self (S := schema)]
      rw [Session.delete_stored_of_ne (S := schema) _ (by decide)]
      rw [Session.delete_stored_of_ne (S := schema) _ (by decide)]
  | deadLetters =>
      rw [Session.delete_stored_of_ne (S := schema) _ (by decide)]
      rw [Session.delete_stored_self (S := schema)]
      rw [Session.delete_stored_of_ne (S := schema) _ (by decide)]
  | events =>
      rw [Session.delete_stored_of_ne (S := schema) _ (by decide)]
      rw [Session.delete_stored_of_ne (S := schema) _ (by decide)]
      rw [Session.delete_stored_self (S := schema)]
  | _ =>
      rw [hkept _ fun r => rfl]
      rw [Session.delete_stored_of_ne (S := schema) _ (by decide)]
      rw [Session.delete_stored_of_ne (S := schema) _ (by decide)]
      rw [Session.delete_stored_of_ne (S := schema) _ (by decide)]

theorem deleteWhere_ok {t : Table} {tenantId : String} {p : t.Row → Bool} {w w' : World} {n : Nat}
    (h : deleteWhere t tenantId p w = (.ok n, w')) :
    w' = { w with session := w.session.delete t fun r => Table.tenantId r = tenantId && p r } := by
  cases h
  rfl

theorem compute_ok {α : Type} {r : Except Exn α} {w w' : World} {a : α}
    (h : compute r w = (.ok a, w')) : w' = w ∧ r = .ok a := by
  obtain ⟨hr, rfl⟩ := Prod.mk.inj h
  cases r with
  | error e => cases hr
  | ok b => exact ⟨rfl, congrArg Except.ok (Except.ok.inj hr)⟩

/-- Where retention returns, it has done the three deletes. -/
theorem applyRetention_ok {rt : Runtime} {tenantId : String} {policy : RetentionPolicy}
    {w w' : World} {counts : RetentionCounts} (hw : w.session.pending = [])
    (h : applyRetention rt tenantId policy w = (.ok counts, w')) :
    w'.session = pruned tenantId policy (rt.now w.ticks.readings) w.session := by
  obtain ⟨now, w₁, hnow, h⟩ := ok_of_bind h
  cases hnow
  obtain ⟨eventsFrom, w₂, hcompute, h⟩ := ok_of_bind h
  obtain ⟨rfl, heventsFrom⟩ := compute_ok hcompute
  obtain ⟨events, w₃, hdelete, h⟩ := ok_of_bind h
  obtain rfl := deleteWhere_ok hdelete
  obtain ⟨deadLettersFrom, w₄, hcompute, h⟩ := ok_of_bind h
  obtain ⟨rfl, hdeadLettersFrom⟩ := compute_ok hcompute
  obtain ⟨deadLetters, w₅, hdelete, h⟩ := ok_of_bind h
  obtain rfl := deleteWhere_ok hdelete
  obtain ⟨findingsFrom, w₆, hcompute, h⟩ := ok_of_bind h
  obtain ⟨rfl, hfindingsFrom⟩ := compute_ok hcompute
  obtain ⟨findings, w₇, hdelete, h⟩ := ok_of_bind h
  obtain rfl := deleteWhere_ok hdelete
  obtain ⟨u, w₈, hflush, h⟩ := ok_of_bind h
  have hdone := hflush.symm.trans (flush_run_of_pending_nil (by exact hw))
  cases hdone
  cases h
  simp only [daysBefore_wall heventsFrom, daysBefore_wall hdeadLettersFrom,
    daysBefore_wall hfindingsFrom]
  rfl

/-- Retention raises and changes no row, or it prunes. -/
theorem applyRetention_cases (rt : Runtime) (tenantId : String) (policy : RetentionPolicy)
    {w : World} (hw : w.session.pending = []) :
    (∃ e t, request (applyRetention rt tenantId policy) w =
        (.error e, { w with ticks := t })) ∨
      ∃ counts w', request (applyRetention rt tenantId policy) w = (.ok counts, w') ∧
        Pruned tenantId policy (rt.now w.ticks.readings) w w' := by
  rcases hrun : applyRetention rt tenantId policy w with ⟨⟨e⟩ | ⟨counts⟩, w'⟩
  · left
    refine ⟨e, w'.ticks, ?_⟩
    unfold request
    rw [bind_run, hrun]
    rfl
  · right
    have hsession := applyRetention_ok hw hrun
    have hpending : w'.session.pending = [] := by
      rw [hsession]
      exact hw
    refine ⟨counts, w', request_run_of_pending_nil hrun hpending, ?_⟩
    intro t
    rw [hsession]
    exact pruned_stored _ _ _ _ t

/-! ### What becomes of the references -/

/-- The rows of the tenant that retention leaves. -/
theorem Pruned.mem_rowsOf {tenantId : String} {policy : RetentionPolicy} {now : DateTime}
    {w w' : World} (h : Pruned tenantId policy now w w') {t : Table} {r : t.Row} :
    r ∈ w'.rowsOf t tenantId ↔ r ∈ w.rowsOf t tenantId ∧ doomed policy now t r = false := by
  rw [World.mem_rowsOf, World.mem_rowsOf, h t, List.mem_filter]
  constructor
  · rintro ⟨⟨hr, hkept⟩, hown⟩
    refine ⟨⟨hr, hown⟩, ?_⟩
    simpa [hown] using hkept
  · rintro ⟨⟨hr, hown⟩, hyoung⟩
    exact ⟨⟨hr, by simp [hyoung]⟩, hown⟩

theorem Pruned.under {tenantId : String} {policy : RetentionPolicy} {now : DateTime}
    {w w' : World} (h : Pruned tenantId policy now w w') (t : Table) (id : String) :
    w'.under t tenantId id = (w.under t tenantId id).filter fun r => !doomed policy now t r := by
  unfold World.under
  rw [h t, List.filter_filter, List.filter_filter]
  refine List.filter_congr fun r _ => ?_
  by_cases hown : Table.tenantId r = tenantId
  · simp [hown, Bool.and_comm]
  · simp [hown]

/-- What retention does to the rows of others, to evidence, and to what alerts and findings point
at. -/
structure ReferencesKept (tenantId : String) (policy : RetentionPolicy) (now : DateTime)
    (w w' : World) : Prop where
  others : ∀ (t : Table) (r : t.Row), Table.tenantId r ≠ tenantId → r ∈ w.session.stored t →
    r ∈ w'.session.stored t
  evidence : ∀ evidenceId, Intact tenantId evidenceId w → ∃ row : Evidence,
    w.under .evidence tenantId evidenceId = [row] ∧ (Intact tenantId evidenceId w' ↔
      ∀ event ∈ w.rowsOf .events tenantId, eventOf row.source = some (SecurityEvent.id event) →
        aged now policy.eventsDays event.ingestedAt = false)
  alerts : ∀ a ∈ w'.rowsOf .alerts tenantId,
    (∃ f ∈ w'.rowsOf .findings tenantId, FindingRecord.id f = Alert.findingId a) ↔
      ∃ f ∈ w.rowsOf .findings tenantId, FindingRecord.id f = Alert.findingId a ∧
        aged now policy.findingsDays f.createdAt = false
  findings : ∀ f ∈ w'.rowsOf .findings tenantId, ∀ eventId ∈ FindingRecord.eventIds f,
    (∃ event ∈ w'.rowsOf .events tenantId, SecurityEvent.id event = eventId) ↔
      ∃ event ∈ w.rowsOf .events tenantId, SecurityEvent.id event = eventId ∧
        aged now policy.eventsDays event.ingestedAt = false

theorem Pruned.references {tenantId : String} {policy : RetentionPolicy} {now : DateTime}
    {w w' : World} (h : Pruned tenantId policy now w w') :
    ReferencesKept tenantId policy now w w' where
  others t r hother hr := by
    rw [h t]
    exact List.mem_filter.mpr ⟨hr, by simp [hother]⟩
  evidence evidenceId hintact := by
    obtain ⟨row, hrow⟩ := hintact.found
    have hsources := (intact_iff_of_found hrow).mp hintact
    have hrow' : w'.under .evidence tenantId evidenceId = [row] := by
      rw [h.under, hrow]
      rfl
    refine ⟨row, hrow, ?_⟩
    rw [intact_iff_of_found hrow']
    constructor
    · intro hafter event hevent hsource
      obtain ⟨left, hleft, -⟩ := hafter _ hsource
      obtain ⟨only, honly, -⟩ := hsources _ hsource
      have hunder : event ∈ w.under .events tenantId event.id := World.mem_under.mpr ⟨hevent, rfl⟩
      have hmem : left ∈ w'.under .events tenantId event.id := by
        rw [hleft]
        exact List.mem_singleton_self _
      rw [honly] at hunder
      rw [h.under, honly, List.mem_filter] at hmem
      obtain rfl := List.mem_singleton.mp hunder
      obtain ⟨hsame, hkept⟩ := hmem
      obtain rfl := List.mem_singleton.mp hsame
      simpa [doomed] using hkept
    · intro hyoung eventId hsource
      obtain ⟨event, hevent, hhash⟩ := hsources eventId hsource
      refine ⟨event, ?_, hhash⟩
      have hunder : event ∈ w.under .events tenantId eventId := by
        rw [hevent]
        exact List.mem_singleton_self _
      obtain ⟨hown, rfl⟩ := World.mem_under.mp hunder
      have hkept : doomed policy now .events event = false := hyoung event hown hsource
      rw [h.under, hevent, List.filter_cons_of_pos (by simp [hkept])]
      rfl
  alerts a _ := by
    constructor
    · rintro ⟨f, hf, hid⟩
      obtain ⟨hbefore, hyoung⟩ := h.mem_rowsOf.mp hf
      exact ⟨f, hbefore, hid, hyoung⟩
    · rintro ⟨f, hf, hid, hyoung⟩
      exact ⟨f, h.mem_rowsOf.mpr ⟨hf, hyoung⟩, hid⟩
  findings f _ eventId _ := by
    constructor
    · rintro ⟨event, hevent, hid⟩
      obtain ⟨hbefore, hyoung⟩ := h.mem_rowsOf.mp hevent
      exact ⟨event, hbefore, hid, hyoung⟩
    · rintro ⟨event, hevent, hid, hyoung⟩
      exact ⟨event, h.mem_rowsOf.mpr ⟨hevent, hyoung⟩, hid⟩

/-- After ingestion and detection alone, an alert that is left without its finding has lost it to
the age of the finding, and a finding without one of its events to the age of the event. -/
theorem retention_after_calls (rt : Runtime) (tenantId : String) (policy : RetentionPolicy)
    {w₀ : World} (hw₀ : Blank tenantId w₀) (calls : List Call) {now : DateTime} {w' : World}
    (h : Pruned tenantId policy now (runCalls rt tenantId w₀ calls) w') :
    (∀ a ∈ w'.rowsOf .alerts tenantId, ∃ f ∈ (runCalls rt tenantId w₀ calls).rowsOf .findings
      tenantId, FindingRecord.id f = Alert.findingId a ∧
        (f ∈ w'.rowsOf .findings tenantId ↔ aged now policy.findingsDays f.createdAt = false)) ∧
    ∀ f ∈ w'.rowsOf .findings tenantId, ∀ eventId ∈ FindingRecord.eventIds f,
      ∃ event ∈ (runCalls rt tenantId w₀ calls).rowsOf .events tenantId,
        SecurityEvent.id event = eventId ∧ (event ∈ w'.rowsOf .events tenantId ↔
          aged now policy.eventsDays event.ingestedAt = false) := by
  obtain ⟨hquiet, hpending⟩ := runCalls_quiet rt tenantId calls hw₀.quiet hw₀.committed
  have hstore := hquiet.integrity hpending
  constructor
  · intro a ha
    have hone := hstore.grounded a (h.mem_rowsOf.mp ha).1
    obtain ⟨f, hf⟩ := List.exists_mem_of_length_pos (by rw [hone]; exact Nat.one_pos)
    obtain ⟨hmem, hid⟩ := List.mem_filter.mp hf
    refine ⟨f, hmem, of_decide_eq_true hid, ?_⟩
    rw [h.mem_rowsOf]
    exact ⟨fun hyoung => hyoung.2, fun hyoung => ⟨hmem, hyoung⟩⟩
  · intro f hf eventId heventId
    have hall := hstore.evidence f (h.mem_rowsOf.mp hf).1
    obtain ⟨i, hi, rfl⟩ := List.getElem_of_mem heventId
    obtain ⟨-, event, hevent, hid⟩ := hall.get hi (by rw [← hall.length_eq]; exact hi)
    refine ⟨event, hevent, hid, ?_⟩
    rw [h.mem_rowsOf]
    exact ⟨fun hyoung => hyoung.2, fun hyoung => ⟨hevent, hyoung⟩⟩

/-! ### Samples -/

/-- An event of seven weeks ago, with the findings it made. -/
def detectedWorld : World :=
  runCalls sampleRuntime "ten_a" emptyWorld [.ingest "usr_1" [officePayload]]

def monthlyEvents : RetentionPolicy where
  eventsDays := 30

end BlueTeam.Services
