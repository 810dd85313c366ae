/- GID: BlueTeam/Services/Interleaving
   generality: I
   source: services/api/app/services/incidents.py, services/api/app/core/db.py
   digest: Requests on one incident that load and commit in any order, and what is lost. -/

import BlueTeam.Services.Custody
import Mathlib.Logic.Function.Basic

set_option autoImplicit false
set_option relaxedAutoImplicit false

namespace BlueTeam.Services

open BlueTeam.Python BlueTeam.Schema BlueTeam.Lib

/-- A request that has loaded its rows and not committed; `seen` counts the commits before that. -/
structure OpenEdit where
  edit : Edit
  seen : Nat

/-- A request that has committed. -/
structure CommittedCall where
  op : IncidentOp
  edit : Edit

/-- The committed rows, the requests that are open, and the commits so far. -/
structure Desk (ι : Type) where
  world : World
  opened : ι → Option OpenEdit := fun _ => none
  commits : List CommittedCall := []

/-- Without a lock on the row, a request loads the rows that are committed at that time and
replaces whole columns when it commits. -/
inductive DeskStep (ι : Type)
  | load (i : ι)
  | commit (i : ι)
  deriving DecidableEq, Repr

variable {ι : Type} [DecidableEq ι]

def Desk.step (rt : Runtime) (requests : ι → IncidentRequest) (d : Desk ι) : DeskStep ι → Desk ι
  | .load i =>
      match d.opened i with
      | some _ => d
      | none =>
          match (requests i).load rt d.world with
          | (.ok edit, w) =>
              { d with
                world := w
                opened := Function.update d.opened i (some ⟨edit, d.commits.length⟩) }
          | (.error _, w) => { d with world := w }
  | .commit i =>
      match d.opened i with
      | none => d
      | some o =>
          { world := { d.world with session := o.edit.apply d.world.session }
            opened := Function.update d.opened i none
            commits := d.commits ++ [⟨(requests i).op, o.edit⟩] }

/-- No other request has committed since the committing one loaded. -/
def Fresh (d : Desk ι) : DeskStep ι → Prop
  | .load _ => True
  | .commit i => ∀ o, d.opened i = some o → o.seen = d.commits.length

/-- The row of an incident. -/
def World.incident? (w : World) (incidentId : String) : Option IncidentRecord :=
  (w.session.stored .incidents).find? fun r => IncidentRecord.id r = incidentId

/-- What an edit appended to a list. -/
def appended (loaded changed : List Json) : List Json :=
  changed.drop loaded.length

/-- Nothing of what a committed request added is missing. -/
structure StillThere (r : IncidentRecord) (c : CommittedCall) : Prop where
  timeline : ∀ event ∈ appended c.edit.loaded.timeline c.edit.changed.timeline, event ∈ r.timeline
  notes : ∀ note ∈ appended c.edit.loaded.notes c.edit.changed.notes, note ∈ r.notes
  tasks : ∀ task ∈ appended c.edit.loaded.tasks c.edit.changed.tasks, task ∈ r.tasks
  evidence : ∀ evidenceId, c.op = .linkEvidence evidenceId → evidenceId ∈ r.evidenceIds

/-- The timeline has one entry more for each commit, and everything that was added is there. -/
structure HistoryKept (r₀ r : IncidentRecord) (commits : List CommittedCall) : Prop where
  entries : r.timeline.length = r₀.timeline.length + commits.length
  present : ∀ c ∈ commits, StillThere r c

/-! ### One step -/

theorem IncidentGrown.present {r r' : IncidentRecord} (h : IncidentGrown r r') {c : CommittedCall}
    (hc : StillThere r c) : StillThere r' c where
  timeline event hevent := h.timeline.subset (hc.timeline event hevent)
  notes note hnote := h.notes.subset (hc.notes note hnote)
  tasks task htask := h.tasks.subset (hc.tasks task htask)
  evidence evidenceId hop := h.evidenceIds.subset (hc.evidence evidenceId hop)

/-- How the desk stands to the row the run began with. -/
structure Racing (requests : ι → IncidentRequest) (incidentId : String) (r₀ : IncidentRecord)
    (d : Desk ι) (r : IncidentRecord) : Prop where
  keys : ((d.world.session.stored .incidents).map IncidentRecord.id).Nodup
  row : d.world.incident? incidentId = some r
  entries : r.timeline.length ≤ r₀.timeline.length + d.commits.length
  present : r.timeline.length = r₀.timeline.length + d.commits.length →
    ∀ c ∈ d.commits, StillThere r c
  opened : ∀ i o, d.opened i = some o →
    o.seen ≤ d.commits.length ∧ o.edit.loaded.id = incidentId ∧
    (∃ s, Edits s o.edit.loaded (requests i).op o.edit) ∧
    o.edit.loaded.timeline.length ≤ r₀.timeline.length + o.seen ∧
    (o.seen = d.commits.length → o.edit.loaded = r)

section Steps

variable {rt : Runtime} {requests : ι → IncidentRequest} {incidentId : String}
  {r₀ r : IncidentRecord} {d : Desk ι}

theorem incident?_mem {w : World} (h : w.incident? incidentId = some r) :
    r ∈ w.session.stored .incidents ∧ r.id = incidentId := by
  refine ⟨List.mem_of_find?_eq_some h, ?_⟩
  simpa using List.find?_some h

/-- The row of an incident after an edit of that incident is saved. -/
theorem incident?_apply {w : World} {edit : Edit} {t : Ticks}
    (hid : edit.loaded.id = incidentId) (h : w.incident? incidentId = some r) :
    World.incident? ⟨edit.apply w.session, t⟩ incidentId =
      some (flushIncident edit.loaded edit.changed r) := by
  unfold World.incident? at h ⊢
  rw [edit.apply_incidents, List.find?_map]
  have hsame : ((fun r : IncidentRecord => decide (r.id = incidentId)) ∘ fun r =>
      if r.id = edit.loaded.id then flushIncident edit.loaded edit.changed r else r) =
      fun r => decide (r.id = incidentId) := by
    funext x
    show decide (IncidentRecord.id (if x.id = edit.loaded.id then _ else x) = incidentId) = _
    split
    · rfl
    · rfl
  rw [hsame, h]
  have hr : r.id = edit.loaded.id := (incident?_mem (w := w) h).2.trans hid.symm
  show some (if r.id = edit.loaded.id then flushIncident edit.loaded edit.changed r else r) = _
  rw [if_pos hr]

/-- A load changes no row, and opens the request at most on the row as it is. -/
theorem Racing.load (h : Racing requests incidentId r₀ d r) (rt : Runtime)
    (hsame : ∀ i, (requests i).incidentId = incidentId) (i : ι) :
    Racing requests incidentId r₀ (d.step rt requests (.load i)) r ∧
      (d.step rt requests (.load i)).commits = d.commits := by
  unfold Desk.step
  dsimp only
  split
  · exact ⟨h, rfl⟩
  · have hload := (load_reads rt d.world.session (requests i)).run d.world rfl
    split
    · rename_i edit w hrun
      rw [hrun] at hload
      obtain ⟨hsession, incident, hmem, -, hid, hedit⟩ := hload
      have hincident : incident = r := by
        obtain ⟨hr, hrid⟩ := incident?_mem h.row
        apply eq_of_mem_of_key h.keys hmem hr
        rw [hid, hsame i, hrid]
      refine ⟨⟨?_, ?_, h.entries, h.present, ?_⟩, rfl⟩
      · show ((w.session.stored .incidents).map IncidentRecord.id).Nodup
        rw [hsession]
        exact h.keys
      · show w.incident? incidentId = some r
        unfold World.incident?
        rw [hsession]
        exact h.row
      · intro j o ho
        by_cases hij : j = i
        · subst hij
          change Function.update d.opened j (some ⟨edit, d.commits.length⟩) j = some o at ho
          rw [Function.update_self] at ho
          obtain rfl := Option.some.inj ho
          have hloaded : edit.loaded = r := hedit.loaded.trans hincident
          refine ⟨le_rfl, ?_, ⟨d.world.session, ?_⟩, ?_, fun _ => hloaded⟩
          · show edit.loaded.id = incidentId
            rw [hloaded]
            exact (incident?_mem h.row).2
          · show Edits d.world.session edit.loaded (requests j).op edit
            rw [hedit.loaded]
            exact hedit
          · show edit.loaded.timeline.length ≤ _
            rw [hloaded]
            exact h.entries
        · change Function.update d.opened i (some ⟨edit, d.commits.length⟩) j = some o at ho
          rw [Function.update_of_ne hij] at ho
          exact h.opened j o ho
    · rename_i e w hrun
      rw [hrun] at hload
      have hsession : w.session = d.world.session := hload
      refine ⟨⟨?_, ?_, h.entries, h.present, h.opened⟩, rfl⟩
      · show ((w.session.stored .incidents).map IncidentRecord.id).Nodup
        rw [hsession]
        exact h.keys
      · show w.incident? incidentId = some r
        unfold World.incident?
        rw [hsession]
        exact h.row

/-- The row has an entry for each commit since the run began. -/
def Entire (r₀ r : IncidentRecord) (d : Desk ι) : Prop :=
  r.timeline.length = r₀.timeline.length + d.commits.length

theorem step_commit_of_none (rt : Runtime) {i : ι} (h : d.opened i = none) :
    d.step rt requests (.commit i) = d := by
  unfold Desk.step
  dsimp only
  rw [h]

theorem step_commit_of_some (rt : Runtime) {i : ι} {o : OpenEdit} (h : d.opened i = some o) :
    d.step rt requests (.commit i) =
      { world := { d.world with session := o.edit.apply d.world.session }
        opened := Function.update d.opened i none
        commits := d.commits ++ [⟨(requests i).op, o.edit⟩] } := by
  unfold Desk.step
  dsimp only
  rw [h]

omit [DecidableEq ι] in
theorem fresh_commit_iff {i : ι} {o : OpenEdit} (h : d.opened i = some o) :
    Fresh d (.commit i) ↔ o.seen = d.commits.length := by
  constructor
  · intro hall
    exact hall o h
  · intro hseen other hother
    rw [h] at hother
    obtain rfl := Option.some.inj hother
    exact hseen

/-- An edit keeps the ids of the incidents. -/
theorem apply_incident_ids (edit : Edit) (s : Session schema) :
    ((edit.apply s).stored .incidents).map IncidentRecord.id =
      (s.stored .incidents).map IncidentRecord.id := by
  rw [edit.apply_incidents, List.map_map]
  apply List.map_congr_left
  intro x _
  show IncidentRecord.id (if x.id = edit.loaded.id then _ else x) = x.id
  split
  · rfl
  · rfl

omit [DecidableEq ι] in
/-- A commit writes the timeline of the loaded row with one more entry. -/
theorem Racing.flushed_length (h : Racing requests incidentId r₀ d r) {i : ι} {o : OpenEdit}
    (ho : d.opened i = some o) :
    (flushIncident o.edit.loaded o.edit.changed r).timeline.length =
      o.edit.loaded.timeline.length + 1 := by
  obtain ⟨-, -, ⟨s, hedit⟩, -⟩ := h.opened i o ho
  obtain ⟨event, hevent⟩ := hedit.timeline
  have htimeline : (flushIncident o.edit.loaded o.edit.changed r).timeline =
      o.edit.loaded.timeline ++ [event] := by
    show column o.edit.loaded.timeline o.edit.changed.timeline r.timeline = _
    unfold column
    rw [hevent, if_neg (by simp)]
  rw [htimeline, List.length_append, List.length_singleton]

omit [DecidableEq ι] in
/-- All entries are there after a commit exactly if all were there before it and the loaded row was
the current one. -/
theorem Racing.flushed_entire_iff (h : Racing requests incidentId r₀ d r) {i : ι} {o : OpenEdit}
    (ho : d.opened i = some o) :
    (flushIncident o.edit.loaded o.edit.changed r).timeline.length =
        r₀.timeline.length + (d.commits.length + 1) ↔
      Entire r₀ r d ∧ Fresh d (.commit i) := by
  obtain ⟨hseen, -, -, hle, hcurrent⟩ := h.opened i o ho
  rw [h.flushed_length ho, fresh_commit_iff ho]
  unfold Entire
  constructor
  · intro hfull
    have hfresh : o.seen = d.commits.length := by omega
    refine ⟨?_, hfresh⟩
    rw [← hcurrent hfresh]
    omega
  · rintro ⟨hfull, hfresh⟩
    rw [hcurrent hfresh, hfull]
    omega

omit [DecidableEq ι] in
/-- An edit of the current row extends it, so that nothing of the earlier edits is lost. -/
theorem Racing.flushed_present (h : Racing requests incidentId r₀ d r) {i : ι} {o : OpenEdit}
    (ho : d.opened i = some o) (hbefore : Entire r₀ r d) (hfresh : Fresh d (.commit i)) :
    ∀ c ∈ d.commits ++ [⟨(requests i).op, o.edit⟩],
      StillThere (flushIncident o.edit.loaded o.edit.changed r) c := by
  obtain ⟨-, -, ⟨s, hedit⟩, -, hcurrent⟩ := h.opened i o ho
  have hloaded := hcurrent ((fresh_commit_iff ho).mp hfresh)
  have hgrown := hedit.incident_grown
  rw [hloaded] at hgrown
  intro c hc
  rcases List.mem_append.mp hc with hc | hc
  · rw [hloaded]
    exact hgrown.present (h.present hbefore c hc)
  · obtain rfl := List.mem_singleton.mp hc
    rw [← hloaded, hedit.flushed]
    refine ⟨?_, ?_, ?_, hedit.linked⟩
    · exact fun event hevent => List.mem_of_mem_drop hevent
    · exact fun note hnote => List.mem_of_mem_drop hnote
    · exact fun task htask => List.mem_of_mem_drop htask

theorem Racing.commit (h : Racing requests incidentId r₀ d r) (rt : Runtime) {i : ι}
    {o : OpenEdit} (ho : d.opened i = some o) :
    Racing requests incidentId r₀ (d.step rt requests (.commit i))
      (flushIncident o.edit.loaded o.edit.changed r) := by
  obtain ⟨hseen, hid, -, hle, -⟩ := h.opened i o ho
  have hiff := h.flushed_entire_iff ho
  rw [step_commit_of_some rt ho]
  constructor
  · show (((o.edit.apply d.world.session).stored .incidents).map IncidentRecord.id).Nodup
    rw [apply_incident_ids]
    exact h.keys
  · exact incident?_apply hid h.row
  · show (flushIncident o.edit.loaded o.edit.changed r).timeline.length ≤ _
    rw [h.flushed_length ho, List.length_append, List.length_singleton]
    omega
  · intro hfull
    rw [List.length_append, List.length_singleton] at hfull
    obtain ⟨hbefore, hfresh⟩ := hiff.mp hfull
    exact h.flushed_present ho hbefore hfresh
  · intro j other hother
    by_cases hij : j = i
    · subst hij
      change Function.update d.opened j none j = some other at hother
      rw [Function.update_self] at hother
      cases hother
    · change Function.update d.opened i none j = some other at hother
      rw [Function.update_of_ne hij] at hother
      obtain ⟨hseen', hid', hedit', hle', -⟩ := h.opened j other hother
      rw [List.length_append, List.length_singleton]
      refine ⟨by omega, hid', hedit', hle', ?_⟩
      intro hlate
      omega

/-- After a step all entries are there exactly if they were before it, and a commit was of the
current row. -/
theorem Racing.step (h : Racing requests incidentId r₀ d r) (rt : Runtime)
    (hsame : ∀ i, (requests i).incidentId = incidentId) (step : DeskStep ι) :
    ∃ r', Racing requests incidentId r₀ (d.step rt requests step) r' ∧
      (Entire r₀ r' (d.step rt requests step) ↔ Entire r₀ r d ∧ Fresh d step) := by
  cases step with
  | load i =>
      obtain ⟨hstep, hcommits⟩ := h.load rt hsame i
      refine ⟨r, hstep, ?_⟩
      unfold Entire
      rw [hcommits]
      exact (and_iff_left trivial).symm
  | commit i =>
      cases ho : d.opened i with
      | none =>
          have hfresh : Fresh d (.commit i) := by
            intro o hopen
            rw [ho] at hopen
            cases hopen
          rw [step_commit_of_none rt ho]
          exact ⟨r, h, (and_iff_left hfresh).symm⟩
      | some o =>
          refine ⟨_, h.commit rt ho, ?_⟩
          rw [← h.flushed_entire_iff ho, step_commit_of_some rt ho]
          unfold Entire
          rw [List.length_append, List.length_singleton]

theorem Racing.run (h : Racing requests incidentId r₀ d r) (rt : Runtime)
    (hsame : ∀ i, (requests i).incidentId = incidentId) (steps : List (DeskStep ι)) :
    ∃ r', Racing requests incidentId r₀ (Machine.run (Desk.step rt requests) d steps) r' ∧
      (Entire r₀ r' (Machine.run (Desk.step rt requests) d steps) ↔
        Entire r₀ r d ∧ Machine.Along (Desk.step rt requests) Fresh d steps) := by
  induction steps generalizing d r with
  | nil => exact ⟨r, h, (and_iff_left trivial).symm⟩
  | cons step steps ih =>
      obtain ⟨r₁, hstep, hone⟩ := h.step rt hsame step
      obtain ⟨r', hr', hiff⟩ := ih hstep
      refine ⟨r', hr', hiff.trans ?_⟩
      rw [hone]
      exact and_assoc

end Steps

/-- However requests on one incident load and commit: no update is lost exactly if every request
that commits has loaded the row after the commit before it. -/
theorem no_update_lost_iff (rt : Runtime) (requests : ι → IncidentRequest) {incidentId : String}
    (hsame : ∀ i, (requests i).incidentId = incidentId) {w : World} {r₀ : IncidentRecord}
    (hkeys : ((w.session.stored .incidents).map IncidentRecord.id).Nodup)
    (hrow : w.incident? incidentId = some r₀) (steps : List (DeskStep ι)) :
    let d := Machine.run (Desk.step rt requests) ⟨w, fun _ => none, []⟩ steps
    ∃ r, d.world.incident? incidentId = some r ∧
      (HistoryKept r₀ r d.commits ↔
        Machine.Along (Desk.step rt requests) Fresh ⟨w, fun _ => none, []⟩ steps) := by
  intro d
  have hstart : Racing requests incidentId r₀ ⟨w, fun _ => none, []⟩ r₀ := by
    refine ⟨hkeys, hrow, le_rfl, ?_, ?_⟩
    · intro _ c hc
      cases hc
    · intro i o ho
      cases ho
  obtain ⟨r, hr, hiff⟩ := hstart.run rt hsame steps
  refine ⟨r, hr.row, ?_⟩
  constructor
  · intro hkept
    exact (hiff.mp hkept.entries).2
  · intro hfresh
    have hfull := hiff.mpr ⟨rfl, hfresh⟩
    exact ⟨hfull, hr.present hfull⟩

/-- Two analysts who each write a note on the incident. -/
def sampleNotes (second : Bool) : IncidentRequest :=
  ⟨"ten_a", if second then "usr_2" else "usr_1", "inc_1", .addNote "note"⟩

theorem no_update_lost_sample :
    ∃ r, (Machine.run (Desk.step sampleRuntime sampleNotes) ⟨sampleDesk, fun _ => none, []⟩
        [.load false, .commit false, .load true, .commit true]).world.incident? "inc_1" = some r ∧
      (HistoryKept (sampleIncident "inc_1" "ten_a") r
        (Machine.run (Desk.step sampleRuntime sampleNotes) ⟨sampleDesk, fun _ => none, []⟩
          [.load false, .commit false, .load true, .commit true]).commits ↔
        Machine.Along (Desk.step sampleRuntime sampleNotes) Fresh ⟨sampleDesk, fun _ => none, []⟩
          [.load false, .commit false, .load true, .commit true]) :=
  no_update_lost_iff sampleRuntime sampleNotes (fun _ => rfl) (by decide) rfl _

/-- Both load before one commits: one entry and one note are left of two. -/
theorem concurrent_note_lost :
    ∃ r, (Machine.run (Desk.step sampleRuntime sampleNotes) ⟨sampleDesk, fun _ => none, []⟩
        [.load false, .load true, .commit false, .commit true]).world.incident? "inc_1" = some r ∧
      r.timeline.length = 1 ∧ r.notes.length = 1 ∧
      ¬ HistoryKept (sampleIncident "inc_1" "ten_a") r
        (Machine.run (Desk.step sampleRuntime sampleNotes) ⟨sampleDesk, fun _ => none, []⟩
          [.load false, .load true, .commit false, .commit true]).commits := by
  refine ⟨_, rfl, rfl, rfl, ?_⟩
  intro hkept
  have hentries := hkept.entries
  cases hentries

end BlueTeam.Services
