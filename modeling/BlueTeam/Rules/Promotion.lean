/- GID: BlueTeam/Rules/Promotion
   generality: I
   source: services/api/app/api/detections.py, services/api/app/api/replay.py
   digest: The rule endpoints beside the replay lab, and which promotions pass its gate. -/

import BlueTeam.Lib.Machine
import BlueTeam.Replay.Lab
import BlueTeam.Rules.Lifecycle

set_option autoImplicit false
set_option relaxedAutoImplicit false

namespace BlueTeam.Rules

open BlueTeam.Python BlueTeam.Lib BlueTeam.Replay BlueTeam.Services

/-- `get_db`: an exception rolls the revisions back; ids and readings that were used stay used. -/
def settle {α : Type} (db : RuleDb) : Except Failure α × RuleDb → Except Failure α × RuleDb
  | (.ok a, db') => (.ok a, db')
  | (.error e, db') => (.error e, { db with ticks := db'.ticks })

def inRequest {α : Type} (m : RuleService α) : RuleService α := fun db =>
  settle db (m db)

def promoteRule (rt : Runtime) (catalogue : Catalogue) (regressionGate : String → Bool)
    (ruleId actorId : String) : RuleService RuleRevision :=
  inRequest do
    let _ ← syncCatalogRevisions rt catalogue
    promote rt catalogue regressionGate ruleId actorId

def changeStatus (rt : Runtime) (catalogue : Catalogue) (ruleId status actorId : String) :
    RuleService RuleRevision :=
  inRequest do
    let _ ← syncCatalogRevisions rt catalogue
    setStatus rt catalogue ruleId status actorId

def ruleHistory (rt : Runtime) (catalogue : Catalogue) (ruleId : String) :
    RuleService (List RuleRevision) :=
  inRequest do
    let _ ← syncCatalogRevisions rt catalogue
    Exec.gets fun db => db.listHistory ruleId

/-- The revision table beside the lab of the process. The ticks are those of the lab. -/
structure Console where
  revisions : List RuleRevision := []
  lab : ReplayLab := {}

def Console.db (s : Console) : RuleDb where
  revisions := s.revisions
  ticks := s.lab.ticks

/-- The console after a request on the rules. -/
def Console.after (s : Console) (db : RuleDb) : Console where
  revisions := db.revisions
  lab := { s.lab with ticks := db.ticks }

inductive ConsoleCall
  | promoteRule (ruleId actorId : String)
  | changeStatus (ruleId status actorId : String)
  | ruleHistory (ruleId : String)
  | lab (call : LabCall)

def Console.step (rt : Runtime) (catalogue : Catalogue) (s : Console) : ConsoleCall → Console
  | .promoteRule ruleId actorId =>
      s.after (Rules.promoteRule rt catalogue s.lab.ruleRegressionPassed ruleId actorId s.db).2
  | .changeStatus ruleId status actorId =>
      s.after (Rules.changeStatus rt catalogue ruleId status actorId s.db).2
  | .ruleHistory ruleId => s.after (Rules.ruleHistory rt catalogue ruleId s.db).2
  | .lab call => { s with lab := (call.step rt s.lab).2 }

/-- The call inserts a promoted revision only for a rule that the lab lets pass at the moment. -/
def Gated (rt : Runtime) (catalogue : Catalogue) (s : Console) (call : ConsoleCall) : Prop :=
  ∀ row ∈ (s.step rt catalogue call).revisions.drop s.revisions.length,
    row.status = .promoted → s.lab.ruleRegressionPassed row.ruleId = true

/-- The status that the catalogue declares. -/
def CatalogRule.declaredStatus (rule : CatalogRule) : RuleStatus :=
  (RuleStatus.ofText rule.status).getD .tested

/-- The status of a rule before a request: that of its latest revision, or else the declared one. -/
def RuleDb.statusOf (db : RuleDb) (catalogue : Catalogue) (ruleId : String) : Option RuleStatus :=
  match db.latestRevision ruleId with
  | some row => some row.status
  | none => (catalogue.rules.find? fun rule => rule.ruleId = ruleId).map CatalogRule.declaredStatus

/-- No change of status asks for a promotion that the transitions allow and the lab does not. -/
def Cleared (catalogue : Catalogue) (s : Console) : ConsoleCall → Prop
  | .changeStatus ruleId status _ =>
      RuleStatus.ofText status = some .promoted →
      (∃ current, s.db.statusOf catalogue ruleId = some current ∧
        .promoted ∈ allowedTransitions current) →
      s.lab.ruleRegressionPassed ruleId = true
  | _ => True

/-! ### The table under the endpoints -/

section Table

variable {rt : Runtime} {catalogue : Catalogue} {db : RuleDb}

theorem mem_newestFirst {rows : List RuleRevision} {row : RuleRevision} :
    row ∈ newestFirst rows ↔ row ∈ rows :=
  List.mem_insertionSort _

theorem mem_of_latestRevision {ruleId : String} {row : RuleRevision}
    (h : db.latestRevision ruleId = some row) : row ∈ db.revisions ∧ row.ruleId = ruleId := by
  have hmem : row ∈ db.history ruleId := mem_newestFirst.mp (List.mem_of_mem_head? h)
  simpa [RuleDb.history] using hmem

theorem latestRevision_eq_none {ruleId : String} :
    db.latestRevision ruleId = none ↔ db.history ruleId = [] := by
  unfold RuleDb.latestRevision RuleDb.listHistory newestFirst
  rw [List.head?_eq_none_iff]
  constructor
  · intro h
    have hlength := congrArg List.length h
    rw [List.length_insertionSort] at hlength
    exact List.length_eq_zero_iff.mp hlength
  · intro h
    rw [h]
    rfl

theorem latestRevision_congr {db' : RuleDb} {ruleId : String}
    (h : db'.history ruleId = db.history ruleId) :
    db'.latestRevision ruleId = db.latestRevision ruleId := by
  unfold RuleDb.latestRevision RuleDb.listHistory
  rw [h]

/-- A sync makes the status of every rule that of its latest revision. -/
theorem Declared.latest_synced (h : Declared catalogue db) (rt : Runtime) (ruleId : String) :
    ((db.synced rt catalogue).latestRevision ruleId).map RuleRevision.status =
      db.statusOf catalogue ruleId := by
  unfold RuleDb.statusOf
  cases hlatest : db.latestRevision ruleId with
  | some row =>
      have hsame : (db.synced rt catalogue).history ruleId = db.history ruleId := by
        apply synced_history_of_not_missing
        rintro rule hrule rfl
        have hnone := latestRevision_eq_none.mpr (h.mem_missing.mp hrule).2
        rw [hlatest] at hnone
        cases hnone
      rw [latestRevision_congr hsame, hlatest]
      rfl
  | none =>
      have hempty := latestRevision_eq_none.mp hlatest
      cases hfind : catalogue.rules.find? fun rule => rule.ruleId = ruleId with
      | none =>
          have hsame : (db.synced rt catalogue).history ruleId = db.history ruleId := by
            apply synced_history_of_not_missing
            intro rule hrule hid
            have hother := List.find?_eq_none.mp hfind rule (h.mem_missing.mp hrule).1
            simp [hid] at hother
          rw [latestRevision_congr hsame, hlatest]
          rfl
      | some rule =>
          have hrule : rule ∈ catalogue.rules := List.mem_of_find?_eq_some hfind
          obtain rfl : rule.ruleId = ruleId := by simpa using List.find?_some hfind
          obtain ⟨id, n, hone⟩ := synced_history_of_missing rt
            (h.mem_missing.mpr ⟨hrule, hempty⟩) hempty
          unfold RuleDb.latestRevision RuleDb.listHistory
          rw [hone]
          rfl

theorem Declared.synced (h : Declared catalogue db) : Declared catalogue (db.synced rt catalogue) := by
  intro row hrow
  rcases List.mem_append.mp hrow with hrow | hrow
  · exact h row hrow
  · obtain ⟨rule, hrule, id, n, -, -, rfl⟩ := mem_catalogRevisions hrow
    exact ⟨rule, (h.mem_missing.mp hrule).1, rfl, rfl⟩

theorem Declared.moved (h : Declared catalogue db) {ruleId actorId : String}
    {current : RuleRevision} {target : RuleStatus}
    (hlatest : db.latestRevision ruleId = some current) :
    Declared catalogue (db.moved rt current target actorId) := by
  intro row hrow
  rcases List.mem_append.mp hrow with hrow | hrow
  · exact h row hrow
  · obtain rfl := List.mem_singleton.mp hrow
    exact h current (mem_of_latestRevision hlatest).1

end Table

theorem ofText_eq_some {text : String} {status : RuleStatus} :
    RuleStatus.ofText text = some status ↔ status.text = text := by
  constructor
  · intro h
    simpa using List.find?_some h
  · rintro rfl
    cases status <;> decide

section Endpoints

variable {rt : Runtime} {catalogue : Catalogue} {db : RuleDb}

/-- After a sync every rule of the catalogue has a revision. -/
theorem Declared.synced_nothing_missing (h : Declared catalogue db) {rule : CatalogRule}
    (hrule : rule ∈ catalogue.rules) : (db.synced rt catalogue).history rule.ruleId ≠ [] := by
  by_cases hempty : db.history rule.ruleId = []
  · obtain ⟨id, n, hone⟩ := synced_history_of_missing rt
      (h.mem_missing.mpr ⟨hrule, hempty⟩) hempty
    rw [hone]
    exact List.cons_ne_nil _ _
  · rw [synced_history]
    exact List.append_ne_nil_of_left_ne_nil hempty _

/-- A change of status after a sync works on the table as it is. -/
theorem Declared.prepared_synced (h : Declared catalogue db) {ruleId : String}
    {current : RuleRevision}
    (hlatest : ((db.synced rt catalogue).prepared rt catalogue ruleId).latestRevision ruleId =
      some current) :
    (db.synced rt catalogue).prepared rt catalogue ruleId = db.synced rt catalogue := by
  unfold RuleDb.prepared at hlatest ⊢
  split
  · rfl
  · rename_i hnone
    rw [if_neg hnone] at hlatest
    have hsame : ((db.synced rt catalogue).synced rt catalogue).history ruleId =
        (db.synced rt catalogue).history ruleId := by
      apply synced_history_of_not_missing
      intro rule hrule _
      obtain ⟨hmem, hempty⟩ := h.synced.mem_missing.mp hrule
      exact h.synced_nothing_missing hmem hempty
    rw [latestRevision_congr hsame] at hlatest
    rw [hlatest] at hnone
    exact absurd rfl hnone

theorem changeStatus_run (ruleId status actorId : String) :
    changeStatus rt catalogue ruleId status actorId db =
      settle db (setStatus rt catalogue ruleId status actorId (db.synced rt catalogue)) := by
  unfold changeStatus inRequest
  rw [Exec.bind_run, syncCatalogRevisions_run]
  rfl

/-- A row that a change of status writes after the catalogue revisions that were missing. -/
structure Wrote (catalogue : Catalogue) (db : RuleDb) (missing : List RuleRevision)
    (ruleId status : String) (db' : RuleDb) (current target : RuleStatus) (row : RuleRevision) :
    Prop where
  asked : RuleStatus.ofText status = some target
  before : db.statusOf catalogue ruleId = some current
  allowed : target ∈ allowedTransitions current
  rule : row.ruleId = ruleId
  status : row.status = target
  known : ∃ rule ∈ catalogue.rules, row.ruleId = rule.ruleId ∧ row.version = rule.version
  revisions : db'.revisions = db.revisions ++ (missing ++ [row])

/-- A request for a change of status is refused and changes no revision, or writes one row after
the catalogue revisions that were missing. -/
theorem Declared.changeStatus_cases (h : Declared catalogue db) (rt : Runtime)
    (ruleId status actorId : String) :
    let after := (changeStatus rt catalogue ruleId status actorId db).2
    (after.revisions = db.revisions ∧ ∀ target current, RuleStatus.ofText status = some target →
      db.statusOf catalogue ruleId = some current → target ∉ allowedTransitions current) ∨
    ∃ current target row, Wrote catalogue db (db.missingRevisions rt catalogue) ruleId status after
      current target row := by
  have hstatus := h.latest_synced rt ruleId
  have hnothing : ((db.synced rt catalogue).prepared rt catalogue ruleId).latestRevision ruleId =
      none → (db.synced rt catalogue).latestRevision ruleId = none := by
    intro hnone
    unfold RuleDb.prepared at hnone
    split at hnone
    · exact hnone
    · rename_i hsome
      simpa using hsome
  intro after
  have hafter : after =
      (settle db (setStatus rt catalogue ruleId status actorId (db.synced rt catalogue))).2 := by
    show (changeStatus rt catalogue ruleId status actorId db).2 = _
    rw [changeStatus_run]
  rw [hafter]
  rcases setStatus_cases rt catalogue ruleId status actorId (db.synced rt catalogue) with
    ⟨htarget, hrun⟩ | ⟨target, htarget, ⟨hnone, hrun⟩ |
      ⟨current, hlatest, ⟨hrefused, hrun⟩ | ⟨hallowed, hrun⟩⟩⟩
  · left
    rw [hrun]
    refine ⟨rfl, ?_⟩
    intro target' current hsome
    rw [htarget] at hsome
    cases hsome
  · left
    rw [hrun]
    refine ⟨rfl, ?_⟩
    intro target' current _ hcurrent
    rw [← hstatus, hnothing hnone] at hcurrent
    cases hcurrent
  · left
    rw [hrun]
    refine ⟨rfl, ?_⟩
    intro target' current' hsome hcurrent
    obtain rfl : target = target' := Option.some.inj (htarget.symm.trans hsome)
    rw [h.prepared_synced hlatest] at hlatest
    rw [← hstatus, hlatest] at hcurrent
    obtain rfl := Option.some.inj hcurrent
    exact hrefused
  · right
    have hsame := h.prepared_synced hlatest
    rw [hrun]
    rw [hsame] at hlatest ⊢
    refine ⟨current.status, target,
      (db.synced rt catalogue).nextRow rt current target actorId, ?_⟩
    constructor
    · exact htarget
    · rw [← hstatus, hlatest]
      rfl
    · exact hallowed
    · exact (mem_of_latestRevision hlatest).2
    · rfl
    · exact h.synced current (mem_of_latestRevision hlatest).1
    · exact List.append_assoc _ _ _

theorem promoteRule_run (rt : Runtime) (catalogue : Catalogue) (db : RuleDb)
    (regressionGate : String → Bool) (ruleId actorId : String) :
    (regressionGate ruleId = false ∧
      (promoteRule rt catalogue regressionGate ruleId actorId db).2.revisions = db.revisions) ∨
    (regressionGate ruleId = true ∧ promoteRule rt catalogue regressionGate ruleId actorId db =
      changeStatus rt catalogue ruleId "promoted" actorId db) := by
  have hrun : promoteRule rt catalogue regressionGate ruleId actorId db =
      settle db (promote rt catalogue regressionGate ruleId actorId false
        (db.synced rt catalogue)) := by
    unfold promoteRule inRequest
    rw [Exec.bind_run, syncCatalogRevisions_run]
    rfl
  rcases promote_cases rt catalogue regressionGate ruleId actorId false (db.synced rt catalogue)
    with ⟨-, hgate, hpromote⟩ | ⟨hgate, hpromote⟩
  · left
    refine ⟨hgate, ?_⟩
    rw [hrun, hpromote]
    rfl
  · right
    refine ⟨hgate.resolve_left (by simp), ?_⟩
    rw [hrun, hpromote, changeStatus_run]

theorem ruleHistory_run (ruleId : String) :
    ruleHistory rt catalogue ruleId db =
      (.ok ((db.synced rt catalogue).listHistory ruleId), db.synced rt catalogue) := by
  unfold ruleHistory inRequest
  rw [Exec.bind_run, syncCatalogRevisions_run]
  rfl

end Endpoints

/-! ### Calls and runs -/

section Calls

variable {rt : Runtime} {catalogue : Catalogue} {s : Console}

theorem Declared.of_revisions {db db' : RuleDb} (h : Declared catalogue db)
    (he : db'.revisions = db.revisions) : Declared catalogue db' := by
  intro row hrow
  rw [he] at hrow
  exact h row hrow

theorem Declared.changeStatus {db : RuleDb} (h : Declared catalogue db)
    (ruleId status actorId : String) :
    Declared catalogue (Rules.changeStatus rt catalogue ruleId status actorId db).2 := by
  rcases h.changeStatus_cases rt ruleId status actorId with
    ⟨hsame, -⟩ | ⟨current, target, row, hwrote⟩
  · exact h.of_revisions hsame
  · intro other hother
    rw [hwrote.revisions, ← List.append_assoc] at hother
    rcases List.mem_append.mp hother with hother | hother
    · exact h.synced other hother
    · obtain rfl := List.mem_singleton.mp hother
      exact hwrote.known

theorem Declared.step (h : Declared catalogue s.db) (call : ConsoleCall) :
    Declared catalogue (s.step rt catalogue call).db := by
  cases call with
  | promoteRule ruleId actorId =>
      rcases promoteRule_run rt catalogue s.db
        s.lab.ruleRegressionPassed ruleId actorId with ⟨-, hsame⟩ | ⟨-, hrun⟩
      · exact h.of_revisions hsame
      · show Declared catalogue
          (Rules.promoteRule rt catalogue s.lab.ruleRegressionPassed ruleId actorId s.db).2
        rw [hrun]
        exact h.changeStatus ruleId "promoted" actorId
  | changeStatus ruleId status actorId => exact h.changeStatus ruleId status actorId
  | ruleHistory ruleId =>
      show Declared catalogue (Rules.ruleHistory rt catalogue ruleId s.db).2
      rw [ruleHistory_run]
      exact h.synced
  | lab call => exact h

/-- The catalogue revisions are not promoted if no rule is declared so. -/
theorem missing_not_promoted (hnone : ∀ rule ∈ catalogue.rules, rule.status ≠ "promoted")
    (rt : Runtime) (db : RuleDb) : ∀ row ∈ db.missingRevisions rt catalogue, row.status ≠ .promoted := by
  intro row hrow hpromoted
  obtain ⟨rule, hrule, id, n, -, -, rfl⟩ := mem_catalogRevisions hrow
  have hmem : rule ∈ catalogue.rules := (List.mem_filter.mp hrule).1
  have hdeclared : (RuleStatus.ofText rule.status).getD .tested = .promoted := hpromoted
  cases htext : RuleStatus.ofText rule.status with
  | none =>
      rw [htext] at hdeclared
      cases hdeclared
  | some status =>
      rw [htext] at hdeclared
      obtain rfl : status = .promoted := hdeclared
      exact hnone rule hmem (ofText_eq_some.mp htext).symm

/-- What a call inserts is good if the catalogue revisions and the one row after them are. -/
theorem drop_of_wrote {db db' : RuleDb} {added : List RuleRevision}
    (h : db'.revisions = db.revisions ++ added) :
    db'.revisions.drop db.revisions.length = added := by
  rw [h]
  exact List.drop_left

/-- A promoted row is written only for a change of status that asks for it and may make it. -/
theorem Declared.promoted_row (h : Declared catalogue s.db)
    (hnone : ∀ rule ∈ catalogue.rules, rule.status ≠ "promoted") {ruleId status actorId : String}
    {row : RuleRevision}
    (hrow : row ∈ (Rules.changeStatus rt catalogue ruleId status actorId s.db).2.revisions.drop
      s.db.revisions.length) (hpromoted : row.status = .promoted) :
    row.ruleId = ruleId ∧ RuleStatus.ofText status = some .promoted ∧
      ∃ current, s.db.statusOf catalogue ruleId = some current ∧
        .promoted ∈ allowedTransitions current := by
  rcases h.changeStatus_cases rt ruleId status actorId with
    ⟨hsame, -⟩ | ⟨current, target, last, hwrote⟩
  · rw [hsame, List.drop_length] at hrow
    cases hrow
  · rw [drop_of_wrote hwrote.revisions] at hrow
    rcases List.mem_append.mp hrow with hrow | hrow
    · exact absurd hpromoted (missing_not_promoted hnone rt s.db row hrow)
    · obtain rfl := List.mem_singleton.mp hrow
      obtain rfl : target = .promoted := hwrote.status.symm.trans hpromoted
      exact ⟨hwrote.rule, hwrote.asked, current, hwrote.before, hwrote.allowed⟩

/-- A call promotes past the lab exactly if it is a change of status that the lab does not clear. -/
theorem gated_iff_cleared (h : Declared catalogue s.db)
    (hnone : ∀ rule ∈ catalogue.rules, rule.status ≠ "promoted") (call : ConsoleCall) :
    Gated rt catalogue s call ↔ Cleared catalogue s call := by
  cases call with
  | promoteRule ruleId actorId =>
      apply iff_of_true _ trivial
      intro row hrow hpromoted
      change row ∈ (Rules.promoteRule rt catalogue s.lab.ruleRegressionPassed ruleId actorId
        s.db).2.revisions.drop s.db.revisions.length at hrow
      rcases promoteRule_run rt catalogue s.db s.lab.ruleRegressionPassed ruleId actorId with
        ⟨-, hsame⟩ | ⟨hgate, hrun⟩
      · rw [hsame, List.drop_length] at hrow
        cases hrow
      · rw [hrun] at hrow
        rw [(h.promoted_row hnone hrow hpromoted).1]
        exact hgate
  | changeStatus ruleId status actorId =>
      constructor
      · rintro hgated hasked ⟨current, hcurrent, hallowed⟩
        rcases h.changeStatus_cases rt ruleId status actorId with
          ⟨-, hrefused⟩ | ⟨before, target, last, hwrote⟩
        · exact absurd hallowed (hrefused _ current hasked hcurrent)
        · obtain rfl : target = .promoted := Option.some.inj (hwrote.asked.symm.trans hasked)
          have hlast : last ∈ (Rules.changeStatus rt catalogue ruleId status actorId
              s.db).2.revisions.drop s.db.revisions.length := by
            rw [drop_of_wrote hwrote.revisions]
            simp
          rw [← hwrote.rule]
          exact hgated last hlast hwrote.status
      · intro hcleared row hrow hpromoted
        obtain ⟨hid, hasked, hmove⟩ := h.promoted_row hnone hrow hpromoted
        rw [hid]
        exact hcleared hasked hmove
  | ruleHistory ruleId =>
      apply iff_of_true _ trivial
      intro row hrow hpromoted
      change row ∈ (Rules.ruleHistory rt catalogue ruleId s.db).2.revisions.drop
        s.db.revisions.length at hrow
      have hsynced : (s.db.synced rt catalogue).revisions =
          s.db.revisions ++ s.db.missingRevisions rt catalogue := rfl
      rw [ruleHistory_run, drop_of_wrote hsynced] at hrow
      exact absurd hpromoted (missing_not_promoted hnone rt s.db row hrow)
  | lab call =>
      apply iff_of_true _ trivial
      intro row hrow _
      change row ∈ s.revisions.drop s.revisions.length at hrow
      rw [List.drop_length] at hrow
      cases hrow

end Calls

/-- Over every run from an empty table: all promotions pass the gate exactly if every change of
status to promoted that the transitions allow is cleared by the lab. -/
theorem promotions_gated_iff (rt : Runtime) (catalogue : Catalogue)
    (hnone : ∀ rule ∈ catalogue.rules, rule.status ≠ "promoted") (lab : ReplayLab)
    (calls : List ConsoleCall) :
    Machine.Along (Console.step rt catalogue) (Gated rt catalogue) ⟨[], lab⟩ calls ↔
      Machine.Along (Console.step rt catalogue) (Cleared catalogue) ⟨[], lab⟩ calls := by
  have hempty : Declared catalogue (Console.db ⟨[], lab⟩) := by
    intro row hrow
    cases hrow
  exact Machine.along_iff (fun s => Declared catalogue s.db)
    (fun s call hs => hs.step call) (fun s call hs => gated_iff_cleared hs hnone call) hempty calls

theorem defaultCatalogue_none_promoted :
    ∀ rule ∈ defaultCatalogue.rules, rule.status ≠ "promoted" := by
  intro rule hrule
  obtain ⟨source, -, rfl⟩ := List.mem_map.mp hrule
  show ("tested" : String) ≠ "promoted"
  decide

theorem promotions_gated_sample :
    Machine.Along (Console.step sampleRuntime defaultCatalogue) (Gated sampleRuntime defaultCatalogue)
      ⟨[], {}⟩ [.promoteRule "identity.password_spray" "usr_1"] :=
  (promotions_gated_iff sampleRuntime defaultCatalogue defaultCatalogue_none_promoted {} _).mpr
    ⟨trivial, trivial⟩

/-- A tested rule that no job covers is promoted through the status endpoint. -/
theorem status_endpoint_promotes_past_gate :
    ¬ Machine.Along (Console.step sampleRuntime defaultCatalogue)
      (Gated sampleRuntime defaultCatalogue) ⟨[], {}⟩
      [.changeStatus "identity.password_spray" "promoted" "usr_1"] := by
  rintro ⟨hgated, -⟩
  have hempty : Declared defaultCatalogue (Console.db ⟨[], {}⟩) := by
    intro row hrow
    cases hrow
  have hcleared := (gated_iff_cleared hempty defaultCatalogue_none_promoted _).mp hgated
  have hfalse : ReplayLab.ruleRegressionPassed {} "identity.password_spray" = true := by
    apply hcleared
    · decide
    · refine ⟨.tested, ?_, by decide⟩
      decide +kernel
  cases hfalse

end BlueTeam.Rules
