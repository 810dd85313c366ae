/- GID: BlueTeam/Rules/Lifecycle
   generality: I
   source: services/api/app/services/rules.py
   digest: The revisions of a rule are a path of allowed transitions from its catalogue revision. -/

import BlueTeam.Lib.Chronicle
import BlueTeam.Rules.Revisions

set_option autoImplicit false
set_option relaxedAutoImplicit false

namespace BlueTeam.Rules

open BlueTeam.Python BlueTeam.Lib BlueTeam.Lib.Chronicle BlueTeam.Services

/-- Every reading of the clock is later than the one before. -/
def StrictClock (rt : Runtime) : Prop :=
  ∀ n, (rt.now n).asUtc.wall < (rt.now (n + 1)).asUtc.wall

theorem StrictClock.lt {rt : Runtime} (h : StrictClock rt) {m n : Nat} (hmn : m < n) :
    (rt.now m).asUtc.wall < (rt.now n).asUtc.wall :=
  strictMono_nat_of_lt_succ h hmn

/-! ### What the calls do -/

/-- The ticks after `n` rows have taken an id and a reading each. -/
def stampedTicks (t : Ticks) (n : Nat) : Ticks where
  uuids := t.uuids + n
  readings := t.readings + n

/-- The revisions of some rules, stamped one after another. -/
def catalogRevisions (rt : Runtime) (t : Ticks) : List CatalogRule → List RuleRevision
  | [] => []
  | rule :: rules =>
      rule.revision ("rlv_" ++ rt.uuid4 t.uuids) (rt.now t.readings) ::
        catalogRevisions rt (stampedTicks t 1) rules

/-- The rules whose declared version has no revision. -/
def RuleDb.missing (db : RuleDb) (catalogue : Catalogue) : List CatalogRule :=
  catalogue.rules.filter fun rule => (db.declared rule).isEmpty

def RuleDb.missingRevisions (db : RuleDb) (rt : Runtime) (catalogue : Catalogue) :
    List RuleRevision :=
  catalogRevisions rt db.ticks (db.missing catalogue)

/-- The table after a sync. -/
def RuleDb.synced (db : RuleDb) (rt : Runtime) (catalogue : Catalogue) : RuleDb where
  revisions := db.revisions ++ db.missingRevisions rt catalogue
  ticks := stampedTicks db.ticks (db.missing catalogue).length

/-- The row that a change of status writes at this point. -/
def RuleDb.nextRow (db : RuleDb) (rt : Runtime) (current : RuleRevision) (target : RuleStatus)
    (actorId : String) : RuleRevision :=
  current.moved ("rlv_" ++ rt.uuid4 db.ticks.uuids) target (rt.now db.ticks.readings) actorId

def RuleDb.moved (db : RuleDb) (rt : Runtime) (current : RuleRevision) (target : RuleStatus)
    (actorId : String) : RuleDb where
  revisions := db.revisions ++ [db.nextRow rt current target actorId]
  ticks := stampedTicks db.ticks 1

theorem stampedTicks_add (t : Ticks) (m n : Nat) :
    stampedTicks (stampedTicks t m) n = stampedTicks t (m + n) := by
  simp [stampedTicks, Nat.add_assoc]

/-- The turns leave the table alone, so all of them see the same revisions. -/
theorem loop_syncRule (rt : Runtime) (db : RuleDb) (rules : List CatalogRule)
    (created : List RuleRevision) (t : Ticks) :
    let missing := rules.filter fun rule => (db.declared rule).isEmpty
    Exec.loop (syncRule rt) created rules { db with ticks := t } =
      (.ok (created ++ catalogRevisions rt t missing),
        ⟨db.revisions, stampedTicks t missing.length⟩) := by
  induction rules generalizing created t with
  | nil => simp [Exec.loop, catalogRevisions, stampedTicks]
  | cons rule rules ih =>
      cases hrows : db.declared rule with
      | nil =>
          have hstep := ih (created ++
            [rule.revision ("rlv_" ++ rt.uuid4 t.uuids) (rt.now t.readings)]) (stampedTicks t 1)
          have hturn : syncRule rt created rule { db with ticks := t } =
              (.ok (created ++
                [rule.revision ("rlv_" ++ rt.uuid4 t.uuids) (rt.now t.readings)]),
                { db with ticks := stampedTicks t 1 }) := by
            unfold syncRule
            have hdeclared : RuleDb.declared { db with ticks := t } rule = [] := hrows
            simp only [Exec.bind_run, Exec.gets, Exec.andThen, hdeclared]
            rfl
          simp only [List.append_assoc, List.singleton_append, stampedTicks_add] at hstep
          show Exec.andThen _ (syncRule rt created rule { db with ticks := t }) = _
          rw [hturn, List.filter_cons_of_pos (by simp [hrows]), List.length_cons, Nat.add_comm]
          exact hstep
      | cons row rows =>
          have hturn : syncRule rt created rule { db with ticks := t } =
              (.ok created, { db with ticks := t }) := by
            unfold syncRule
            have hdeclared : RuleDb.declared { db with ticks := t } rule = row :: rows := hrows
            simp only [Exec.bind_run, Exec.gets, Exec.andThen, hdeclared]
            rfl
          show Exec.andThen _ (syncRule rt created rule { db with ticks := t }) = _
          rw [hturn, List.filter_cons_of_neg (by simp [hrows])]
          exact ih created t

theorem syncCatalogRevisions_run (rt : Runtime) (catalogue : Catalogue) (db : RuleDb) :
    syncCatalogRevisions rt catalogue db =
      (.ok (db.missingRevisions rt catalogue), db.synced rt catalogue) := by
  have hloop := loop_syncRule rt db catalogue.rules [] db.ticks
  unfold syncCatalogRevisions
  rw [Exec.bind_run, hloop]
  rfl

/-- The table a change of status works on: it syncs if the rule has no revision. -/
def RuleDb.prepared (db : RuleDb) (rt : Runtime) (catalogue : Catalogue) (ruleId : String) :
    RuleDb :=
  if (db.latestRevision ruleId).isSome then db else db.synced rt catalogue

theorem currentRevision_run (rt : Runtime) (catalogue : Catalogue) (ruleId : String)
    (db : RuleDb) :
    currentRevision rt catalogue ruleId db =
      (.ok ((db.prepared rt catalogue ruleId).latestRevision ruleId),
        db.prepared rt catalogue ruleId) := by
  unfold currentRevision RuleDb.prepared
  simp only [Exec.bind_run, Exec.gets, Exec.andThen]
  cases hlatest : db.latestRevision ruleId with
  | some row =>
      simp only [Option.isSome_some, if_true, hlatest]
      rfl
  | none =>
      simp only [Option.isSome_none, Bool.false_eq_true, if_false, Exec.bind_run,
        syncCatalogRevisions_run, Exec.andThen]
      rfl

/-- What `set_status` does once it has read the latest revision. -/
def setStatusFrom (rt : Runtime) (ruleId actorId : String) (target : RuleStatus) :
    Option RuleRevision → RuleService RuleRevision
  | none => Exec.raise (unknownRule ruleId)
  | some current =>
      if target ∉ allowedTransitions current.status then
        Exec.raise (cannotMove current.status target)
      else do
        let id ← drawRule (newId rt "rlv")
        let createdAt ← drawRule (utcnow rt)
        let row := current.moved id target createdAt actorId
        Exec.modify fun db => db.append [row]
        pure row

/-- The exits of `set_status`: three refusals, and one that writes a row after the latest one. -/
theorem setStatus_cases (rt : Runtime) (catalogue : Catalogue) (ruleId status actorId : String)
    (db : RuleDb) :
    let prepared := db.prepared rt catalogue ruleId
    let result := setStatus rt catalogue ruleId status actorId db
    (RuleStatus.ofText status = none ∧ result = (.error (invalidStatus status), db)) ∨
    ∃ target, RuleStatus.ofText status = some target ∧
      ((prepared.latestRevision ruleId = none ∧ result = (.error (unknownRule ruleId), prepared)) ∨
      ∃ current, prepared.latestRevision ruleId = some current ∧
        ((target ∉ allowedTransitions current.status ∧
            result = (.error (cannotMove current.status target), prepared)) ∨
        (target ∈ allowedTransitions current.status ∧
            result = (.ok (prepared.nextRow rt current target actorId),
              prepared.moved rt current target actorId)))) := by
  intro prepared result
  cases htarget : RuleStatus.ofText status with
  | none =>
      left
      refine ⟨rfl, ?_⟩
      show setStatus rt catalogue ruleId status actorId db = _
      unfold setStatus
      rw [htarget]
      rfl
  | some target =>
      right
      have hrun : ∀ latest, (db.prepared rt catalogue ruleId).latestRevision ruleId = latest →
          result = Exec.andThen (setStatusFrom rt ruleId actorId target) (.ok latest, prepared) := by
        rintro _ rfl
        show setStatus rt catalogue ruleId status actorId db = _
        unfold setStatus
        rw [htarget]
        simp only [Exec.bind_run, currentRevision_run]
        rfl
      refine ⟨target, rfl, ?_⟩
      cases hlatest : prepared.latestRevision ruleId with
      | none =>
          left
          refine ⟨rfl, ?_⟩
          rw [hrun none hlatest]
          rfl
      | some current =>
          right
          refine ⟨current, rfl, ?_⟩
          rw [hrun (some current) hlatest]
          simp only [Exec.andThen, setStatusFrom]
          by_cases hallowed : target ∈ allowedTransitions current.status
          · right
            refine ⟨hallowed, ?_⟩
            rw [if_neg (not_not_intro hallowed)]
            rfl
          · left
            refine ⟨hallowed, ?_⟩
            rw [if_pos hallowed]
            rfl

/-! ### Declared versions -/

theorem Catalogue.eq_of_ruleId {catalogue : Catalogue} {rule rule' : CatalogRule}
    (h : rule ∈ catalogue.rules) (h' : rule' ∈ catalogue.rules) (he : rule.ruleId = rule'.ruleId) :
    rule = rule' :=
  List.inj_on_of_nodup_map catalogue.distinct h h' he

/-- Every revision is of a rule of the catalogue, in its declared version. -/
def Declared (catalogue : Catalogue) (db : RuleDb) : Prop :=
  ∀ row ∈ db.revisions, ∃ rule ∈ catalogue.rules,
    row.ruleId = rule.ruleId ∧ row.version = rule.version

theorem Declared.mem_missing {catalogue : Catalogue} {db : RuleDb} (h : Declared catalogue db)
    {rule : CatalogRule} :
    rule ∈ db.missing catalogue ↔ rule ∈ catalogue.rules ∧ db.history rule.ruleId = [] := by
  unfold RuleDb.missing
  rw [List.mem_filter]
  apply and_congr_right
  intro hrule
  have hdeclared : db.declared rule = db.history rule.ruleId := by
    apply List.filter_congr
    intro row hrow
    by_cases hid : row.ruleId = rule.ruleId
    · obtain ⟨rule', hrule', hid', hversion⟩ := h row hrow
      obtain rfl := Catalogue.eq_of_ruleId hrule' hrule (hid'.symm.trans hid)
      simp [hid, hversion]
    · simp [hid]
  rw [hdeclared, List.isEmpty_iff]

/-! ### What a sync adds -/

/-- The rows of a sync are those of the rules, with the readings that follow. -/
theorem mem_catalogRevisions {rt : Runtime} {rules : List CatalogRule} {t : Ticks}
    {row : RuleRevision} (h : row ∈ catalogRevisions rt t rules) :
    ∃ rule ∈ rules, ∃ id n, t.readings ≤ n ∧ n < t.readings + rules.length ∧
      row = rule.revision id (rt.now n) := by
  induction rules generalizing t with
  | nil => cases h
  | cons rule rules ih =>
      rcases List.mem_cons.mp h with rfl | h
      · exact ⟨rule, by simp, _, t.readings, le_rfl, by simp, rfl⟩
      · obtain ⟨rule', hrule', id, n, hle, hlt, rfl⟩ := ih h
        refine ⟨rule', by simp [hrule'], id, n, ?_, ?_, rfl⟩
        · have : (stampedTicks t 1).readings = t.readings + 1 := rfl
          omega
        · have : (stampedTicks t 1).readings = t.readings + 1 := rfl
          rw [List.length_cons]
          omega

theorem catalogRevisions_increasing {rt : Runtime} (hclock : StrictClock rt) (t : Ticks)
    (rules : List CatalogRule) :
    (catalogRevisions rt t rules).Pairwise fun a b => a.created < b.created := by
  induction rules generalizing t with
  | nil => exact List.Pairwise.nil
  | cons rule rules ih =>
      apply List.Pairwise.cons ?_ (ih _)
      intro row hrow
      obtain ⟨rule', -, id, n, hle, -, rfl⟩ := mem_catalogRevisions hrow
      have : (stampedTicks t 1).readings = t.readings + 1 := rfl
      exact hclock.lt (by omega)

theorem map_ruleId_catalogRevisions (rt : Runtime) (t : Ticks) (rules : List CatalogRule) :
    (catalogRevisions rt t rules).map RuleRevision.ruleId = rules.map CatalogRule.ruleId := by
  induction rules generalizing t with
  | nil => rfl
  | cons rule rules ih =>
      show rule.ruleId :: _ = rule.ruleId :: _
      rw [ih]

/-- Of rules with different ids, a sync writes one row each. -/
theorem filter_catalogRevisions (rt : Runtime) (t : Ticks) {rules : List CatalogRule}
    (hdistinct : (rules.map CatalogRule.ruleId).Nodup) {rule : CatalogRule} (hrule : rule ∈ rules) :
    ∃ id n, (catalogRevisions rt t rules).filter (fun row => row.ruleId = rule.ruleId) =
      [rule.revision id (rt.now n)] := by
  have hid : rule.ruleId ∈ (catalogRevisions rt t rules).map RuleRevision.ruleId := by
    rw [map_ruleId_catalogRevisions]
    exact List.mem_map.mpr ⟨rule, hrule, rfl⟩
  obtain ⟨row, hrow, hrowId⟩ := List.mem_map.mp hid
  obtain ⟨rule', hrule', id, n, -, -, rfl⟩ := mem_catalogRevisions hrow
  obtain rfl := List.inj_on_of_nodup_map hdistinct hrule' hrule hrowId
  refine ⟨id, n, ?_⟩
  have hnodup : ((catalogRevisions rt t rules).map RuleRevision.ruleId).Nodup := by
    rw [map_ruleId_catalogRevisions]
    exact hdistinct
  apply Schema.filter_eq_singleton (List.pairwise_map.mp hnodup) hrow (by simp)
  intro row' _ hid'
  have hsame : row'.ruleId = (rule'.revision id (rt.now n)).ruleId := by
    simpa using hid'
  exact ⟨not_not_intro hsame, not_not_intro hsame.symm⟩

theorem filter_catalogRevisions_of_unknown {rt : Runtime} {t : Ticks} {rules : List CatalogRule}
    {ruleId : String} (h : ∀ rule ∈ rules, rule.ruleId ≠ ruleId) :
    (catalogRevisions rt t rules).filter (fun row => row.ruleId = ruleId) = [] := by
  apply List.filter_eq_nil_iff.mpr
  intro row hrow
  obtain ⟨rule, hrule, id, n, -, -, rfl⟩ := mem_catalogRevisions hrow
  have hother := h rule hrule
  simp [hother]

theorem Catalogue.missing_distinct (catalogue : Catalogue) (db : RuleDb) :
    ((db.missing catalogue).map CatalogRule.ruleId).Nodup :=
  catalogue.distinct.sublist (List.filter_sublist.map _)

section Sync

variable {rt : Runtime} {catalogue : Catalogue} {db : RuleDb}

theorem synced_history (ruleId : String) :
    (db.synced rt catalogue).history ruleId = db.history ruleId ++
      (db.missingRevisions rt catalogue).filter fun row => row.ruleId = ruleId :=
  List.filter_append _ _

theorem synced_history_of_missing (rt : Runtime) {rule : CatalogRule}
    (hrule : rule ∈ db.missing catalogue) (hempty : db.history rule.ruleId = []) :
    ∃ id n, (db.synced rt catalogue).history rule.ruleId = [rule.revision id (rt.now n)] := by
  obtain ⟨id, n, hone⟩ := filter_catalogRevisions rt db.ticks
    (catalogue.missing_distinct db) hrule
  refine ⟨id, n, ?_⟩
  rw [synced_history, hempty, List.nil_append]
  exact hone

theorem synced_history_of_not_missing {ruleId : String}
    (h : ∀ rule ∈ db.missing catalogue, rule.ruleId ≠ ruleId) :
    (db.synced rt catalogue).history ruleId = db.history ruleId := by
  have hnone : (db.missingRevisions rt catalogue).filter (fun row => row.ruleId = ruleId) = [] :=
    filter_catalogRevisions_of_unknown h
  rw [synced_history, hnone, List.append_nil]

end Sync

/-! ### The invariant -/

/-- What the catalogue gives the rule. -/
def FromCatalog (rule : CatalogRule) (row : RuleRevision) : Prop :=
  ∃ id createdAt, row = rule.revision id createdAt

/-- A later revision of a rule: an allowed status, written by an author, of the same version and
checksum. -/
structure Moves (author : String → Prop) (prev next : RuleRevision) : Prop where
  allowed : next.status ∈ allowedTransitions prev.status
  written : author next.createdBy
  version : next.version = prev.version
  checksum : next.checksum = prev.checksum

/-- The table as the calls keep it. -/
structure Lifecycle (rt : Runtime) (catalogue : Catalogue) (author : String → Prop)
    (db : RuleDb) : Prop where
  stamped : ∀ row ∈ db.revisions, ∃ n < db.ticks.readings, row.createdAt = rt.now n
  increasing : db.revisions.Pairwise fun a b => a.created < b.created
  paths : ∀ ruleId, db.history ruleId ≠ [] → ∃ rule ∈ catalogue.rules,
    rule.ruleId = ruleId ∧ Path (FromCatalog rule) (Moves author) (db.history ruleId)

theorem lifecycle_empty (rt : Runtime) (catalogue : Catalogue) (author : String → Prop)
    (t : Ticks) : Lifecycle rt catalogue author ⟨[], t⟩ where
  stamped := by simp
  increasing := List.Pairwise.nil
  paths := by simp [RuleDb.history]

section Invariant

variable {rt : Runtime} {catalogue : Catalogue} {author : String → Prop} {db : RuleDb}

/-- Later rows have later times, so the newest-first order is the insertion order turned around. -/
theorem Lifecycle.latestRevision (h : Lifecycle rt catalogue author db) (ruleId : String) :
    db.latestRevision ruleId = (db.history ruleId).getLast? := by
  have hinc : (db.history ruleId).Pairwise fun a b => a.created < b.created :=
    h.increasing.filter _
  have hsort := insertionSort_eq_reverse RuleRevision.created hinc
  unfold RuleDb.latestRevision RuleDb.listHistory newestFirst
  rw [hsort, List.head?_reverse]

/-- All revisions of a rule have the version and the checksum that the catalogue declares. -/
theorem Lifecycle.sameVersion (h : Lifecycle rt catalogue author db) {rule : CatalogRule}
    (hrule : rule ∈ catalogue.rules) {row : RuleRevision} (hrow : row ∈ db.history rule.ruleId) :
    row.version = rule.version ∧ row.checksum = rule.checksum := by
  obtain ⟨rule', hrule', hid, hpath⟩ := h.paths rule.ruleId (List.ne_nil_of_mem hrow)
  obtain rfl := Catalogue.eq_of_ruleId hrule' hrule hid
  apply hpath.all (fun row => row.version = rule'.version ∧ row.checksum = rule'.checksum) ?_ ?_
    row hrow
  · rintro _ ⟨id, createdAt, rfl⟩
    exact ⟨rfl, rfl⟩
  · intro prev next hmoves hprev
    exact ⟨hmoves.version.trans hprev.1, hmoves.checksum.trans hprev.2⟩

theorem Lifecycle.declared (h : Lifecycle rt catalogue author db) : Declared catalogue db := by
  intro row hrow
  have hmem : row ∈ db.history row.ruleId := by
    simp [RuleDb.history, hrow]
  obtain ⟨rule, hrule, hid, -⟩ := h.paths row.ruleId (List.ne_nil_of_mem hmem)
  rw [← hid] at hmem
  exact ⟨rule, hrule, hid.symm, (h.sameVersion hrule hmem).1⟩

end Invariant

/-! ### The calls keep the invariant -/

section Keeping

variable {rt : Runtime} {catalogue : Catalogue} {author : String → Prop} {db : RuleDb}

/-- Rows with rising readings that are not taken yet may follow. -/
theorem Lifecycle.increasing_append (h : Lifecycle rt catalogue author db)
    (hclock : StrictClock rt) {rows : List RuleRevision}
    (hrows : rows.Pairwise fun a b => a.created < b.created)
    (hstamp : ∀ row ∈ rows, ∃ n, db.ticks.readings ≤ n ∧ row.createdAt = rt.now n) :
    (db.revisions ++ rows).Pairwise fun a b => a.created < b.created := by
  apply List.pairwise_append.mpr
  refine ⟨h.increasing, hrows, ?_⟩
  intro a ha b hb
  obtain ⟨m, hm, hma⟩ := h.stamped a ha
  obtain ⟨n, hn, hnb⟩ := hstamp b hb
  have hlt : (rt.now m).asUtc.wall < (rt.now n).asUtc.wall := hclock.lt (by omega)
  show a.createdAt.asUtc.wall < b.createdAt.asUtc.wall
  rw [hma, hnb]
  exact hlt

theorem Lifecycle.synced (h : Lifecycle rt catalogue author db) (hclock : StrictClock rt) :
    Lifecycle rt catalogue author (db.synced rt catalogue) := by
  have hstamp : ∀ row ∈ db.missingRevisions rt catalogue, ∃ n, db.ticks.readings ≤ n ∧
      n < db.ticks.readings + (db.missing catalogue).length ∧ row.createdAt = rt.now n := by
    intro row hrow
    obtain ⟨rule, -, id, n, hle, hlt, rfl⟩ := mem_catalogRevisions hrow
    exact ⟨n, hle, hlt, rfl⟩
  constructor
  · intro row hrow
    rcases List.mem_append.mp hrow with hrow | hrow
    · obtain ⟨n, hn, hcreated⟩ := h.stamped row hrow
      exact ⟨n, Nat.lt_of_lt_of_le hn (Nat.le_add_right _ _), hcreated⟩
    · obtain ⟨n, -, hlt, hcreated⟩ := hstamp row hrow
      exact ⟨n, hlt, hcreated⟩
  · apply h.increasing_append hclock (catalogRevisions_increasing hclock _ _)
    intro row hrow
    obtain ⟨n, hle, -, hcreated⟩ := hstamp row hrow
    exact ⟨n, hle, hcreated⟩
  · intro ruleId hne
    by_cases hmissing : ∀ rule ∈ db.missing catalogue, rule.ruleId ≠ ruleId
    · rw [synced_history_of_not_missing hmissing] at hne ⊢
      exact h.paths ruleId hne
    · obtain ⟨rule, hrule, rfl⟩ : ∃ rule ∈ db.missing catalogue, rule.ruleId = ruleId := by
        simpa using hmissing
      obtain ⟨hmem, hempty⟩ := h.declared.mem_missing.mp hrule
      obtain ⟨id, n, hone⟩ := synced_history_of_missing rt hrule hempty
      refine ⟨rule, hmem, rfl, ?_⟩
      rw [hone]
      exact Path.first ⟨id, rt.now n, rfl⟩

theorem Lifecycle.prepared (h : Lifecycle rt catalogue author db) (hclock : StrictClock rt)
    (ruleId : String) : Lifecycle rt catalogue author (db.prepared rt catalogue ruleId) := by
  unfold RuleDb.prepared
  split
  · exact h
  · exact h.synced hclock

theorem Lifecycle.moved (h : Lifecycle rt catalogue author db) (hclock : StrictClock rt)
    {ruleId actorId : String} {current : RuleRevision} {target : RuleStatus}
    (hlatest : db.latestRevision ruleId = some current)
    (hallowed : target ∈ allowedTransitions current.status) (hauthor : author actorId) :
    Lifecycle rt catalogue author (db.moved rt current target actorId) := by
  have hlast : (db.history ruleId).getLast? = some current := by
    rw [← h.latestRevision]
    exact hlatest
  have hcurrent : current.ruleId = ruleId := by
    have hmem := List.mem_of_getLast? hlast
    simpa using (List.mem_filter.mp hmem).2
  constructor
  · intro row hrow
    rcases List.mem_append.mp hrow with hrow | hrow
    · obtain ⟨n, hn, hcreated⟩ := h.stamped row hrow
      exact ⟨n, Nat.lt_succ_of_lt hn, hcreated⟩
    · obtain rfl := List.mem_singleton.mp hrow
      exact ⟨db.ticks.readings, Nat.lt_succ_self _, rfl⟩
  · apply h.increasing_append hclock (List.pairwise_singleton _ _)
    intro row hrow
    obtain rfl := List.mem_singleton.mp hrow
    exact ⟨db.ticks.readings, le_rfl, rfl⟩
  · intro other hne
    have hsplit : (db.moved rt current target actorId).history other = db.history other ++
        [db.nextRow rt current target actorId].filter fun row => row.ruleId = other :=
      List.filter_append _ _
    by_cases hother : ruleId = other
    · subst hother
      have hnew : [db.nextRow rt current target actorId].filter (fun row => row.ruleId = ruleId) =
          [db.nextRow rt current target actorId] :=
        List.filter_eq_self.mpr fun row hrow => by
          obtain rfl := List.mem_singleton.mp hrow
          show decide (current.ruleId = ruleId) = true
          simpa using hcurrent
      obtain ⟨rule, hrule, hid, hpath⟩ := h.paths ruleId (by
        intro hnil
        rw [hnil] at hlast
        cases hlast)
      refine ⟨rule, hrule, hid, ?_⟩
      rw [hsplit, hnew]
      exact hpath.concat hlast ⟨hallowed, hauthor, rfl, rfl⟩
    · have hnew : [db.nextRow rt current target actorId].filter (fun row => row.ruleId = other) =
          [] :=
        List.filter_eq_nil_iff.mpr fun row hrow => by
          obtain rfl := List.mem_singleton.mp hrow
          have hid : (db.nextRow rt current target actorId).ruleId = ruleId := hcurrent
          simpa [hid] using hother
      rw [hsplit, hnew, List.append_nil] at hne ⊢
      exact h.paths other hne

theorem Lifecycle.setStatus (h : Lifecycle rt catalogue author db) (hclock : StrictClock rt)
    {ruleId status actorId : String} (hauthor : author actorId) :
    Lifecycle rt catalogue author (setStatus rt catalogue ruleId status actorId db).2 := by
  have hprepared := h.prepared hclock ruleId
  rcases setStatus_cases rt catalogue ruleId status actorId db with
    ⟨-, hrun⟩ | ⟨target, -, ⟨-, hrun⟩ | ⟨current, hlatest, ⟨-, hrun⟩ | ⟨hallowed, hrun⟩⟩⟩
  · rw [hrun]
    exact h
  · rw [hrun]
    exact hprepared
  · rw [hrun]
    exact hprepared
  · rw [hrun]
    exact hprepared.moved hclock hlatest hallowed hauthor

end Keeping

/-! ### Runs -/

/-- A call on the revision table. The lab's answer at the time of a promotion comes with it. -/
inductive RuleCall
  | sync
  | setStatus (ruleId status actorId : String)
  | promote (ruleId actorId : String) (bypassRegression : Bool) (regressionGate : String → Bool)

/-- The actor of a call that may write a row. -/
def RuleCall.actor : RuleCall → Option String
  | .sync => none
  | .setStatus _ _ actorId => some actorId
  | .promote _ actorId _ _ => some actorId

def RuleCall.run (rt : Runtime) (catalogue : Catalogue) : RuleCall → RuleService Unit
  | .sync => do
      let _ ← syncCatalogRevisions rt catalogue
      pure ()
  | .setStatus ruleId status actorId => do
      let _ ← Rules.setStatus rt catalogue ruleId status actorId
      pure ()
  | .promote ruleId actorId bypassRegression regressionGate => do
      let _ ← Rules.promote rt catalogue regressionGate ruleId actorId bypassRegression
      pure ()

/-- The calls one after another; a call that raises keeps what it has flushed. -/
def runRuleCalls (rt : Runtime) (catalogue : Catalogue) (calls : List RuleCall) (db : RuleDb) :
    RuleDb :=
  calls.foldl (fun db call => (call.run rt catalogue db).2) db

theorem discard_run {α : Type} (m : RuleService α) (db : RuleDb) :
    (m >>= fun _ => (pure () : RuleService Unit)) db = ((m db).1.map fun _ => (), (m db).2) := by
  rw [Exec.bind_run]
  rcases m db with ⟨⟨e⟩ | ⟨a⟩, db'⟩ <;> rfl

/-- A promotion stops at the gate or is a change of status. -/
theorem promote_cases (rt : Runtime) (catalogue : Catalogue) (regressionGate : String → Bool)
    (ruleId actorId : String) (bypassRegression : Bool) (db : RuleDb) :
    (bypassRegression = false ∧ regressionGate ruleId = false ∧
      promote rt catalogue regressionGate ruleId actorId bypassRegression db =
        (.error (promotionBlocked ruleId), db)) ∨
    ((bypassRegression = true ∨ regressionGate ruleId = true) ∧
      promote rt catalogue regressionGate ruleId actorId bypassRegression db =
        setStatus rt catalogue ruleId "promoted" actorId db) := by
  unfold promote
  cases bypassRegression with
  | true =>
      right
      exact ⟨Or.inl rfl, rfl⟩
  | false =>
      cases hgate : regressionGate ruleId with
      | true =>
          right
          exact ⟨Or.inr rfl, rfl⟩
      | false =>
          left
          exact ⟨rfl, rfl, rfl⟩

section Runs

variable {rt : Runtime} {catalogue : Catalogue} {author : String → Prop} {db : RuleDb}

theorem Lifecycle.call (h : Lifecycle rt catalogue author db) (hclock : StrictClock rt)
    {call : RuleCall} (hauthor : ∀ actorId, call.actor = some actorId → author actorId) :
    Lifecycle rt catalogue author (call.run rt catalogue db).2 := by
  cases call with
  | sync =>
      show Lifecycle rt catalogue author ((_ >>= _ : RuleService Unit) db).2
      rw [discard_run, syncCatalogRevisions_run]
      exact h.synced hclock
  | setStatus ruleId status actorId =>
      show Lifecycle rt catalogue author ((_ >>= _ : RuleService Unit) db).2
      rw [discard_run]
      exact h.setStatus hclock (hauthor actorId rfl)
  | promote ruleId actorId bypassRegression regressionGate =>
      show Lifecycle rt catalogue author ((_ >>= _ : RuleService Unit) db).2
      rw [discard_run]
      rcases promote_cases rt catalogue regressionGate ruleId actorId bypassRegression db with
        ⟨-, -, hrun⟩ | ⟨-, hrun⟩
      · rw [hrun]
        exact h
      · rw [hrun]
        exact h.setStatus hclock (hauthor actorId rfl)

theorem Lifecycle.run (h : Lifecycle rt catalogue author db) (hclock : StrictClock rt)
    {calls : List RuleCall}
    (hauthor : ∀ call ∈ calls, ∀ actorId, call.actor = some actorId → author actorId) :
    Lifecycle rt catalogue author (runRuleCalls rt catalogue calls db) := by
  induction calls generalizing db with
  | nil => exact h
  | cons call calls ih =>
      apply ih (h.call hclock (hauthor call (by simp)))
      intro other hother
      exact hauthor other (by simp [hother])

/-- The revisions are as before, or the catalogue revisions that were missing have been added. -/
def AtMostSynced (rt : Runtime) (catalogue : Catalogue) (db db' : RuleDb) : Prop :=
  db'.revisions = db.revisions ∨ db'.revisions = db.revisions ++ db.missingRevisions rt catalogue

theorem prepared_atMostSynced (ruleId : String) :
    AtMostSynced rt catalogue db (db.prepared rt catalogue ruleId) := by
  unfold RuleDb.prepared
  split
  · exact Or.inl rfl
  · exact Or.inr rfl

theorem setStatus_raises {ruleId status actorId : String} {e : Failure}
    (hraise : (Rules.setStatus rt catalogue ruleId status actorId db).1 = .error e) :
    AtMostSynced rt catalogue db (Rules.setStatus rt catalogue ruleId status actorId db).2 := by
  rcases setStatus_cases rt catalogue ruleId status actorId db with
    ⟨-, hrun⟩ | ⟨target, -, ⟨-, hrun⟩ | ⟨current, -, ⟨-, hrun⟩ | ⟨-, hrun⟩⟩⟩
  · rw [hrun]
    exact Or.inl rfl
  · rw [hrun]
    exact prepared_atMostSynced ruleId
  · rw [hrun]
    exact prepared_atMostSynced ruleId
  · rw [hrun] at hraise
    cases hraise

/-- A call whose result is dropped raises what the call does. -/
theorem discard_raises {α : Type} {m : RuleService α} {e : Failure}
    (hraise : ((m >>= fun _ => (pure () : RuleService Unit)) db).1 = .error e) :
    (m db).1 = .error e := by
  rw [discard_run] at hraise
  rcases hm : (m db).1 with e' | a
  · rw [hm] at hraise
    exact congrArg Except.error (Except.error.inj hraise)
  · rw [hm] at hraise
    cases hraise

/-- A call that raises adds nothing, or the catalogue revisions that were missing. -/
theorem raising_call {call : RuleCall} {e : Failure}
    (hraise : (call.run rt catalogue db).1 = .error e) :
    AtMostSynced rt catalogue db (call.run rt catalogue db).2 := by
  cases call with
  | sync =>
      have he : (syncCatalogRevisions rt catalogue db).1 = .error e := discard_raises hraise
      rw [syncCatalogRevisions_run] at he
      cases he
  | setStatus ruleId status actorId =>
      have he : (Rules.setStatus rt catalogue ruleId status actorId db).1 = .error e :=
        discard_raises hraise
      show AtMostSynced rt catalogue db ((_ >>= _ : RuleService Unit) db).2
      rw [discard_run]
      exact setStatus_raises he
  | promote ruleId actorId bypassRegression regressionGate =>
      have he : (Rules.promote rt catalogue regressionGate ruleId actorId bypassRegression db).1 =
        .error e := discard_raises hraise
      show AtMostSynced rt catalogue db ((_ >>= _ : RuleService Unit) db).2
      rw [discard_run]
      rcases promote_cases rt catalogue regressionGate ruleId actorId bypassRegression db with
        ⟨-, -, hrun⟩ | ⟨-, hrun⟩
      · rw [hrun]
        exact Or.inl rfl
      · rw [hrun] at he ⊢
        exact setStatus_raises he

end Runs

/-- The lifecycle of the rules, after any calls from an empty table. -/
theorem rule_lifecycle (rt : Runtime) (hclock : StrictClock rt) (catalogue : Catalogue)
    (calls : List RuleCall) (t : Ticks) :
    let db := runRuleCalls rt catalogue calls ⟨[], t⟩
    db.revisions.Pairwise (fun a b => a.created < b.created) ∧
    (∀ ruleId, db.history ruleId ≠ [] → ∃ rule ∈ catalogue.rules, rule.ruleId = ruleId ∧
      (∃ first, (db.history ruleId).head? = some first ∧ FromCatalog rule first) ∧
      (db.history ruleId).IsChain
        (Moves fun actorId => ∃ call ∈ calls, call.actor = some actorId) ∧
      ∀ row ∈ db.history ruleId, row.version = rule.version ∧ row.checksum = rule.checksum) ∧
    (∀ ruleId, db.latestRevision ruleId = (db.history ruleId).getLast?) ∧
    ∀ (call : RuleCall) (e : Failure), (call.run rt catalogue db).1 = .error e →
      ∃ added, (call.run rt catalogue db).2.revisions = db.revisions ++ added ∧
        (added.map RuleRevision.ruleId).Nodup ∧
        ∀ row ∈ added, ∃ rule ∈ catalogue.rules, db.history rule.ruleId = [] ∧
          FromCatalog rule row := by
  intro db
  have hdb : Lifecycle rt catalogue (fun actorId => ∃ call ∈ calls, call.actor = some actorId) db :=
    (lifecycle_empty rt catalogue _ t).run hclock
      fun call hcall actorId hactor => ⟨call, hcall, hactor⟩
  refine ⟨hdb.increasing, ?_, hdb.latestRevision, ?_⟩
  · intro ruleId hne
    obtain ⟨rule, hrule, rfl, hpath⟩ := hdb.paths ruleId hne
    exact ⟨rule, hrule, rfl, hpath.starts, hpath.steps, fun row hrow => hdb.sameVersion hrule hrow⟩
  · intro call e hraise
    rcases raising_call hraise with hsame | hadded
    · refine ⟨[], ?_, List.nodup_nil, by simp⟩
      rw [hsame, List.append_nil]
    · refine ⟨_, hadded, ?_, ?_⟩
      · unfold RuleDb.missingRevisions
        rw [map_ruleId_catalogRevisions]
        exact catalogue.missing_distinct db
      · intro row hrow
        obtain ⟨rule, hrule, id, n, -, -, rfl⟩ := mem_catalogRevisions hrow
        obtain ⟨hmem, hempty⟩ := hdb.declared.mem_missing.mp hrule
        exact ⟨rule, hmem, hempty, id, rt.now n, rfl⟩

theorem sampleRuntime_strictClock : StrictClock sampleRuntime := by
  intro n
  show (63839761325000000 + (n : Int)) - 0 < (63839761325000000 + ((n + 1 : Nat) : Int)) - 0
  omega

theorem rule_lifecycle_sample :
    let db := runRuleCalls sampleRuntime defaultCatalogue
      [.setStatus "identity.password_spray" "promoted" "usr_1", .sync,
        .setStatus "identity.password_spray" "draft" "usr_2"] {}
    ∀ ruleId, db.latestRevision ruleId = (db.history ruleId).getLast? :=
  (rule_lifecycle sampleRuntime sampleRuntime_strictClock defaultCatalogue _ {}).2.2.1

end BlueTeam.Rules
