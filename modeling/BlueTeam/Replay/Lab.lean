/- GID: BlueTeam/Replay/Lab
   generality: I
   source: packages/replay-engine/blueteam_replay/__init__.py
   digest: Replay jobs, their verdicts, and what the lab remembers of each rule. -/

import BlueTeam.Hashing
import BlueTeam.Lib.Chronicle
import BlueTeam.Replay.Range
import Mathlib.Algebra.Ring.Rat

set_option autoImplicit false
set_option relaxedAutoImplicit false

namespace BlueTeam.Replay

open BlueTeam.Python BlueTeam.Detection BlueTeam.Lib BlueTeam.Lib.Chronicle

structure ReplayDataset where
  datasetId : String
  name : String
  path : String
  checksum : String
  scenarioIds : List String := []
  deriving DecidableEq, Repr

structure Comparison where
  currentPassed : Nat
  candidatePassed : Nat
  currentLatency : Rat
  candidateLatency : Rat
  regressions : List String
  deriving DecidableEq, Repr

/-- What a job keeps of a scenario's result. -/
structure JobResult where
  scenarioId : String
  passed : Bool
  latencySeconds : Rat
  errors : List RangeError
  assertions : List DetectionAssertion
  deriving DecidableEq, Repr

/-- A job; the mode is the text of the request. -/
structure ReplayJob where
  jobId : String
  datasetId : String
  mode : String
  passed : Bool
  startedAt : String
  finishedAt : String
  latencySeconds : Rat
  results : List JobResult := []
  comparison : Option Comparison := none
  ruleIds : List String := []
  deriving DecidableEq, Repr

structure ReplayLab where
  datasets : Dict String ReplayDataset := []
  jobs : Dict String ReplayJob := []
  rulePass : Dict String Bool := []
  ticks : Ticks := {}

inductive LabError
  | python (e : Exn)
  | keyError (key : String)
  deriving DecidableEq, Repr

abbrev LabService (α : Type) := Exec ReplayLab LabError α

/-- The files under the scenario root, as they are at the time of a call. `resolve` takes a path
relative to the root; `loadScenarios` reads and validates every scenario below a directory. -/
structure ScenarioFiles where
  resolve : String → String
  withinRoot : String → Bool
  present : String → Bool
  isDir : String → Bool
  parent : String → String
  loadScenarios : String → Except Exn (List RangeScenario)

def drawLab {α : Type} (m : Draw α) : LabService α :=
  Exec.zoom ReplayLab.ticks (fun lab t => { lab with ticks := t }) .python m

def computeLab {α : Type} (r : Except Exn α) : LabService α :=
  Exec.lift (r.mapError .python)

def registerDataset (rt : Runtime) (files : ScenarioFiles) (name : String)
    (relativePath : String := ".") : LabService ReplayDataset := do
  let path := files.resolve relativePath
  if !files.withinRoot path then
    Exec.raise (.python (.valueError "dataset path must stay under Blue Range scenario root"))
  else if !files.present path then
    Exec.raise (.python (.valueError ("dataset path missing: " ++ path)))
  else do
    let directory := if files.isDir path then path else files.parent path
    let scenarios ← computeLab (files.loadScenarios directory)
    let ids := scenarios.map (·.id)
    let datasetId ← drawLab (newId rt "rds")
    let dataset : ReplayDataset :=
      { datasetId := datasetId
        name := name
        path := directory
        checksum := sha256Hex (String.intercalate "|" (sortedTexts ids))
        scenarioIds := ids }
    Exec.modify fun lab => { lab with datasets := lab.datasets.set datasetId dataset }
    pure dataset

def evaluateScenarios (rt : Runtime) (scenarios : List RangeScenario) (registry : Registry) :
    Draw (List RangeResult) :=
  Exec.loop (fun results scenario => do
    let result ← runScenario rt scenario registry
    pure (results ++ [result])) [] scenarios

/-- The nearest integer, ties to the even one. -/
def roundHalfEven (q : Rat) : Int :=
  let rest := q - q.floor
  if rest < 1 / 2 then q.floor
  else if 1 / 2 < rest then q.floor + 1
  else if q.floor % 2 = 0 then q.floor else q.floor + 1

/-- `round(q, 4)` -/
def round4 (q : Rat) : Rat :=
  roundHalfEven (q * 10000) / 10000

def regressions (current candidate : List RangeResult) : List String :=
  ((current.zip candidate).filter fun pair => pair.1.passed && !pair.2.passed).map
    fun pair => pair.2.scenarioId

def comparisonOf (current candidate : List RangeResult) : Comparison where
  currentPassed := current.countP (·.passed)
  candidatePassed := candidate.countP (·.passed)
  currentLatency := round4 (current.map (·.latencySeconds)).sum
  candidateLatency := round4 (candidate.map (·.latencySeconds)).sum
  regressions := regressions current candidate

/-- What a job concludes from its results. -/
structure Verdict where
  results : List RangeResult
  passed : Bool
  comparison : Option Comparison := none

def verdictAlone (current : List RangeResult) : Verdict where
  results := current
  passed := current.all (·.passed)

def verdictAgainst (mode : String) (current candidate : List RangeResult) : Verdict :=
  let comparison := comparisonOf current candidate
  if mode = "candidate" then
    { results := candidate
      passed := candidate.all (·.passed)
      comparison := some comparison }
  else
    { results := current
      passed := current.all (·.passed) && comparison.regressions.isEmpty
      comparison := some comparison }

/-- A candidate is only played in the modes that name it. -/
def judgeJob (rt : Runtime) (scenarios : List RangeScenario) (candidate : Option Registry)
    (mode : String) (current : List RangeResult) : Draw Verdict :=
  match candidate with
  | none => pure (verdictAlone current)
  | some registry =>
      if mode = "candidate" ∨ mode = "compare" then do
        let results ← evaluateScenarios rt scenarios registry
        pure (verdictAgainst mode current results)
      else pure (verdictAlone current)

def jobResult (result : RangeResult) : JobResult where
  scenarioId := result.scenarioId
  passed := result.passed
  latencySeconds := result.latencySeconds
  errors := result.errors
  assertions := result.assertions

/-- `sorted({assertion.rule_id ...})` -/
def ruleIdsOf (results : List RangeResult) : List String :=
  sortedTexts (toSet (results.flatMap fun result => result.assertions.map (·.ruleId)))

/-- The job is kept, and its verdict becomes that of every rule it covers. -/
def ReplayLab.record (lab : ReplayLab) (job : ReplayJob) : ReplayLab :=
  { lab with
    jobs := lab.jobs.set job.jobId job
    rulePass := job.ruleIds.foldl (fun passes ruleId => passes.set ruleId job.passed) lab.rulePass }

/-- The arguments of `ReplayLab.run`, and the files it finds. -/
structure JobRequest where
  files : ScenarioFiles
  datasetId : String
  current : Registry
  candidate : Option Registry := none
  mode : String := "current"

def run (rt : Runtime) (request : JobRequest) : LabService ReplayJob := do
  match ← Exec.gets fun lab => lab.datasets.get? request.datasetId with
  | none => Exec.raise (.keyError request.datasetId)
  | some dataset => do
      let started ← drawLab (utcnow rt)
      let scenarios ← computeLab (request.files.loadScenarios dataset.path)
      let current ← drawLab (evaluateScenarios rt scenarios request.current)
      let verdict ← drawLab (judgeJob rt scenarios request.candidate request.mode current)
      let finished ← drawLab (utcnow rt)
      let jobId ← drawLab (newId rt "rpl")
      let latency ← computeLab (totalSeconds started finished)
      let job : ReplayJob :=
        { jobId := jobId
          datasetId := request.datasetId
          mode := request.mode
          passed := verdict.passed
          startedAt := started.isoformat
          finishedAt := finished.isoformat
          latencySeconds := latency
          results := verdict.results.map jobResult
          comparison := verdict.comparison
          ruleIds := ruleIdsOf verdict.results }
      Exec.modify fun lab => lab.record job
      pure job

/-- `rule_regression_passed` -/
def ReplayLab.ruleRegressionPassed (lab : ReplayLab) (ruleId : String) : Bool :=
  (lab.rulePass.get? ruleId).getD false

/-! ### Verdicts -/

theorem evaluateScenarios_judged (rt : Runtime) (scenarios : List RangeScenario)
    (registry : Registry) :
    Exec.Triple (fun _ => True) (evaluateScenarios rt scenarios registry)
      (fun results _ => List.Forall₂ Judged scenarios results) (fun _ _ => True) := by
  -- What is played so far, with its results, comes before what is still to be played.
  let I : List RangeResult → List RangeScenario → Ticks → Prop := fun results rest _ =>
    ∃ played, scenarios = played ++ rest ∧ List.Forall₂ Judged played results
  have hloop := Exec.triple_loop (E := fun (_ : Exn) (_ : Ticks) => True)
    (f := fun results scenario => do
      let result ← runScenario rt scenario registry
      pure (results ++ [result])) I ?_ [] scenarios
  · apply (hloop.pre ?_).post ?_
    · intro _ _
      exact ⟨[], rfl, List.Forall₂.nil⟩
    · rintro results _ ⟨played, hplayed, hjudged⟩
      rw [List.append_nil] at hplayed
      rw [hplayed]
      exact hjudged
  · intro results scenario rest
    constructor
    rintro t ⟨played, hplayed, hjudged⟩
    have hone := (runScenario_judged rt scenario registry).run t trivial
    rw [Exec.bind_run]
    rcases hrun : runScenario rt scenario registry t with ⟨⟨e⟩ | ⟨result⟩, t'⟩
    · trivial
    · rw [hrun] at hone
      refine ⟨played ++ [scenario], by simp [hplayed], ?_⟩
      exact List.rel_append hjudged (List.Forall₂.cons hone List.Forall₂.nil)

theorem forall₂_passed {scenarios : List RangeScenario} {results : List RangeResult}
    (h : List.Forall₂ Judged scenarios results) (hpassed : ∀ r ∈ results, r.passed = true) :
    List.Forall₂ Passed scenarios results := by
  induction h with
  | nil => exact List.Forall₂.nil
  | cons hone _ ih =>
      apply List.Forall₂.cons (hone.of_passed (hpassed _ (by simp)))
      exact ih fun r hr => hpassed r (by simp [hr])

theorem observed_of_passed {scenarios : List RangeScenario} {results : List RangeResult}
    (h : List.Forall₂ Passed scenarios results) :
    ∀ r ∈ results, ∀ a ∈ r.assertions, a.expectedMin ≤ a.observed := by
  induction h with
  | nil => simp
  | cons hone _ ih =>
      intro r hr
      rcases List.mem_cons.mp hr with rfl | hr
      · exact hone.observed
      · exact ih r hr

/-- Nothing regressed among results that pass exactly if all of the second list pass. -/
theorem no_regression_iff {current candidate : List RangeResult}
    (hlength : current.length = candidate.length) (hcurrent : ∀ r ∈ current, r.passed = true) :
    regressions current candidate = [] ↔ ∀ r ∈ candidate, r.passed = true := by
  induction current generalizing candidate with
  | nil =>
      obtain rfl := List.length_eq_zero_iff.mp hlength.symm
      simp [regressions]
  | cons cur current ih =>
      cases candidate with
      | nil => cases hlength
      | cons cand candidate =>
          have htail := ih (Nat.succ.inj hlength) fun r hr => hcurrent r (by simp [hr])
          have hcur : cur.passed = true := hcurrent cur (by simp)
          unfold regressions at htail ⊢
          cases hcand : cand.passed with
          | true => simpa [hcur, hcand] using htail
          | false => simp [hcur, hcand]

theorem compare_passed_iff {current candidate : List RangeResult}
    (hlength : current.length = candidate.length) :
    (verdictAgainst "compare" current candidate).passed = true ↔
      (∀ r ∈ current, r.passed = true) ∧ ∀ r ∈ candidate, r.passed = true := by
  have hmode : ("compare" : String) ≠ "candidate" := by decide
  unfold verdictAgainst
  rw [if_neg hmode]
  simp only [Bool.and_eq_true, List.all_eq_true, List.isEmpty_iff]
  constructor
  · rintro ⟨hcurrent, hnone⟩
    exact ⟨hcurrent, (no_regression_iff hlength hcurrent).mp hnone⟩
  · rintro ⟨hcurrent, hcandidate⟩
    exact ⟨hcurrent, (no_regression_iff hlength hcurrent).mpr hcandidate⟩

/-- The verdict of a job on its scenarios; `t` are the ticks after the current registry was played. -/
structure Concluded (rt : Runtime) (request : JobRequest) (scenarios : List RangeScenario)
    (current : List RangeResult) (t : Ticks) (verdict : Verdict) : Prop where
  judged : List.Forall₂ Judged scenarios verdict.results
  passed : verdict.passed = true → ∀ r ∈ verdict.results, r.passed = true
  compared : request.mode = "compare" → ∀ candidate, request.candidate = some candidate →
    ∃ results t', evaluateScenarios rt scenarios candidate t = (.ok results, t') ∧
      verdict.results = current ∧ List.Forall₂ Judged scenarios results ∧
      (verdict.passed = true ↔
        (∀ r ∈ current, r.passed = true) ∧ ∀ r ∈ results, r.passed = true)

theorem judgeJob_concluded {rt : Runtime} {request : JobRequest} {scenarios : List RangeScenario}
    {current : List RangeResult} (hcurrent : List.Forall₂ Judged scenarios current)
    {t t' : Ticks} {verdict : Verdict}
    (h : judgeJob rt scenarios request.candidate request.mode current t = (.ok verdict, t')) :
    Concluded rt request scenarios current t verdict := by
  have halone : ∀ r ∈ (verdictAlone current).results, (verdictAlone current).passed = true →
      r.passed = true := by
    intro r hr hpassed
    exact List.all_eq_true.mp hpassed r hr
  unfold judgeJob at h
  cases hcandidate : request.candidate with
  | none =>
      rw [hcandidate] at h
      obtain rfl : verdictAlone current = verdict := Except.ok.inj (Prod.mk.inj h).1
      refine ⟨hcurrent, fun hpassed r hr => halone r hr hpassed, ?_⟩
      intro _ candidate hsome
      rw [hcandidate] at hsome
      cases hsome
  | some registry =>
      rw [hcandidate] at h
      by_cases hmode : request.mode = "candidate" ∨ request.mode = "compare"
      · simp only [if_pos hmode] at h
        obtain ⟨results, t₁, hrun, hpure⟩ := Exec.ok_of_bind h
        have hresults : List.Forall₂ Judged scenarios results :=
          (evaluateScenarios_judged rt scenarios registry).ok trivial hrun
        have hlength : current.length = results.length :=
          hcurrent.length_eq.symm.trans hresults.length_eq
        obtain rfl : verdictAgainst request.mode current results = verdict :=
          Except.ok.inj (Prod.mk.inj hpure).1
        by_cases hcand : request.mode = "candidate"
        · have hverdict : verdictAgainst request.mode current results =
              { results := results
                passed := results.all (·.passed)
                comparison := some (comparisonOf current results) } := by
            unfold verdictAgainst
            rw [if_pos hcand]
          rw [hverdict]
          refine ⟨hresults, fun hpassed => List.all_eq_true.mp hpassed, ?_⟩
          intro hcompare
          rw [hcand] at hcompare
          exact absurd hcompare (by decide)
        · have hcompare : request.mode = "compare" := hmode.resolve_left hcand
          rw [hcompare]
          have hrecorded : (verdictAgainst "compare" current results).results = current := by
            unfold verdictAgainst
            rw [if_neg (by decide)]
          refine ⟨?_, ?_, ?_⟩
          · rw [hrecorded]
            exact hcurrent
          · intro hpassed
            rw [hrecorded]
            exact ((compare_passed_iff hlength).mp hpassed).1
          · intro _ candidate hsome
            obtain rfl : registry = candidate := Option.some.inj (hcandidate.symm.trans hsome)
            exact ⟨results, t₁, hrun, hrecorded, hresults, compare_passed_iff hlength⟩
      · simp only [if_neg hmode] at h
        obtain rfl : verdictAlone current = verdict := Except.ok.inj (Prod.mk.inj h).1
        refine ⟨hcurrent, fun hpassed r hr => halone r hr hpassed, ?_⟩
        intro hcompare
        exact absurd (Or.inr hcompare) hmode

/-! ### Jobs -/

theorem drawLab_run {α : Type} (m : Draw α) (lab : ReplayLab) :
    drawLab m lab = ((m lab.ticks).1.mapError .python, { lab with ticks := (m lab.ticks).2 }) := rfl

theorem drawLab_ok {α : Type} {m : Draw α} {lab lab' : ReplayLab} {a : α}
    (h : drawLab m lab = (.ok a, lab')) :
    ∃ t, m lab.ticks = (.ok a, t) ∧ lab' = { lab with ticks := t } := by
  rw [drawLab_run] at h
  rcases hm : m lab.ticks with ⟨⟨e⟩ | ⟨b⟩, t⟩
  · rw [hm] at h
    cases h
  · rw [hm] at h
    cases h
    exact ⟨t, rfl, rfl⟩

theorem computeLab_ok {α : Type} {r : Except Exn α} {lab lab' : ReplayLab} {a : α}
    (h : computeLab r lab = (.ok a, lab')) : r = .ok a ∧ lab' = lab := by
  cases r with
  | error e => cases h
  | ok b =>
      cases h
      exact ⟨rfl, rfl⟩

/-- What a job that ends has done. -/
structure Ran (rt : Runtime) (request : JobRequest) (lab : ReplayLab) (job : ReplayJob)
    (dataset : ReplayDataset) (scenarios : List RangeScenario) (current : List RangeResult)
    (t : Ticks) (verdict : Verdict) : Prop where
  found : lab.datasets.get? request.datasetId = some dataset
  loaded : request.files.loadScenarios dataset.path = .ok scenarios
  played : evaluateScenarios rt scenarios request.current
    { lab.ticks with readings := lab.ticks.readings + 1 } = (.ok current, t)
  judged : List.Forall₂ Judged scenarios current
  concluded : Concluded rt request scenarios current t verdict
  passed : job.passed = verdict.passed
  results : job.results = verdict.results.map jobResult
  ruleIds : job.ruleIds = ruleIdsOf verdict.results

theorem run_ok {rt : Runtime} {request : JobRequest} {lab lab' : ReplayLab} {job : ReplayJob}
    (h : run rt request lab = (.ok job, lab')) :
    (∃ dataset scenarios current t verdict,
      Ran rt request lab job dataset scenarios current t verdict) ∧
    ∃ t, lab' = ReplayLab.record { lab with ticks := t } job := by
  unfold run at h
  obtain ⟨found, lab₀, hfound, h⟩ := Exec.ok_of_bind h
  obtain ⟨hdataset, rfl⟩ : lab.datasets.get? request.datasetId = found ∧ lab = lab₀ := by
    cases hfound
    exact ⟨rfl, rfl⟩
  cases found with
  | none => cases h
  | some dataset =>
      obtain ⟨started, lab₁, hstarted, h⟩ := Exec.ok_of_bind h
      obtain ⟨t₁, hstart, rfl⟩ := drawLab_ok hstarted
      obtain rfl : { lab.ticks with readings := lab.ticks.readings + 1 } = t₁ :=
        (Prod.mk.inj hstart).2
      obtain ⟨scenarios, lab₂, hload, h⟩ := Exec.ok_of_bind h
      obtain ⟨hfiles, rfl⟩ := computeLab_ok hload
      obtain ⟨current, lab₃, hcurrent, h⟩ := Exec.ok_of_bind h
      obtain ⟨t₃, heval, rfl⟩ := drawLab_ok hcurrent
      obtain ⟨verdict, lab₄, hverdict, h⟩ := Exec.ok_of_bind h
      obtain ⟨t₄, hjudge, rfl⟩ := drawLab_ok hverdict
      obtain ⟨finished, lab₅, hfinished, h⟩ := Exec.ok_of_bind h
      obtain ⟨t₅, -, rfl⟩ := drawLab_ok hfinished
      obtain ⟨jobId, lab₆, hjobId, h⟩ := Exec.ok_of_bind h
      obtain ⟨t₆, -, rfl⟩ := drawLab_ok hjobId
      obtain ⟨latency, lab₇, hlatency, h⟩ := Exec.ok_of_bind h
      obtain ⟨-, rfl⟩ := computeLab_ok hlatency
      obtain ⟨u, lab₈, hrecord, h⟩ := Exec.ok_of_bind h
      cases hrecord
      cases h
      have hjudged : List.Forall₂ Judged scenarios current :=
        (evaluateScenarios_judged rt scenarios request.current).ok trivial heval
      refine ⟨⟨dataset, scenarios, current, t₃, verdict, ?_⟩, t₆, rfl⟩
      exact ⟨hdataset, hfiles, heval, hjudged, judgeJob_concluded hjudged hjudge,
        rfl, rfl, rfl⟩

/-- The jobs and the verdicts of the rules are as they were. -/
structure KeepsJobs (lab lab' : ReplayLab) : Prop where
  jobs : lab'.jobs = lab.jobs
  rulePass : lab'.rulePass = lab.rulePass

section Keeping

variable {α : Type} {lab : ReplayLab}

theorem drawLab_keeps (m : Draw α) :
    Exec.Triple (KeepsJobs lab) (drawLab m) (fun _ => KeepsJobs lab) (fun _ => KeepsJobs lab) := by
  apply Exec.triple_zoom
  · intro lab' _ _ h _
    exact ⟨h.jobs, h.rulePass⟩
  · intro lab' _ _ h _
    exact ⟨h.jobs, h.rulePass⟩

theorem computeLab_keeps (r : Except Exn α) :
    Exec.Triple (KeepsJobs lab) (computeLab r) (fun _ => KeepsJobs lab)
      (fun _ => KeepsJobs lab) :=
  Exec.triple_lift (fun _ _ _ h => h) (fun _ _ _ h => h)

theorem registerDataset_keeps (lab : ReplayLab) (rt : Runtime) (files : ScenarioFiles) (name relativePath : String) :
    Exec.Triple (KeepsJobs lab) (registerDataset rt files name relativePath)
      (fun _ => KeepsJobs lab) (fun _ => KeepsJobs lab) := by
  unfold registerDataset
  dsimp only
  split
  · exact Exec.triple_raise fun _ h => h
  · split
    · exact Exec.triple_raise fun _ h => h
    · apply Exec.triple_bind (computeLab_keeps _)
      intro scenarios
      apply Exec.triple_bind (drawLab_keeps _)
      intro datasetId
      apply Exec.triple_bind (Q := fun _ => KeepsJobs lab)
      · exact Exec.triple_modify fun _ h => ⟨h.jobs, h.rulePass⟩
      · intro _
        exact Exec.triple_pure fun _ h => h

/-- A job that raises leaves no trace among the jobs. -/
theorem run_error_keeps (rt : Runtime) (request : JobRequest) :
    Exec.Triple (KeepsJobs lab) (run rt request) (fun _ _ => True) (fun _ => KeepsJobs lab) := by
  unfold run
  apply Exec.triple_bind (Q := fun _ => KeepsJobs lab) (Exec.triple_gets fun _ h => h)
  intro found
  cases found with
  | none => exact Exec.triple_raise fun _ h => h
  | some dataset =>
      apply Exec.triple_bind (drawLab_keeps _)
      intro started
      apply Exec.triple_bind (computeLab_keeps _)
      intro scenarios
      apply Exec.triple_bind (drawLab_keeps _)
      intro current
      apply Exec.triple_bind (drawLab_keeps _)
      intro verdict
      apply Exec.triple_bind (drawLab_keeps _)
      intro finished
      apply Exec.triple_bind (drawLab_keeps _)
      intro jobId
      apply Exec.triple_bind (computeLab_keeps _)
      intro latency
      apply Exec.triple_bind (Q := fun _ _ => True) (Exec.triple_modify fun _ _ => trivial)
      intro _
      exact Exec.triple_pure fun _ _ => trivial

end Keeping

/-! ### Runs -/

inductive LabCall
  | register (files : ScenarioFiles) (name relativePath : String)
  | run (request : JobRequest)

/-- A call, with the job it returned if it was one. -/
def LabCall.step (rt : Runtime) (lab : ReplayLab) : LabCall → Option ReplayJob × ReplayLab
  | .register files name relativePath =>
      (none, (registerDataset rt files name relativePath lab).2)
  | .run request => ((Replay.run rt request lab).1.toOption, (Replay.run rt request lab).2)

/-- The calls one after another, with the jobs they returned. -/
def runLab (rt : Runtime) : List LabCall → ReplayLab → List ReplayJob × ReplayLab
  | [], lab => ([], lab)
  | call :: calls, lab =>
      let (job, lab') := call.step rt lab
      let (jobs, lab'') := runLab rt calls lab'
      (job.toList ++ jobs, lab'')

/-- The results of the job contain an assertion on the rule. -/
def ReplayJob.covers (ruleId : String) (job : ReplayJob) : Bool :=
  job.results.any fun result => result.assertions.any fun a => a.ruleId = ruleId

theorem mem_ruleIdsOf {results : List RangeResult} {ruleId : String} :
    ruleId ∈ ruleIdsOf results ↔
      ∃ result ∈ results, ∃ a ∈ result.assertions, a.ruleId = ruleId := by
  unfold ruleIdsOf sortedTexts
  rw [List.mem_insertionSort, mem_toSet]
  simp

theorem Ran.covers {rt : Runtime} {request : JobRequest} {lab : ReplayLab} {job : ReplayJob}
    {dataset : ReplayDataset} {scenarios : List RangeScenario} {current : List RangeResult}
    {t : Ticks} {verdict : Verdict} (h : Ran rt request lab job dataset scenarios current t verdict)
    (ruleId : String) : job.covers ruleId = true ↔ ruleId ∈ job.ruleIds := by
  rw [h.ruleIds, mem_ruleIdsOf]
  unfold ReplayJob.covers
  rw [h.results]
  simp [jobResult]

/-- What the lab answers for every rule is the verdict of the latest of some jobs that covers it. -/
def Remembers (lab : ReplayLab) (jobs : List ReplayJob) : Prop :=
  ∀ ruleId, lab.rulePass.get? ruleId = (latest (ReplayJob.covers ruleId) jobs).map (·.passed)

theorem Remembers.keep {lab lab' : ReplayLab} {jobs : List ReplayJob} (h : Remembers lab jobs)
    (hkeep : KeepsJobs lab lab') : Remembers lab' jobs := by
  intro ruleId
  rw [hkeep.rulePass]
  exact h ruleId

theorem Remembers.step {lab : ReplayLab} {jobs : List ReplayJob}
    (h : Remembers lab jobs) (rt : Runtime) (call : LabCall) :
    Remembers (call.step rt lab).2 (jobs ++ (call.step rt lab).1.toList) := by
  have hself : KeepsJobs lab lab := ⟨rfl, rfl⟩
  cases call with
  | register files name relativePath =>
      have hrun := (registerDataset_keeps lab rt files name relativePath).run lab hself
      show Remembers (registerDataset rt files name relativePath lab).2 (jobs ++ [])
      rw [List.append_nil]
      apply h.keep
      rcases hreg : registerDataset rt files name relativePath lab with ⟨⟨e⟩ | ⟨d⟩, lab'⟩
      · rw [hreg] at hrun
        exact hrun
      · rw [hreg] at hrun
        exact hrun
  | run request =>
      show Remembers (Replay.run rt request lab).2
        (jobs ++ (Replay.run rt request lab).1.toOption.toList)
      rcases hrun : Replay.run rt request lab with ⟨⟨e⟩ | ⟨job⟩, lab'⟩
      · show Remembers lab' (jobs ++ [])
        rw [List.append_nil]
        exact h.keep ((run_error_keeps rt request).error hself hrun)
      · obtain ⟨⟨dataset, scenarios, current, t₁, verdict, hran⟩, t, rfl⟩ := run_ok hrun
        intro ruleId
        show (ReplayLab.record _ job).rulePass.get? ruleId =
          (latest (ReplayJob.covers ruleId) (jobs ++ [job])).map (·.passed)
        rw [latest_concat]
        show (job.ruleIds.foldl (fun passes ruleId => Dict.set passes ruleId job.passed)
          lab.rulePass).get? ruleId = _
        rw [Dict.get?_foldl_set]
        by_cases hcovers : job.covers ruleId = true
        · rw [if_pos ((hran.covers ruleId).mp hcovers), if_pos hcovers]
          rfl
        · rw [if_neg (fun hmem => hcovers ((hran.covers ruleId).mpr hmem)), if_neg hcovers]
          exact h ruleId

theorem Remembers.run {rt : Runtime} (calls : List LabCall) {lab : ReplayLab}
    {jobs : List ReplayJob} (h : Remembers lab jobs) :
    Remembers (runLab rt calls lab).2 (jobs ++ (runLab rt calls lab).1) := by
  induction calls generalizing lab jobs with
  | nil =>
      show Remembers lab (jobs ++ [])
      rw [List.append_nil]
      exact h
  | cons call calls ih =>
      have hrest := ih (h.step rt call)
      rw [List.append_assoc] at hrest
      exact hrest

/-- The state of the regression lab, after any calls from an empty one. -/
theorem replay_lab_regression_state (rt : Runtime) (calls : List LabCall) (t : Ticks) :
    let jobs := (runLab rt calls { ticks := t }).1
    let lab := (runLab rt calls { ticks := t }).2
    (∀ ruleId, lab.ruleRegressionPassed ruleId = true ↔
      ∃ job, latest (ReplayJob.covers ruleId) jobs = some job ∧ job.passed = true) ∧
    ∀ request job lab', Replay.run rt request lab = (.ok job, lab') →
      ∃ dataset scenarios current results t,
        lab.datasets.get? request.datasetId = some dataset ∧
        request.files.loadScenarios dataset.path = .ok scenarios ∧
        evaluateScenarios rt scenarios request.current
          { lab.ticks with readings := lab.ticks.readings + 1 } = (.ok current, t) ∧
        job.results = results.map jobResult ∧ List.Forall₂ Judged scenarios results ∧
        (request.mode = "compare" → ∀ candidate, request.candidate = some candidate →
          ∃ played t', evaluateScenarios rt scenarios candidate t = (.ok played, t') ∧
            results = current ∧ (job.passed = true ↔
              (∀ r ∈ current, r.passed = true) ∧ ∀ r ∈ played, r.passed = true)) ∧
        (job.passed = true →
          (∀ result ∈ job.results, ∀ a ∈ result.assertions, a.expectedMin ≤ a.observed) ∧
          List.Forall₂ Passed scenarios results) := by
  intro jobs lab
  have hremembers : Remembers lab jobs := by
    have hempty : Remembers { ticks := t } [] := fun ruleId => rfl
    exact hempty.run calls
  constructor
  · intro ruleId
    unfold ReplayLab.ruleRegressionPassed
    rw [hremembers ruleId]
    cases latest (ReplayJob.covers ruleId) jobs with
    | none => simp
    | some job => simp
  · intro request job lab' hrun
    obtain ⟨⟨dataset, scenarios, current, t₁, verdict, hran⟩, -, -⟩ := run_ok hrun
    refine ⟨dataset, scenarios, current, verdict.results, t₁, hran.found, hran.loaded, hran.played,
      hran.results, hran.concluded.judged, ?_, ?_⟩
    · intro hmode candidate hcandidate
      obtain ⟨played, t₂, hplay, hrecorded, -, hiff⟩ :=
        hran.concluded.compared hmode candidate hcandidate
      refine ⟨played, t₂, hplay, hrecorded, ?_⟩
      rw [hran.passed]
      exact hiff
    · intro hpassed
      rw [hran.passed] at hpassed
      have hall := hran.concluded.passed hpassed
      have hpass := forall₂_passed hran.concluded.judged hall
      refine ⟨?_, hpass⟩
      intro result hresult a ha
      rw [hran.results] at hresult
      obtain ⟨r, hr, rfl⟩ := List.mem_map.mp hresult
      exact observed_of_passed hpass r hr a ha

end BlueTeam.Replay
