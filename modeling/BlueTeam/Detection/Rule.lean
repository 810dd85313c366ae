/- GID: BlueTeam/Detection/Rule
   generality: I
   source: packages/detection-sdk/blueteam_detection/context.py, rule.py, registry.py,
     detections/python/shared.py, detections/python/identity/_common.py
   digest: Detection rules over an injected window of events, and the findings they produce. -/

import BlueTeam.Schema.Records

set_option autoImplicit false
set_option relaxedAutoImplicit false

namespace BlueTeam.Detection

open BlueTeam.Python BlueTeam.Schema BlueTeam.Lib

/-- The elements that pass a test which may raise. -/
def filterRaising {α : Type} (p : α → Except Exn Bool) : List α → Except Exn (List α)
  | [] => .ok []
  | a :: as => do
      let keep ← p a
      let rest ← filterRaising p as
      pure (if keep then a :: rest else rest)

/-- Where the test never raises, it filters. -/
theorem filterRaising_eq {α : Type} {p : α → Except Exn Bool} {q : α → Bool} {as : List α}
    (h : ∀ a ∈ as, p a = .ok (q a)) : filterRaising p as = .ok (as.filter q) := by
  induction as with
  | nil => rfl
  | cons a as ih =>
      unfold filterRaising
      rw [h a List.mem_cons_self, ih fun b hb => h b (List.mem_cons_of_mem _ hb), List.filter_cons]
      rfl

/-- The optional filters of `EventWindow.query`; an empty text filters nothing. -/
structure Filters where
  eventType : Option String := none
  category : Option String := none
  outcome : Option Outcome := none
  srcIp : Option String := none
  userName : Option String := none
  action : Option String := none

/-- The name of the event's user. -/
def eventUser (event : CanonicalEvent) : Option String :=
  event.user.bind (·.name)

/-- `not wanted or actual == wanted` -/
def passes (wanted actual : Option String) : Bool :=
  !given wanted || actual = wanted

def Filters.admits (f : Filters) (event : CanonicalEvent) : Bool :=
  passes f.eventType (some event.eventType) && passes f.category (some event.category) &&
    (f.outcome.isNone || event.outcome = f.outcome) && passes f.srcIp event.srcIp &&
    passes f.userName (eventUser event) && passes f.action event.action

/-- One turn of the loop of `EventWindow.query`. -/
def inWindow (tenantId : String) (since until_ : DateTime) (f : Filters) (event : CanonicalEvent) :
    Except Exn Bool :=
  if event.tenantId ≠ tenantId then pure false
  else do
    let early ← event.timestamp.lt since
    if early then pure false
    else do
      let late ← until_.lt event.timestamp
      pure (!late && f.admits event)

/-- The injected window and the fingerprints of the findings that exist. -/
structure DetectionContext where
  window : List CanonicalEvent
  openFingerprints : List String
  scheduled : Bool := false

/-- `context.events_in_window(event, seconds, **filters)` -/
def DetectionContext.eventsInWindow (context : DetectionContext) (event : CanonicalEvent)
    (seconds : Nat) (f : Filters) : Except Exn (List CanonicalEvent) := do
  let since ← event.timestamp.before seconds
  filterRaising (inWindow event.tenantId since event.timestamp f) context.window

inductive Execution
  | realtime
  | scheduled
  deriving DecidableEq, Repr

structure RuleMeta where
  ruleId : String
  name : String
  description : String
  version : String
  severity : Severity
  confidence : Rat
  mitreTactics : List String := []
  mitreTechniques : List String := []
  execution : Execution := .realtime

/-- What a rule found: the part of the fingerprint after rule and tenant, the events it rests on
and the explanation. -/
structure Selection where
  tail : String
  related : List CanonicalEvent
  explanation : String

/-- A detection rule. All rules end alike: they form the fingerprint, stop if it is already open,
and build one finding. -/
structure DetectionRule where
  info : RuleMeta
  separator : String := ":"
  attributes : CanonicalEvent → Except Exn (List (String × String))
  selects : Runtime → DetectionContext → CanonicalEvent → Except Exn (Option Selection)

/-- The attributes of `detections/python/shared.py`. -/
def sharedAttributes (trigger : CanonicalEvent) : Except Exn (List (String × String)) :=
  .ok [("src_ip", trigger.srcIp.getD ""), ("dst_ip", trigger.dstIp.getD ""),
    ("user", (eventUser trigger).getD ""), ("host", (trigger.host.bind (·.name)).getD ""),
    ("process", (trigger.process.bind (·.name)).getD "")]

/-- The attributes of `detections/python/identity/_common.py`: a user without a name gives `None`,
which the model `Finding` refuses. -/
def identityAttributes (trigger : CanonicalEvent) : Except Exn (List (String × String)) :=
  match trigger.user with
  | none => .ok [("src_ip", trigger.srcIp.getD ""), ("user", "")]
  | some user =>
      match user.name with
      | some name => .ok [("src_ip", trigger.srcIp.getD ""), ("user", name)]
      | none => .error (.validationError "Finding" [("attributes.user", some .null)])

/-- The event ids of a finding: the trigger comes first if it is not among the related events. -/
def eventIdsOf (trigger : CanonicalEvent) (related : List CanonicalEvent) : List String :=
  let ids := related.map (·.id)
  if trigger.id ∈ ids then ids else trigger.id :: ids

def findingFromEvents (rt : Runtime) (rule : DetectionRule) (trigger : CanonicalEvent)
    (related : List CanonicalEvent) (fingerprint explanation : String) : Draw Finding := do
  let id ← newId rt "fnd"
  let createdAt ← utcnow rt
  let attributes ← Exec.lift (rule.attributes trigger)
  pure
    { id := id
      tenantId := trigger.tenantId
      ruleId := rule.info.ruleId
      ruleVersion := rule.info.version
      title := rule.info.name
      description := rule.info.description
      severity := rule.info.severity
      confidence := rule.info.confidence
      fingerprint := fingerprint
      mitreTactics := rule.info.mitreTactics
      mitreTechniques := rule.info.mitreTechniques
      eventIds := eventIdsOf trigger related
      evidence := related.map fun event =>
        { evidenceId := "evi_pending_" ++ event.id
          eventId := some event.id
          role := if event.id = trigger.id then .trigger else .supporting }
      explanation := explanation
      createdAt := createdAt
      attributes := attributes }

namespace DetectionRule

def fingerprint (rule : DetectionRule) (tenantId tail : String) : String :=
  rule.info.ruleId ++ rule.separator ++ tenantId ++ rule.separator ++ tail

def evaluate (rt : Runtime) (rule : DetectionRule) (event : CanonicalEvent)
    (context : DetectionContext) : Draw (List Finding) := do
  match ← Exec.lift (rule.selects rt context event) with
  | none => pure []
  | some selection =>
      let fingerprint := rule.fingerprint event.tenantId selection.tail
      if fingerprint ∈ context.openFingerprints then pure []
      else do
        let finding ← findingFromEvents rt rule event selection.related fingerprint
          selection.explanation
        pure [finding]

/-- Realtime rules run on ingest only, scheduled rules on the scheduled runner only. -/
def runsIn (rule : DetectionRule) (context : DetectionContext) : Bool :=
  match rule.info.execution with
  | .realtime => !context.scheduled
  | .scheduled => context.scheduled

end DetectionRule

/-- `DetectionRegistry.evaluate` -/
def evaluateAll (rt : Runtime) (rules : List DetectionRule) (event : CanonicalEvent)
    (context : DetectionContext) : Draw (List Finding) :=
  Exec.loop (fun findings rule =>
    if rule.runsIn context then do
      let more ← rule.evaluate rt event context
      pure (findings ++ more)
    else pure findings) [] rules

/-! ### Fingerprints tell the rules apart -/

/-- The rule id has no separator character in it, and the separator is one. -/
def DetectionRule.WellNamed (rule : DetectionRule) : Prop :=
  (∀ c ∈ rule.info.ruleId.toList, c ≠ ':' ∧ c ≠ '|') ∧
    (rule.separator = ":" ∨ rule.separator = "|")

instance (rule : DetectionRule) : Decidable rule.WellNamed :=
  haveI : Decidable (∀ c ∈ rule.info.ruleId.toList, c ≠ ':' ∧ c ≠ '|') := List.decidableBAll _ _
  inferInstanceAs (Decidable (_ ∧ _))

/-- The part of a fingerprint before the first separator. -/
def ruleOf (fingerprint : String) : List Char :=
  fingerprint.toList.takeWhile fun c => c ≠ ':' && c ≠ '|'

theorem ruleOf_fingerprint {rule : DetectionRule} (h : rule.WellNamed) (tenantId tail : String) :
    ruleOf (rule.fingerprint tenantId tail) = rule.info.ruleId.toList := by
  obtain ⟨hid, hsep⟩ := h
  have hall : ∀ c ∈ rule.info.ruleId.toList, (c ≠ ':' && c ≠ '|') = true := by
    intro c hc
    simpa using hid c hc
  unfold ruleOf DetectionRule.fingerprint
  rw [String.toList_append, String.toList_append, String.toList_append, String.toList_append,
    List.append_assoc, List.append_assoc, List.append_assoc, List.takeWhile_append_of_pos hall]
  rcases hsep with hsep | hsep <;> simp [hsep]

/-- A rule yields at most one finding, under its own fingerprint. -/
theorem evaluate_fingerprint (rt : Runtime) (rule : DetectionRule) (event : CanonicalEvent)
    (context : DetectionContext) :
    Exec.Triple (fun _ => True) (rule.evaluate rt event context)
      (fun findings _ => findings = [] ∨ ∃ finding tail,
        findings = [finding] ∧ finding.fingerprint = rule.fingerprint event.tenantId tail)
      (fun _ _ => True) := by
  unfold DetectionRule.evaluate
  refine Exec.triple_bind (Q := fun _ _ => True) ?_ fun selected => ?_
  · exact Exec.triple_lift (fun _ _ _ _ => trivial) (fun _ _ _ _ => trivial)
  · cases selected with
    | none => exact Exec.triple_pure fun _ _ => .inl rfl
    | some selection =>
        dsimp only
        split
        · exact Exec.triple_pure fun _ _ => .inl rfl
        · refine Exec.triple_bind (Q := fun finding _ => finding.fingerprint =
            rule.fingerprint event.tenantId selection.tail) ?_ fun finding => ?_
          · unfold findingFromEvents
            refine Exec.triple_bind (Q := fun _ _ => True) ⟨fun _ _ => trivial⟩ fun id => ?_
            refine Exec.triple_bind (Q := fun _ _ => True) ⟨fun _ _ => trivial⟩ fun at_ => ?_
            refine Exec.triple_bind (Q := fun _ _ => True) ?_ fun attributes => ?_
            · exact Exec.triple_lift (fun _ _ _ _ => trivial) (fun _ _ _ _ => trivial)
            · exact Exec.triple_pure fun _ _ => rfl
          · exact Exec.triple_pure fun _ h => .inr ⟨finding, selection.tail, rfl, h⟩

/-- Rules with different ids never give one fingerprint twice in one evaluation. -/
theorem evaluateAll_fingerprints_nodup (rt : Runtime) {rules : List DetectionRule}
    (hnamed : ∀ rule ∈ rules, rule.WellNamed) (hids : (rules.map (·.info.ruleId)).Nodup)
    (event : CanonicalEvent) (context : DetectionContext) :
    Exec.Triple (fun _ => True) (evaluateAll rt rules event context)
      (fun findings _ => (findings.map (·.fingerprint)).Nodup) (fun _ _ => True) := by
  -- What is found so far stems from rules that do not come any more.
  let I : List Finding → List DetectionRule → Ticks → Prop := fun findings rest _ =>
    (findings.map (·.fingerprint)).Nodup ∧ (rest.map (·.info.ruleId)).Nodup ∧
      (∀ rule ∈ rest, rule.WellNamed) ∧
      ∀ finding ∈ findings, ∀ rule ∈ rest,
        ruleOf finding.fingerprint ≠ rule.info.ruleId.toList
  unfold evaluateAll
  refine ((Exec.triple_loop I ?_ [] rules).pre ?_).post ?_
  · intro findings rule rest
    have hskip : ∀ ticks, I findings (rule :: rest) ticks → I findings rest ticks := by
      rintro ticks ⟨hfs, hrest, hwell, hapart⟩
      exact ⟨hfs, (List.nodup_cons.mp (by simpa using hrest)).2,
        fun r hr => hwell r (by simp [hr]), fun f hf r hr => hapart f hf r (by simp [hr])⟩
    split
    · refine ⟨fun ticks hI => ?_⟩
      have hmore := (evaluate_fingerprint rt rule event context).run ticks trivial
      rw [Exec.bind_run]
      rcases hm : rule.evaluate rt event context ticks with ⟨⟨e⟩ | ⟨more⟩, ticks'⟩
      · trivial
      · rw [hm] at hmore
        obtain rfl | ⟨finding, tail, rfl, hfp⟩ := hmore
        · show I (findings ++ []) rest ticks'
          rw [List.append_nil]
          exact hskip ticks hI
        · obtain ⟨hfs, hrest, hwell, hapart⟩ := hI
          have hhead : ruleOf finding.fingerprint = rule.info.ruleId.toList := by
            rw [hfp]
            exact ruleOf_fingerprint (hwell rule (by simp)) _ _
          have hnew : rule.info.ruleId ∉ rest.map (·.info.ruleId) :=
            (List.nodup_cons.mp (by simpa using hrest)).1
          have hI' := hskip ticks ⟨hfs, hrest, hwell, hapart⟩
          refine ⟨?_, hI'.2.1, hI'.2.2.1, ?_⟩
          · rw [List.map_append, List.nodup_append]
            refine ⟨hfs, by simp, ?_⟩
            rintro a ha b hb rfl
            obtain ⟨f, hf, rfl⟩ := List.mem_map.mp ha
            have heq : f.fingerprint = finding.fingerprint := by simpa using hb
            exact hapart f hf rule (by simp) (heq ▸ hhead)
          · intro f hf r hr
            rcases List.mem_append.mp hf with hf | hf
            · exact hI'.2.2.2 f hf r hr
            · obtain rfl : f = finding := by simpa using hf
              rw [hhead]
              intro heq
              exact hnew (List.mem_map.mpr ⟨r, hr, (String.toList_injective heq).symm⟩)
    · exact Exec.triple_pure fun ticks hI => hskip ticks hI
  · intro _ _
    exact ⟨by simp, hids, hnamed, by simp⟩
  · intro findings _ hI
    exact hI.1

end BlueTeam.Detection
