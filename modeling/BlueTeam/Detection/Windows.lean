/- GID: BlueTeam/Detection/Windows
   generality: I
   source: packages/detection-sdk/blueteam_detection/context.py, detections/python/identity/_common.py,
     password_spray.py, brute_force.py, repeated_failures.py, detections/python/network/beacon.py
   digest: What a rule that counts events in a window cites. -/

import BlueTeam.Detection.Catalog

set_option autoImplicit false
set_option relaxedAutoImplicit false

namespace BlueTeam.Detection

open BlueTeam.Python BlueTeam.Schema BlueTeam.Lib

/-! ### The window query -/

section

variable {α : Type} {p : α → Except Exn Bool} {as kept : List α}

theorem filterRaising_cons {a : α} (h : filterRaising p (a :: as) = .ok kept) :
    ∃ keep rest, p a = .ok keep ∧ filterRaising p as = .ok rest ∧
      kept = if keep then a :: rest else rest := by
  obtain ⟨keep, hkeep, h⟩ := except_of_bind h
  obtain ⟨rest, hrest, h⟩ := except_of_bind h
  exact ⟨keep, rest, hkeep, hrest, (Except.ok.inj h).symm⟩

/-- What is kept, if the test never raised, passed it. -/
theorem eq_filter_of_filterRaising (h : filterRaising p as = .ok kept) :
    kept = as.filter fun a => p a = .ok true := by
  induction as generalizing kept with
  | nil => exact (Except.ok.inj h).symm
  | cons a as ih =>
      obtain ⟨keep, rest, hkeep, hrest, rfl⟩ := filterRaising_cons h
      rw [List.filter_cons, hkeep, ← ih hrest]
      cases keep <;> rfl

/-- It raises only if the test does for some element. -/
theorem filterRaising_ok_iff : (∃ kept, filterRaising p as = .ok kept) ↔
    ∀ a ∈ as, ∃ keep, p a = .ok keep := by
  induction as with
  | nil => simp [filterRaising]
  | cons a as ih =>
      rw [List.forall_mem_cons, ← ih]
      constructor
      · rintro ⟨kept, h⟩
        obtain ⟨keep, rest, hkeep, hrest, -⟩ := filterRaising_cons h
        exact ⟨⟨keep, hkeep⟩, rest, hrest⟩
      · rintro ⟨⟨keep, hkeep⟩, rest, hrest⟩
        refine ⟨if keep then a :: rest else rest, ?_⟩
        unfold filterRaising
        rw [hkeep, hrest]
        rfl

end

/-- The event is not later than the other one, and not earlier by more than that. -/
def Within (seconds : Nat) (event e : CanonicalEvent) : Prop :=
  event.timestamp.instant - seconds * DateTime.second ≤ e.timestamp.instant ∧
    e.timestamp.instant ≤ event.timestamp.instant

theorem within_self (seconds : Nat) (event : CanonicalEvent) : Within seconds event event := by
  unfold Within DateTime.second
  omega

section

variable {tenantId : String} {since until_ : DateTime} {f : Filters} {event e : CanonicalEvent}
  {context : DetectionContext} {seconds : Nat} {related : List CanonicalEvent}

theorem inWindow_true_iff : inWindow tenantId since until_ f e = .ok true ↔
    e.tenantId = tenantId ∧ (e.timestamp.Comparable since ∧ since.instant ≤ e.timestamp.instant) ∧
      (until_.Comparable e.timestamp ∧ e.timestamp.instant ≤ until_.instant) ∧
      f.admits e = true := by
  unfold inWindow
  constructor
  · intro h
    split at h
    · cases h
    · rename_i htenant
      obtain ⟨early, hearly, h⟩ := except_of_bind h
      obtain ⟨hsince, rfl⟩ := DateTime.lt_ok_iff.mp hearly
      split at h
      · cases h
      · rename_i hnotEarly
        obtain ⟨late, hlate, h⟩ := except_of_bind h
        obtain ⟨huntil, rfl⟩ := DateTime.lt_ok_iff.mp hlate
        have hkept : (!decide (until_.instant < e.timestamp.instant) && f.admits e) = true :=
          Except.ok.inj h
        simp only [decide_eq_true_eq, not_lt] at hnotEarly
        simp only [Bool.and_eq_true, Bool.not_eq_true', decide_eq_false_iff_not, not_lt] at hkept
        exact ⟨not_not.mp htenant, ⟨hsince, hnotEarly⟩, ⟨huntil, hkept.1⟩, hkept.2⟩
  · rintro ⟨htenant, ⟨hsince, hnotEarly⟩, ⟨huntil, hnotLate⟩, hadmits⟩
    rw [if_neg (not_not.mpr htenant), hsince.lt_eq, huntil.lt_eq, hadmits,
      decide_eq_false (not_lt.mpr hnotEarly), decide_eq_false (not_lt.mpr hnotLate)]
    rfl

instance : Decidable (Within seconds event e) :=
  inferInstanceAs (Decidable (_ ∧ _))

/-- The events of the tenant up to the event that pass the filters. -/
theorem eventsInWindow_eq (h : context.eventsInWindow event seconds f = .ok related) :
    related = context.window.filter fun e => e.tenantId = event.tenantId ∧
      e.timestamp.Comparable event.timestamp ∧ Within seconds event e ∧ f.admits e = true := by
  obtain ⟨since, hsince, h⟩ := except_of_bind h
  obtain ⟨hinstant, hoffset⟩ := DateTime.before_spec hsince
  rw [eq_filter_of_filterRaising h]
  refine List.filter_congr fun e _ => decide_eq_decide.mpr ?_
  have hcomparable : e.timestamp.Comparable since ↔ e.timestamp.Comparable event.timestamp := by
    unfold DateTime.Comparable
    rw [hoffset]
  rw [inWindow_true_iff, hcomparable, hinstant]
  unfold Within
  constructor
  · rintro ⟨htenant, ⟨hsame, hearly⟩, ⟨-, hlate⟩, hadmits⟩
    exact ⟨htenant, hsame, ⟨hearly, hlate⟩, hadmits⟩
  · rintro ⟨htenant, hsame, ⟨hearly, hlate⟩, hadmits⟩
    exact ⟨htenant, ⟨hsame, hearly⟩, ⟨hsame.symm, hlate⟩, hadmits⟩

theorem mem_eventsInWindow (h : context.eventsInWindow event seconds f = .ok related) :
    e ∈ related ↔ e ∈ context.window ∧ e.tenantId = event.tenantId ∧
      e.timestamp.Comparable event.timestamp ∧ Within seconds event e ∧ f.admits e = true := by
  rw [eventsInWindow_eq h, List.mem_filter, decide_eq_true_eq]

theorem inWindow_ok_iff (hoffset : since.Comparable until_) :
    (∃ keep, inWindow tenantId since until_ f e = .ok keep) ↔
      (e.tenantId = tenantId → e.timestamp.Comparable until_) := by
  unfold inWindow
  constructor
  · rintro ⟨keep, h⟩ htenant
    rw [if_neg (not_not.mpr htenant)] at h
    obtain ⟨early, hearly, -⟩ := except_of_bind h
    exact (DateTime.lt_ok_iff.mp hearly).1.trans hoffset
  · intro h
    by_cases htenant : e.tenantId = tenantId
    · have hsince : e.timestamp.Comparable since := (h htenant).trans hoffset.symm
      rw [if_neg (not_not.mpr htenant), hsince.lt_eq, (h htenant).symm.lt_eq]
      by_cases hearly : e.timestamp.instant < since.instant
      · exact ⟨false, by rw [decide_eq_true hearly]; rfl⟩
      · exact ⟨_, by rw [decide_eq_false hearly]; rfl⟩
    · exact ⟨false, if_pos htenant⟩

/-- The query raises only for a time before the calendar, or for times that do not compare. -/
theorem eventsInWindow_ok_iff : (∃ related, context.eventsInWindow event seconds f = .ok related) ↔
    seconds * DateTime.second ≤ event.timestamp.wall ∧
      ∀ e ∈ context.window, e.tenantId = event.tenantId →
        e.timestamp.Comparable event.timestamp := by
  unfold DetectionContext.eventsInWindow
  by_cases hcalendar : seconds * DateTime.second ≤ event.timestamp.wall
  · have hnot : ¬ event.timestamp.wall - seconds * DateTime.second < 0 := by omega
    rw [DateTime.before, if_neg hnot, and_iff_right hcalendar]
    refine filterRaising_ok_iff.trans ?_
    refine forall₂_congr fun e _ => ?_
    exact inWindow_ok_iff rfl
  · have hbefore : event.timestamp.wall - seconds * DateTime.second < 0 := by omega
    rw [DateTime.before, if_pos hbefore]
    constructor
    · rintro ⟨related, h⟩
      cases h
    · exact fun h => absurd h.1 hcalendar

end

/-! ### What a rule returns -/

/-- A finding as a rule builds it from what it selected. -/
structure Drawn (rt : Runtime) (rule : DetectionRule) (context : DetectionContext)
    (event : CanonicalEvent) (selection : Selection) (finding : Finding) : Prop where
  selects : rule.selects rt context event = .ok (some selection)
  fingerprint : finding.fingerprint = rule.fingerprint event.tenantId selection.tail
  closed : finding.fingerprint ∉ context.openFingerprints
  tenantId : finding.tenantId = event.tenantId
  ruleId : finding.ruleId = rule.info.ruleId
  eventIds : finding.eventIds = eventIdsOf event selection.related

theorem evaluate_ok {rt : Runtime} {rule : DetectionRule} {context : DetectionContext}
    {event : CanonicalEvent} {findings : List Finding} {t t' : Ticks}
    (h : rule.evaluate rt event context t = (.ok findings, t')) :
    ∀ finding ∈ findings, ∃ selection, Drawn rt rule context event selection finding := by
  obtain ⟨selected, t₁, hselected, h⟩ := Exec.ok_of_bind h
  have hselects : rule.selects rt context event = .ok selected := (Prod.mk.inj hselected).1
  cases selected with
  | none =>
      obtain ⟨h, -⟩ := Prod.mk.inj h
      obtain rfl := Except.ok.inj h
      simp
  | some selection =>
      dsimp only at h
      split at h
      · obtain ⟨h, -⟩ := Prod.mk.inj h
        obtain rfl := Except.ok.inj h
        simp
      · rename_i hclosed
        obtain ⟨finding, t₂, hfinding, h⟩ := Exec.ok_of_bind h
        obtain ⟨id, t₃, -, hfinding⟩ := Exec.ok_of_bind hfinding
        obtain ⟨createdAt, t₄, -, hfinding⟩ := Exec.ok_of_bind hfinding
        obtain ⟨attributes, t₅, -, hfinding⟩ := Exec.ok_of_bind hfinding
        obtain ⟨h, -⟩ := Prod.mk.inj h
        obtain rfl := Except.ok.inj h
        obtain ⟨hfinding, -⟩ := Prod.mk.inj hfinding
        obtain rfl := Except.ok.inj hfinding
        intro other hother
        obtain rfl := List.mem_singleton.mp hother
        exact ⟨selection, hselects, rfl, hclosed, rfl, rfl, rfl⟩

section

variable {rt : Runtime} {rule : DetectionRule} {context : DetectionContext} {event : CanonicalEvent}
  {selection : Selection} {t : Ticks}

theorem evaluate_raises {e : Exn} (h : rule.selects rt context event = .error e) :
    rule.evaluate rt event context t = (.error e, t) := by
  unfold DetectionRule.evaluate
  rw [Exec.bind_run, Exec.lift, h]
  rfl

theorem evaluate_none (h : rule.selects rt context event = .ok none) :
    rule.evaluate rt event context t = (.ok [], t) := by
  unfold DetectionRule.evaluate
  rw [Exec.bind_run, Exec.lift, h]
  rfl

theorem evaluate_open (h : rule.selects rt context event = .ok (some selection))
    (hopen : rule.fingerprint event.tenantId selection.tail ∈ context.openFingerprints) :
    rule.evaluate rt event context t = (.ok [], t) := by
  unfold DetectionRule.evaluate
  rw [Exec.bind_run, Exec.lift, h]
  exact congrFun (if_pos hopen) t

theorem evaluate_closed {attributes : List (String × String)}
    (h : rule.selects rt context event = .ok (some selection))
    (hclosed : rule.fingerprint event.tenantId selection.tail ∉ context.openFingerprints)
    (hattributes : rule.attributes event = .ok attributes) :
    ∃ finding, rule.evaluate rt event context t =
        (.ok [finding], { uuids := t.uuids + 1, readings := t.readings + 1 }) ∧
      Drawn rt rule context event selection finding ∧
      finding.id = "fnd" ++ "_" ++ rt.uuid4 t.uuids := by
  have hrun : rule.evaluate rt event context t =
      (do
        let finding ← findingFromEvents rt rule event selection.related
          (rule.fingerprint event.tenantId selection.tail) selection.explanation
        pure [finding] : Draw (List Finding)) t := by
    unfold DetectionRule.evaluate
    rw [Exec.bind_run, Exec.lift, h]
    exact congrFun (if_neg hclosed) t
  rw [hrun]
  unfold findingFromEvents newId utcnow
  simp only [Exec.bind_run, Exec.andThen, hattributes]
  exact ⟨_, rfl, ⟨h, rfl, hclosed, rfl, rfl, rfl⟩, rfl⟩

end

/-! ### The rules that count -/

theorem passes_of_given {wanted actual : Option String} (h : given wanted = true) :
    passes wanted actual = true ↔ actual = wanted := by
  rw [passes, h]
  simp

/-- A rule that asks for a number of events in the window up to the trigger. -/
structure WindowedRule where
  rule : DetectionRule
  seconds : Nat
  shares : CanonicalEvent → CanonicalEvent → Prop
  enough : List CanonicalEvent → Prop

def isFailedAuthentication (event : CanonicalEvent) : Prop :=
  event.category = "authentication" ∧ event.outcome = some .failure

/-- The filters of the rules: failed authentications from the trigger's address, or of its user. -/
def failuresFrom (event : CanonicalEvent) : Filters where
  category := some "authentication"
  outcome := some .failure
  srcIp := event.srcIp

def failuresOf (event : CanonicalEvent) : Filters where
  category := some "authentication"
  outcome := some .failure
  userName := eventUser event

/-- The four of them: what the events share with the trigger, and how many there are. -/
def windowedRules : List WindowedRule :=
  [{ rule := passwordSprayRule
     seconds := 600
     shares := fun event e => isFailedAuthentication e ∧ given event.srcIp = true ∧
       e.srcIp = event.srcIp
     enough := fun related => 5 ≤ (usersOf related).length },
   { rule := bruteForceRule
     seconds := 600
     shares := fun event e => isFailedAuthentication e ∧ given (eventUser event) = true ∧
       eventUser e = eventUser event
     enough := fun related => 8 ≤ related.length },
   { rule := repeatedFailuresRule
     seconds := 900
     shares := fun event e => isFailedAuthentication e ∧ given (eventUser event) = true ∧
       eventUser e = eventUser event
     enough := fun related => related.length = 5 },
   { rule := repetitiveBeaconRule
     seconds := 600
     shares := fun event e => e.category = "network" ∧
       (given event.srcIp = true ∧ e.srcIp = event.srcIp) ∧
         (given event.dstIp = true ∧ e.dstIp = event.dstIp)
     enough := fun related => 4 ≤ related.length }]

/-- The events that a selection rests on: some of the window with the trigger among them, of its
tenant, in the time before it and with what the rule asks for. -/
structure WindowedRule.Rests (w : WindowedRule) (context : DetectionContext)
    (event : CanonicalEvent) (related : List CanonicalEvent) : Prop where
  sublist : related.Sublist context.window
  trigger : event ∈ related
  each : ∀ e ∈ related, e.tenantId = event.tenantId ∧ Within w.seconds event e ∧ w.shares event e
  enough : w.enough related

section

variable {rt : Runtime} {context : DetectionContext} {event : CanonicalEvent}
  {selection : Selection}

theorem isAuthFailure_iff : isAuthFailure event = true ↔
    isFailedAuthentication event ∧ event.eventType ∈ loginTypes := by
  unfold isAuthFailure isFailedAuthentication
  rw [decide_eq_true_eq]
  constructor
  · rintro ⟨hcategory, htype, houtcome⟩
    exact ⟨⟨hcategory, houtcome⟩, htype⟩
  · rintro ⟨⟨hcategory, houtcome⟩, htype⟩
    exact ⟨hcategory, htype, houtcome⟩

theorem failuresFrom_admits (h : given event.srcIp = true) {e : CanonicalEvent} :
    (failuresFrom event).admits e = true ↔ isFailedAuthentication e ∧ e.srcIp = event.srcIp := by
  have hsrc := @passes_of_given event.srcIp e.srcIp h
  have hcategory : passes (some "authentication") (some e.category) = true ↔
      e.category = "authentication" := by
    rw [passes_of_given (by decide), Option.some.injEq]
  simp only [failuresFrom, Filters.admits, Bool.and_eq_true, hsrc, hcategory]
  simp [passes, given, orText, isFailedAuthentication]
  exact fun _ _ => decide_eq_true_iff

theorem failuresOf_admits (h : given (eventUser event) = true) {e : CanonicalEvent} :
    (failuresOf event).admits e = true ↔
      isFailedAuthentication e ∧ eventUser e = eventUser event := by
  have huser := @passes_of_given (eventUser event) (eventUser e) h
  have hcategory : passes (some "authentication") (some e.category) = true ↔
      e.category = "authentication" := by
    rw [passes_of_given (by decide), Option.some.injEq]
  simp only [failuresOf, Filters.admits, Bool.and_eq_true, huser, hcategory]
  simp [passes, given, orText, isFailedAuthentication]
  exact fun _ _ => decide_eq_true_iff

theorem addressFilter_admits (h : given event.srcIp = true) {e : CanonicalEvent} :
    Filters.admits { srcIp := event.srcIp } e = true ↔ e.srcIp = event.srcIp := by
  have hsrc := @passes_of_given event.srcIp e.srcIp h
  simp only [Filters.admits, Bool.and_eq_true, hsrc]
  simp [passes, given, orText]

/-- A query whose filters are what the rule asks for. -/
theorem WindowedRule.rests_of_query {w : WindowedRule} {f : Filters} {related : List CanonicalEvent}
    (hquery : context.eventsInWindow event w.seconds f = .ok related) (hevent : event ∈ context.window)
    (hadmits : ∀ e, f.admits e = true ↔ w.shares event e) (hself : w.shares event event)
    (henough : w.enough related) : w.Rests context event related where
  sublist := by
    rw [eventsInWindow_eq hquery]
    exact List.filter_sublist
  trigger := (mem_eventsInWindow hquery).mpr
    ⟨hevent, rfl, rfl, within_self _ _, (hadmits event).mpr hself⟩
  each e he := by
    obtain ⟨-, htenant, -, hwithin, hpasses⟩ := (mem_eventsInWindow hquery).mp he
    exact ⟨htenant, hwithin, (hadmits e).mp hpasses⟩
  enough := henough

theorem passwordSpray_query (h : passwordSprayRule.selects rt context event = .ok (some selection)) :
    isAuthFailure event = true ∧ given event.srcIp = true ∧ 5 ≤ (usersOf selection.related).length ∧
      context.eventsInWindow event 600 (failuresFrom event) = .ok selection.related := by
  change (if isAuthFailure event ∧ given event.srcIp then _ else _) = _ at h
  split at h
  · rename_i htrigger
    obtain ⟨related, hrelated, h⟩ := except_of_bind h
    dsimp only at h
    split at h
    · cases h
    · rename_i henough
      obtain rfl := Option.some.inj (Except.ok.inj h)
      exact ⟨htrigger.1, htrigger.2, Nat.not_lt.mp henough, hrelated⟩
  · cases h

theorem bruteForce_query (h : bruteForceRule.selects rt context event = .ok (some selection)) :
    isAuthFailure event = true ∧ given (eventUser event) = true ∧ 8 ≤ selection.related.length ∧
      context.eventsInWindow event 600 (failuresOf event) = .ok selection.related := by
  change (if isAuthFailure event ∧ given (eventUser event) then _ else _) = _ at h
  split at h
  · rename_i htrigger
    obtain ⟨related, hrelated, h⟩ := except_of_bind h
    split at h
    · cases h
    · rename_i henough
      split at h
      · cases h
      · obtain rfl := Option.some.inj (Except.ok.inj h)
        exact ⟨htrigger.1, htrigger.2, Nat.not_lt.mp henough, hrelated⟩
  · cases h

theorem repeatedFailures_query
    (h : repeatedFailuresRule.selects rt context event = .ok (some selection)) :
    isAuthFailure event = true ∧ given (eventUser event) = true ∧ selection.related.length = 5 ∧
      context.eventsInWindow event 900 (failuresOf event) = .ok selection.related := by
  change (if isAuthFailure event ∧ given (eventUser event) then _ else _) = _ at h
  split at h
  · rename_i htrigger
    obtain ⟨related, hrelated, h⟩ := except_of_bind h
    split at h
    · cases h
    · rename_i henough
      obtain rfl := Option.some.inj (Except.ok.inj h)
      exact ⟨htrigger.1, htrigger.2, not_not.mp henough, hrelated⟩
  · cases h

theorem repetitiveBeacon_query
    (h : repetitiveBeaconRule.selects rt context event = .ok (some selection)) :
    event.category = "network" ∧ given event.srcIp = true ∧ given event.dstIp = true ∧
      4 ≤ selection.related.length ∧ ∃ window,
        context.eventsInWindow event 600 { srcIp := event.srcIp } = .ok window ∧
          selection.related = window.filter fun item =>
            item.dstIp = event.dstIp ∧ item.category = "network" := by
  change (if event.category = "network" ∧ given event.srcIp ∧ given event.dstIp then _ else _) = _
    at h
  split at h
  · rename_i htrigger
    obtain ⟨window, hwindow, h⟩ := except_of_bind h
    dsimp only at h
    split at h
    · cases h
    · rename_i henough
      obtain rfl := Option.some.inj (Except.ok.inj h)
      exact ⟨htrigger.1, htrigger.2.1, htrigger.2.2, Nat.not_lt.mp henough, window, hwindow, rfl⟩
  · cases h

theorem windowedRules_rest {w : WindowedRule} (hw : w ∈ windowedRules)
    (hevent : event ∈ context.window) (h : w.rule.selects rt context event = .ok (some selection)) :
    w.Rests context event selection.related := by
  simp only [windowedRules, List.mem_cons, List.not_mem_nil, or_false] at hw
  rcases hw with rfl | rfl | rfl | rfl
  · obtain ⟨hfailure, hgiven, henough, hquery⟩ := passwordSpray_query h
    have hself := (isAuthFailure_iff.mp hfailure).1
    refine WindowedRule.rests_of_query hquery hevent (fun e => ?_) ⟨hself, hgiven, rfl⟩ henough
    rw [failuresFrom_admits hgiven]
    simp [hgiven]
  · obtain ⟨hfailure, hgiven, henough, hquery⟩ := bruteForce_query h
    have hself := (isAuthFailure_iff.mp hfailure).1
    refine WindowedRule.rests_of_query hquery hevent (fun e => ?_) ⟨hself, hgiven, rfl⟩ henough
    rw [failuresOf_admits hgiven]
    simp [hgiven]
  · obtain ⟨hfailure, hgiven, henough, hquery⟩ := repeatedFailures_query h
    have hself := (isAuthFailure_iff.mp hfailure).1
    refine WindowedRule.rests_of_query hquery hevent (fun e => ?_) ⟨hself, hgiven, rfl⟩ henough
    rw [failuresOf_admits hgiven]
    simp [hgiven]
  · obtain ⟨hcategory, hsrc, hdst, henough, window, hquery, hrelated⟩ := repetitiveBeacon_query h
    have hmem : ∀ e, e ∈ selection.related ↔
        e ∈ window ∧ e.dstIp = event.dstIp ∧ e.category = "network" := by
      intro e
      rw [hrelated, List.mem_filter, decide_eq_true_eq]
    have hwindow : ∀ e, e ∈ window ↔ e ∈ context.window ∧ e.tenantId = event.tenantId ∧
        e.timestamp.Comparable event.timestamp ∧ Within 600 event e ∧ e.srcIp = event.srcIp := by
      intro e
      rw [mem_eventsInWindow hquery, addressFilter_admits hsrc]
    refine ⟨?_, ?_, ?_, henough⟩
    · rw [hrelated, eventsInWindow_eq hquery]
      exact List.filter_sublist.trans List.filter_sublist
    · exact (hmem event).mpr
        ⟨(hwindow event).mpr ⟨hevent, rfl, rfl, within_self _ _, rfl⟩, rfl, hcategory⟩
    · intro e he
      obtain ⟨hin, hdstIp, hnetwork⟩ := (hmem e).mp he
      obtain ⟨-, htenant, -, hwithin, hsrcIp⟩ := (hwindow e).mp hin
      exact ⟨htenant, hwithin, hnetwork, ⟨hsrc, hsrcIp⟩, hdst, hdstIp⟩

/-- What a windowed rule promises of a finding. -/
structure WindowedRule.Sound (w : WindowedRule) (context : DetectionContext)
    (event : CanonicalEvent) (finding : Finding) : Prop where
  closed : finding.fingerprint ∉ context.openFingerprints
  tenantId : finding.tenantId = event.tenantId
  trigger : event.id ∈ finding.eventIds
  once : finding.eventIds.Nodup
  cites : ∃ related, w.Rests context event related ∧ finding.eventIds = related.map (·.id)

/-- Every finding of a windowed rule rests on events of its window. -/
theorem windowedRules_sound (rt : Runtime) {w : WindowedRule} (hw : w ∈ windowedRules)
    (hids : (context.window.map (·.id)).Nodup) (hevent : event ∈ context.window)
    {t t' : Ticks} {findings : List Finding}
    (hrun : w.rule.evaluate rt event context t = (.ok findings, t')) :
    ∀ finding ∈ findings, w.Sound context event finding := by
  intro finding hfinding
  obtain ⟨selection, hdrawn⟩ := evaluate_ok hrun finding hfinding
  have hrests := windowedRules_rest hw hevent hdrawn.selects
  have htrigger : event.id ∈ selection.related.map (·.id) :=
    List.mem_map_of_mem hrests.trigger
  have hcited : finding.eventIds = selection.related.map (·.id) := by
    rw [hdrawn.eventIds, eventIdsOf, if_pos htrigger]
  refine ⟨hdrawn.closed, hdrawn.tenantId, ?_, ?_, selection.related, hrests, hcited⟩
  · rw [hcited]
    exact htrigger
  · rw [hcited]
    exact hids.sublist (hrests.sublist.map _)

end

def connection (id src dst : String) (seconds : Int) : CanonicalEvent where
  id := id
  tenantId := "acme"
  timestamp := ⟨63839761325000000 + seconds * DateTime.second, some 0⟩
  ingestedAt := ⟨63839761325000000, some 0⟩
  source := "suricata"
  sourceType := "suricata"
  eventType := "flow"
  category := "network"
  srcIp := some src
  dstIp := some dst

/-- Four connections of one flow, within ten minutes. -/
def flow (src dst : String) : List CanonicalEvent :=
  [connection "e1" src dst 0, connection "e2" src dst 60, connection "e3" src dst 120,
    connection "e4" src dst 600]

theorem windowedRules_sound_flow : ∃ finding,
    (repetitiveBeaconRule.evaluate sampleRuntime (connection "e4" "10.0.0.5" "1.1.1.1" 600)
      { window := flow "10.0.0.5" "1.1.1.1", openFingerprints := [] } {}).1 = .ok [finding] ∧
    WindowedRule.Sound
      { rule := repetitiveBeaconRule
        seconds := 600
        shares := fun event e => e.category = "network" ∧
          (given event.srcIp = true ∧ e.srcIp = event.srcIp) ∧
            (given event.dstIp = true ∧ e.dstIp = event.dstIp)
        enough := fun related => 4 ≤ related.length }
      { window := flow "10.0.0.5" "1.1.1.1", openFingerprints := [] }
      (connection "e4" "10.0.0.5" "1.1.1.1" 600) finding := by
  refine ⟨_, rfl, windowedRules_sound sampleRuntime (by simp [windowedRules]) ?_ ?_ rfl _
    List.mem_cons_self⟩
  · decide
  · decide

end BlueTeam.Detection
