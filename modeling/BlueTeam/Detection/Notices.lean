/- GID: BlueTeam/Detection/Notices
   generality: I
   source: packages/detection-sdk/blueteam_detection/registry.py, detections/python/shared.py,
     detections/python/identity/_common.py
   digest: What one rule of a registry contributes to an evaluation. -/

import BlueTeam.Detection.Registry
import BlueTeam.Lib.Parts

set_option autoImplicit false
set_option relaxedAutoImplicit false

namespace BlueTeam.Detection

open BlueTeam.Python BlueTeam.Schema BlueTeam.Lib BlueTeam.Lib.Exec

/-- An event that a rule noticed, and what it selected for it. -/
structure Notice where
  trigger : CanonicalEvent
  selection : Selection

def Notice.fingerprint (rule : DetectionRule) (n : Notice) : String :=
  rule.fingerprint n.trigger.tenantId n.selection.tail

/-- The evidence of a finding as `finding_from_events` lists it. -/
def evidenceOf (trigger : CanonicalEvent) (related : List CanonicalEvent) : List FindingEvidence :=
  related.map fun event =>
    { evidenceId := "evi_pending_" ++ event.id
      eventId := some event.id
      role := if event.id = trigger.id then .trigger else .supporting }

/-- A finding that the rule made of what it noticed. -/
structure Built (rule : DetectionRule) (n : Notice) (finding : Finding) : Prop where
  fingerprint : finding.fingerprint = n.fingerprint rule
  ruleId : finding.ruleId = rule.info.ruleId
  eventIds : finding.eventIds = eventIdsOf n.trigger n.selection.related
  evidence : finding.evidence = evidenceOf n.trigger n.selection.related
  attributes : rule.attributes n.trigger = .ok finding.attributes

namespace DetectionRule

/-- What the rule makes of a selection, where some fingerprints are open. -/
def newly (rule : DetectionRule) (opened : List String) (event : CanonicalEvent) :
    Option Selection → List Notice
  | none => []
  | some selection =>
      if rule.fingerprint event.tenantId selection.tail ∈ opened then [] else [⟨event, selection⟩]

/-- What the rule notices in an evaluation: nothing if it does not run in the context. -/
def Notices (rt : Runtime) (rule : DetectionRule) (context : DetectionContext)
    (event : CanonicalEvent) (noted : List Notice) : Prop :=
  if rule.runsIn context = true then
    ∃ selected, rule.selects rt context event = .ok selected ∧
      noted = rule.newly context.openFingerprints event selected
  else noted = []

/-- The findings of a list that carry the rule's id. -/
def own (rule : DetectionRule) (findings : List Finding) : List Finding :=
  findings.filter fun finding => finding.ruleId = rule.info.ruleId

end DetectionRule

section

variable {rt : Runtime} {rule : DetectionRule} {context : DetectionContext} {event : CanonicalEvent}

/-- Within a tenant a fingerprint is as good as its tail. -/
theorem DetectionRule.fingerprint_inj {tenantId tail tail' : String} :
    rule.fingerprint tenantId tail = rule.fingerprint tenantId tail' ↔ tail = tail' := by
  constructor
  · intro h
    have hchars := congrArg String.toList h
    unfold DetectionRule.fingerprint at hchars
    rw [String.toList_append, String.toList_append (t := tail')] at hchars
    exact String.toList_injective (List.append_cancel_left hchars)
  · intro h
    rw [h]

theorem newly_some (opened : List String) (selection : Selection) :
    rule.newly opened event (some selection) =
      if rule.fingerprint event.tenantId selection.tail ∈ opened then []
      else [⟨event, selection⟩] := rfl

/-- At most one, of the event, and not under an open fingerprint. -/
theorem newly_fresh (opened : List String) (selected : Option Selection) :
    ((rule.newly opened event selected).map (Notice.fingerprint rule)).Nodup ∧
      ∀ n ∈ rule.newly opened event selected, n.trigger = event ∧
        selected = some n.selection ∧ n.fingerprint rule ∉ opened := by
  cases selected with
  | none => simp [DetectionRule.newly]
  | some selection =>
      rw [newly_some]
      by_cases hopen : rule.fingerprint event.tenantId selection.tail ∈ opened
      · simp [hopen]
      · rw [if_neg hopen]
        refine ⟨List.nodup_singleton _, fun n hn => ?_⟩
        rw [List.mem_singleton.mp hn]
        exact ⟨rfl, rfl, hopen⟩

theorem DetectionRule.Notices.fresh {noted : List Notice}
    (h : rule.Notices rt context event noted) :
    (noted.map (Notice.fingerprint rule)).Nodup ∧
      ∀ n ∈ noted, n.trigger = event ∧ n.fingerprint rule ∉ context.openFingerprints := by
  unfold DetectionRule.Notices at h
  split at h
  · obtain ⟨selected, -, rfl⟩ := h
    obtain ⟨hnodup, hall⟩ := @newly_fresh rule event context.openFingerprints selected
    exact ⟨hnodup, fun n hn => ⟨(hall n hn).1, (hall n hn).2.2⟩⟩
  · subst h
    exact ⟨.nil, fun n hn => by cases hn⟩

/-- A rule that returns gives the findings of what it newly notices. -/
theorem evaluate_newly (rt : Runtime) (rule : DetectionRule) (event : CanonicalEvent)
    (context : DetectionContext) :
    Triple (fun _ => True) (rule.evaluate rt event context)
      (fun findings _ => ∃ selected, rule.selects rt context event = .ok selected ∧
        List.Forall₂ (Built rule) (rule.newly context.openFingerprints event selected) findings)
      (fun _ _ => True) := by
  unfold DetectionRule.evaluate
  refine triple_bind (Q := fun selected _ => rule.selects rt context event = .ok selected) ?_
    fun selected => ?_
  · exact triple_lift (fun _ _ h _ => h) (fun _ _ _ _ => trivial)
  · cases selected with
    | none => exact triple_pure fun _ hselects => ⟨none, hselects, .nil⟩
    | some selection =>
        dsimp only
        split
        · rename_i hopen
          refine triple_pure fun _ hselects => ⟨some selection, hselects, ?_⟩
          rw [DetectionRule.newly, if_pos hopen]
          exact .nil
        · rename_i hclosed
          have hbuilt : Triple (fun _ => rule.selects rt context event = .ok (some selection))
              (findingFromEvents rt rule event selection.related
                (rule.fingerprint event.tenantId selection.tail) selection.explanation)
              (fun finding _ => rule.selects rt context event = .ok (some selection) ∧
                Built rule ⟨event, selection⟩ finding) (fun _ _ => True) := by
            unfold findingFromEvents
            refine triple_bind (Q := fun _ _ => rule.selects rt context event =
              .ok (some selection)) ⟨fun _ h => h⟩ fun id => ?_
            refine triple_bind (Q := fun _ _ => rule.selects rt context event =
              .ok (some selection)) ⟨fun _ h => h⟩ fun createdAt => ?_
            refine triple_bind (Q := fun attributes _ => rule.attributes event = .ok attributes ∧
              rule.selects rt context event = .ok (some selection)) ?_ fun attributes => ?_
            · exact triple_lift (fun _ _ hattributes h => ⟨hattributes, h⟩) (fun _ _ _ _ => trivial)
            · exact triple_pure fun _ h => ⟨h.2, rfl, rfl, rfl, rfl, h.1⟩
          refine triple_bind hbuilt fun finding => triple_pure ?_
          rintro _ ⟨hselects, hfinding⟩
          refine ⟨some selection, hselects, ?_⟩
          rw [DetectionRule.newly, if_neg hclosed]
          exact .cons hfinding .nil

theorem own_append (rule : DetectionRule) (findings more : List Finding) :
    rule.own (findings ++ more) = rule.own findings ++ rule.own more :=
  List.filter_append ..

/-- All findings of a rule's evaluation are its own, and no other's. -/
theorem own_of_built {other : DetectionRule} {noted : List Notice} {findings : List Finding}
    (h : List.Forall₂ (Built other) noted findings) :
    rule.own findings = if other.info.ruleId = rule.info.ruleId then findings else [] := by
  have hid : ∀ finding ∈ findings, finding.ruleId = other.info.ruleId := by
    intro finding hmem
    obtain ⟨n, -, hbuilt⟩ := exists_of_forall₂ h hmem
    exact hbuilt.ruleId
  split_ifs with hsame
  · exact List.filter_eq_self.mpr fun finding hmem => decide_eq_true ((hid finding hmem).trans hsame)
  · refine List.filter_eq_nil_iff.mpr fun finding hmem hown => hsame ?_
    exact (hid finding hmem).symm.trans (of_decide_eq_true hown)

/-- One turn of the loop over the rules. -/
theorem turn_newly (rt : Runtime) (rule other : DetectionRule) (event : CanonicalEvent)
    (context : DetectionContext) (findings : List Finding) :
    Triple (fun _ => True)
      (if other.runsIn context then do
        let more ← other.evaluate rt event context
        pure (findings ++ more)
      else pure findings)
      (fun findings' _ =>
        (other.info.ruleId ≠ rule.info.ruleId → rule.own findings' = rule.own findings) ∧
        (other = rule → rule.own findings = [] → ∃ noted, rule.Notices rt context event noted ∧
          List.Forall₂ (Built rule) noted (rule.own findings'))) (fun _ _ => True) := by
  by_cases hruns : other.runsIn context = true
  · rw [if_pos hruns]
    refine triple_bind (evaluate_newly rt other event context) fun more => triple_pure ?_
    rintro _ ⟨selected, hselects, hbuilt⟩
    rw [own_append, own_of_built hbuilt]
    refine ⟨fun hne => by rw [if_neg hne, List.append_nil], ?_⟩
    rintro rfl hnone
    rw [hnone, if_pos rfl, List.nil_append]
    refine ⟨_, ?_, hbuilt⟩
    rw [DetectionRule.Notices, if_pos hruns]
    exact ⟨selected, hselects, rfl⟩
  · rw [if_neg hruns]
    refine triple_pure fun _ _ => ⟨fun _ => rfl, ?_⟩
    rintro rfl hnone
    rw [hnone]
    exact ⟨[], by rw [DetectionRule.Notices, if_neg hruns], .nil⟩

/-- What a rule of a registry contributes, as long as no other has its id. -/
theorem evaluateAll_newly (rt : Runtime) {rules : List DetectionRule} (hrule : rule ∈ rules)
    (hids : (rules.map (·.info.ruleId)).Nodup) (event : CanonicalEvent)
    (context : DetectionContext) :
    Triple (fun _ => True) (evaluateAll rt rules event context)
      (fun findings _ => ∃ noted, rule.Notices rt context event noted ∧
        List.Forall₂ (Built rule) noted (rule.own findings)) (fun _ _ => True) := by
  -- before its turn there is none of its findings, after it there are no more
  let I : List Finding → List DetectionRule → Ticks → Prop := fun findings rest _ =>
    (rest.map (·.info.ruleId)).Nodup ∧
      ((rule ∈ rest ∧ rule.own findings = []) ∨
        (rule.info.ruleId ∉ rest.map (·.info.ruleId) ∧ ∃ noted,
          rule.Notices rt context event noted ∧
            List.Forall₂ (Built rule) noted (rule.own findings)))
  unfold evaluateAll
  refine ((triple_loop I ?_ [] rules).pre ?_).post ?_
  · intro findings other rest
    refine triple_from ?_
    rintro _ ⟨hnodup, hcases⟩
    rw [List.map_cons] at hnodup
    obtain ⟨hother, hrest⟩ := List.nodup_cons.mp hnodup
    refine ((turn_newly rt rule other event context findings).pre fun _ _ => trivial).post ?_
    rintro findings' _ ⟨hunchanged, hmine⟩
    refine ⟨hrest, ?_⟩
    rcases hcases with ⟨hmem, hnone⟩ | ⟨hgone, hdone⟩
    · rcases List.mem_cons.mp hmem with rfl | hmem
      · exact .inr ⟨hother, hmine rfl hnone⟩
      · refine .inl ⟨hmem, ?_⟩
        rw [hunchanged, hnone]
        intro hsame
        exact hother (List.mem_map.mpr ⟨rule, hmem, hsame.symm⟩)
    · rw [List.map_cons, List.mem_cons, not_or] at hgone
      exact .inr ⟨hgone.2, by rwa [hunchanged (Ne.symm hgone.1)]⟩
  · intro _ _
    exact ⟨hids, .inl ⟨hrule, rfl⟩⟩
  · rintro findings _ ⟨-, ⟨hmem, -⟩ | ⟨-, h⟩⟩
    · cases hmem
    · exact h

end

end BlueTeam.Detection
