/- GID: BlueTeam/Correlation/Soundness
   generality: I
   source: packages/correlation/blueteam_correlation/rules.py
   digest: Which storylines the declarative rules give, and what they hold. -/

import BlueTeam.Correlation.Engine
import BlueTeam.Lib.Parts
import Mathlib.Data.List.Perm.Subperm

set_option autoImplicit false
set_option relaxedAutoImplicit false

namespace BlueTeam.Correlation

open BlueTeam.Python BlueTeam.Schema BlueTeam.Lib BlueTeam.Lib.Exec

/-! ### The ends of a list of times -/

theorem lt_ok_iff {a b : DateTime} : (∃ r, a.lt b = .ok r) ↔ a.Comparable b := by
  constructor
  · rintro ⟨r, hr⟩
    obtain ⟨p, hp, -⟩ := except_of_map hr
    exact (DateTime.compared_ok_iff a b).mp ⟨p, hp⟩
  · intro h
    exact ⟨_, h.lt_eq⟩

theorem earliest_ok_iff {d : DateTime} {ts : List DateTime} :
    (∃ m, earliest d ts = .ok m) ↔ ∀ t ∈ ts, t.Comparable d := by
  induction ts generalizing d with
  | nil => exact iff_of_true ⟨d, rfl⟩ (by simp)
  | cons t ts ih =>
      rw [List.forall_mem_cons]
      constructor
      · rintro ⟨m, h⟩
        obtain ⟨less, hless, h⟩ := except_of_bind h
        have ht : t.Comparable d := lt_ok_iff.mp ⟨less, hless⟩
        have hrest := ih.mp ⟨m, h⟩
        refine ⟨ht, fun t' ht' => ?_⟩
        cases less with
        | true => exact (hrest t' ht').trans ht
        | false => exact hrest t' ht'
      · rintro ⟨ht, hts⟩
        rw [earliest, ht.lt_eq]
        refine ih.mpr fun t' ht' => ?_
        cases decide (t.instant < d.instant) with
        | true => exact (hts t' ht').trans ht.symm
        | false => exact hts t' ht'

theorem earliest_spec {d m : DateTime} {ts : List DateTime} (h : earliest d ts = .ok m) :
    (m = d ∨ m ∈ ts) ∧ m.instant ≤ d.instant ∧ ∀ t ∈ ts, m.instant ≤ t.instant := by
  induction ts generalizing d with
  | nil =>
      obtain rfl := Except.ok.inj h
      exact ⟨.inl rfl, Int.le_refl _, by simp⟩
  | cons t ts ih =>
      obtain ⟨less, hless, h⟩ := except_of_bind h
      have ht : t.Comparable d := lt_ok_iff.mp ⟨less, hless⟩
      rw [ht.lt_eq] at hless
      obtain rfl := Except.ok.inj hless
      rw [List.forall_mem_cons, List.mem_cons]
      by_cases hlt : t.instant < d.instant
      · rw [decide_eq_true hlt, if_pos rfl] at h
        obtain ⟨hmem, hle, hrest⟩ := ih h
        have hd : m.instant ≤ d.instant := by omega
        exact ⟨.inr hmem, hd, hle, hrest⟩
      · rw [decide_eq_false hlt, if_neg Bool.false_ne_true] at h
        obtain ⟨hmem, hle, hrest⟩ := ih h
        have ht : m.instant ≤ t.instant := by omega
        exact ⟨hmem.imp_right .inr, hle, ht, hrest⟩

theorem latest_ok_iff {d : DateTime} {ts : List DateTime} :
    (∃ m, latest d ts = .ok m) ↔ ∀ t ∈ ts, t.Comparable d := by
  induction ts generalizing d with
  | nil => exact iff_of_true ⟨d, rfl⟩ (by simp)
  | cons t ts ih =>
      rw [List.forall_mem_cons]
      constructor
      · rintro ⟨m, h⟩
        obtain ⟨more, hmore, h⟩ := except_of_bind h
        have ht : d.Comparable t := lt_ok_iff.mp ⟨more, hmore⟩
        have hrest := ih.mp ⟨m, h⟩
        refine ⟨ht.symm, fun t' ht' => ?_⟩
        cases more with
        | true => exact (hrest t' ht').trans ht.symm
        | false => exact hrest t' ht'
      · rintro ⟨ht, hts⟩
        rw [latest, ht.symm.lt_eq]
        refine ih.mpr fun t' ht' => ?_
        cases decide (d.instant < t.instant) with
        | true => exact (hts t' ht').trans ht.symm
        | false => exact hts t' ht'

theorem latest_spec {d m : DateTime} {ts : List DateTime} (h : latest d ts = .ok m) :
    (m = d ∨ m ∈ ts) ∧ d.instant ≤ m.instant ∧ ∀ t ∈ ts, t.instant ≤ m.instant := by
  induction ts generalizing d with
  | nil =>
      obtain rfl := Except.ok.inj h
      exact ⟨.inl rfl, Int.le_refl _, by simp⟩
  | cons t ts ih =>
      obtain ⟨more, hmore, h⟩ := except_of_bind h
      have ht : d.Comparable t := lt_ok_iff.mp ⟨more, hmore⟩
      rw [ht.lt_eq] at hmore
      obtain rfl := Except.ok.inj hmore
      rw [List.forall_mem_cons, List.mem_cons]
      by_cases hlt : d.instant < t.instant
      · rw [decide_eq_true hlt, if_pos rfl] at h
        obtain ⟨hmem, hle, hrest⟩ := ih h
        have hd : d.instant ≤ m.instant := by omega
        exact ⟨.inr hmem, hd, hle, hrest⟩
      · rw [decide_eq_false hlt, if_neg Bool.false_ne_true] at h
        obtain ⟨hmem, hle, hrest⟩ := ih h
        have ht : t.instant ≤ m.instant := by omega
        exact ⟨hmem.imp_right .inr, hle, ht, hrest⟩

/-! ### Loops that collect -/

section

variable {α β : Type} {f : α → Draw (List β)} {items : List α} {t t' : Ticks} {out : List β}

/-- What a loop has collected before stands in front of what it collects. -/
theorem loop_collects (f : α → Draw (List β)) (items : List α) (acc : List β) :
    Exec.loop (fun out item => f item >>= fun more => pure (out ++ more)) acc items =
      collect f items >>= fun rest => pure (acc ++ rest) := by
  have hcollect : ∀ items : List α, collect f items =
      Exec.loop (fun out item => f item >>= fun more => pure (out ++ more)) [] items :=
    fun _ => rfl
  induction items generalizing acc with
  | nil =>
      rw [hcollect, Exec.loop, Exec.loop, pure_bind, List.append_nil]
  | cons a items ih =>
      have hstep : ∀ acc : List β,
          Exec.loop (fun out item => f item >>= fun more => pure (out ++ more)) acc (a :: items) =
            f a >>= fun more => collect f items >>= fun rest => pure (acc ++ more ++ rest) := by
        intro acc
        rw [Exec.loop, bind_assoc]
        simp only [pure_bind, ih]
      rw [hcollect (a :: items), hstep, hstep]
      simp only [bind_assoc, pure_bind, List.nil_append, List.append_assoc]

theorem collect_cons (f : α → Draw (List β)) (a : α) (items : List α) :
    collect f (a :: items) =
      f a >>= fun part => collect f items >>= fun rest => pure (part ++ rest) := by
  have hfirst : collect f (a :: items) =
      f a >>= fun part => Exec.loop (fun out item => f item >>= fun more => pure (out ++ more)) part
        items := by
    simp only [collect, Exec.loop, bind_assoc, pure_bind, List.nil_append]
  rw [hfirst]
  simp only [loop_collects]

/-- What is collected is put together from the parts. -/
theorem collect_parts {P : α → List β → Prop}
    (h : ∀ a ∈ items, ∀ t t' part, f a t = (.ok part, t') → P a part)
    (hrun : collect f items t = (.ok out, t')) :
    ∃ parts, List.Forall₂ P items parts ∧ out = parts.flatten := by
  induction items generalizing t t' out with
  | nil =>
      obtain ⟨hout, -⟩ := Prod.mk.inj hrun
      obtain rfl := Except.ok.inj hout
      exact ⟨[], .nil, rfl⟩
  | cons a items ih =>
      rw [collect_cons] at hrun
      obtain ⟨part, t₁, hpart, hrun⟩ := ok_of_bind hrun
      obtain ⟨rest, t₂, hrest, hrun⟩ := ok_of_bind hrun
      obtain ⟨hout, -⟩ := Prod.mk.inj hrun
      obtain rfl := Except.ok.inj hout
      obtain ⟨parts, hparts, rfl⟩ := ih (fun b hb => h b (List.mem_cons_of_mem a hb)) hrest
      exact ⟨part :: parts, .cons (h a List.mem_cons_self _ _ _ hpart) hparts, rfl⟩

/-- The computation returns, whatever the clock and the ids are, or never. -/
def ReturnsIff {γ : Type} (m : Draw γ) (p : Prop) : Prop :=
  ∀ t, (∃ out t', m t = (.ok out, t')) ↔ p

theorem collect_returnsIff {p : α → Prop} (h : ∀ a, ReturnsIff (f a) (p a)) (items : List α) :
    ReturnsIff (collect f items) (∀ a ∈ items, p a) := by
  induction items with
  | nil =>
      intro t
      exact iff_of_true ⟨[], t, rfl⟩ (by simp)
  | cons a items ih =>
      intro t
      rw [collect_cons, List.forall_mem_cons]
      constructor
      · rintro ⟨out, t', hrun⟩
        obtain ⟨part, t₁, hpart, hrun⟩ := ok_of_bind hrun
        obtain ⟨rest, t₂, hrest, -⟩ := ok_of_bind hrun
        exact ⟨(h a t).mp ⟨part, t₁, hpart⟩, (ih t₁).mp ⟨rest, t₂, hrest⟩⟩
      · rintro ⟨ha, hitems⟩
        obtain ⟨part, t₁, hpart⟩ := (h a t).mpr ha
        obtain ⟨rest, t₂, hrest⟩ := (ih t₁).mpr hitems
        refine ⟨part ++ rest, t₂, ?_⟩
        rw [bind_run, hpart]
        show (collect f items >>= _) t₁ = _
        rw [bind_run, hrest]
        rfl

end

/-! ### Groups -/

/-- The findings of a rule's required ids under one key. -/
def groupOf (rule : CorrelationRule) (findings : List Finding) (key : String) : List Finding :=
  findings.filter fun item => item.ruleId ∈ rule.requiredRuleIds ∧ groupKey rule item = key

/-- The group comes to the test of its times. -/
structure Tested (rule : CorrelationRule) (group : List Finding) : Prop where
  nonempty : group ≠ []
  covered : covers rule group = true
  enough : rule.minFindings ≤ group.length

/-- Any two creation times can be compared. -/
def Alike (group : List Finding) : Prop :=
  ∀ a ∈ group, ∀ b ∈ group, a.createdAt.Comparable b.createdAt

/-- Any two creation times lie at most `window` seconds apart. -/
def SpansAtMost (window : Int) (group : List Finding) : Prop :=
  ∀ a ∈ group, ∀ b ∈ group, a.createdAt.instant - b.createdAt.instant ≤ window * DateTime.second

/-- A number of seconds that `timedelta` takes. -/
def InRange (s : Int) : Prop :=
  -999999999 ≤ s / 86400 ∧ s / 86400 ≤ 999999999

/-- The order that the stages are sorted by. -/
def NoLater (a b : Finding) : Prop :=
  a.createdAt.asUtc.wall ≤ b.createdAt.asUtc.wall

instance : DecidableRel NoLater :=
  fun _ _ => inferInstanceAs (Decidable (_ ≤ _))

instance : Std.Total NoLater where
  total a b := Int.le_total a.createdAt.asUtc.wall b.createdAt.asUtc.wall

instance : IsTrans Finding NoLater where
  trans _ _ _ := Int.le_trans

/-- The test of the times raises nothing. -/
def Harmless (rule : CorrelationRule) (group : List Finding) : Prop :=
  Tested rule group → Alike group ∧ InRange rule.windowSeconds

structure Passes (rule : CorrelationRule) (group : List Finding) : Prop where
  tested : Tested rule group
  spans : SpansAtMost rule.windowSeconds group

/-- The storyline of a rule for a group under a key. -/
structure StoryFor (rule : CorrelationRule) (group : List Finding) (key : String) (s : Storyline) :
    Prop where
  title : s.title = rule.title
  entities : s.entities = [(rule.entityKey, if key = "" then [] else [key])]
  attributes : s.attributes = [("correlation_rule_id", .str rule.ruleId)]
  confidence : s.confidence = 75
  techniques : s.mitreTechniques = rule.mitreTechniques
  tenant : ∃ item ∈ group, s.tenantId = item.tenantId
  stages : ∃ sorted : List Finding, sorted.Perm group ∧
    sorted.Pairwise (fun a b => a.createdAt.instant ≤ b.createdAt.instant) ∧
    s.stages = sorted.map fun item => stageOf item.ruleId item
  eventIds : s.eventIds = group.flatMap (·.eventIds)
  evidenceIds : s.evidenceIds = group.flatMap evidenceIdsOf
  start : (∃ item ∈ group, s.start = item.createdAt) ∧
    ∀ item ∈ group, s.start.instant ≤ item.createdAt.instant
  finish : (∃ item ∈ group, s.finish = item.createdAt) ∧
    ∀ item ∈ group, item.createdAt.instant ≤ s.finish.instant

section

variable {rt : Runtime} {rule : CorrelationRule} {findings matched group tail : List Finding}
  {head : Finding} {key : String} {t t' : Ticks} {finish start : DateTime}

theorem lift_ok {α : Type} {r : Except Exn α} {a : α} (h : Exec.lift r t = (.ok a, t')) :
    r = .ok a :=
  (Prod.mk.inj h).1

theorem lift_bind {α β : Type} {r : Except Exn α} {a : α} (h : r = .ok a) (f : α → Draw β) :
    (Exec.lift r >>= f : Draw β) = f a := by
  rw [h]
  rfl

theorem timedelta_eq {s w : Int} (h : timedelta s = .ok w) : InRange s ∧ w = s * DateTime.second := by
  unfold timedelta at h
  split at h
  · exact ⟨‹_›, (Except.ok.inj h).symm⟩
  · cases h

theorem timedelta_of_inRange {s : Int} (h : InRange s) : timedelta s = .ok (s * DateTime.second) :=
  if_pos h

/-- The first and the last creation time of a group. -/
structure Ends (group : List Finding) (start finish : DateTime) : Prop where
  start : (∃ item ∈ group, start = item.createdAt) ∧
    ∀ item ∈ group, start.instant ≤ item.createdAt.instant
  finish : (∃ item ∈ group, finish = item.createdAt) ∧
    ∀ item ∈ group, item.createdAt.instant ≤ finish.instant

theorem ends_of_times (hgroup : group = head :: tail)
    (hfinish : latest head.createdAt (group.map (·.createdAt)) = .ok finish)
    (hstart : earliest head.createdAt (group.map (·.createdAt)) = .ok start) :
    Ends group start finish := by
  obtain ⟨hfmem, -, hfle⟩ := latest_spec hfinish
  obtain ⟨hsmem, -, hsle⟩ := earliest_spec hstart
  have hmem : ∀ d, (d = head.createdAt ∨ d ∈ group.map (·.createdAt)) →
      ∃ item ∈ group, d = item.createdAt := by
    rintro d (rfl | hd)
    · exact ⟨head, by rw [hgroup]; exact List.mem_cons_self, rfl⟩
    · obtain ⟨item, hitem, rfl⟩ := List.mem_map.mp hd
      exact ⟨item, hitem, rfl⟩
  exact ⟨⟨hmem _ hsmem, fun item hitem => hsle _ (List.mem_map_of_mem hitem)⟩,
    ⟨hmem _ hfmem, fun item hitem => hfle _ (List.mem_map_of_mem hitem)⟩⟩

theorem Ends.comparable (h : Ends group start finish) (halike : Alike group) :
    finish.Comparable start := by
  obtain ⟨first, hfirst, rfl⟩ := h.start.1
  obtain ⟨last, hlast, rfl⟩ := h.finish.1
  exact halike last hlast first hfirst

theorem Ends.spans_iff (h : Ends group start finish) (window : Int) :
    SpansAtMost window group ↔ finish.instant - start.instant ≤ window * DateTime.second := by
  obtain ⟨⟨⟨first, hfirst, rfl⟩, hstart⟩, ⟨⟨last, hlast, rfl⟩, hfinish⟩⟩ := h
  constructor
  · intro h
    exact h last hlast first hfirst
  · intro h a ha b hb
    have hlate := hfinish a ha
    have hearly := hstart b hb
    omega

/-- The times of a group have ends exactly if they can be compared. -/
theorem times_ok_iff (hgroup : group = head :: tail) :
    ((∃ finish, latest head.createdAt (group.map (·.createdAt)) = .ok finish) ↔ Alike group) ∧
      ((∃ start, earliest head.createdAt (group.map (·.createdAt)) = .ok start) ↔ Alike group) := by
  have hhead : head ∈ group := by
    rw [hgroup]
    exact List.mem_cons_self
  have halike : (∀ d ∈ group.map (·.createdAt), d.Comparable head.createdAt) ↔ Alike group := by
    rw [List.forall_mem_map]
    constructor
    · intro h a ha b hb
      exact (h a ha).trans (h b hb).symm
    · intro h a ha
      exact h a ha head hhead
  rw [latest_ok_iff, earliest_ok_iff]
  exact ⟨halike, halike⟩

theorem tested_iff (hgroup : group = head :: tail) :
    Tested rule group ↔ ¬ (!covers rule group || group.length < rule.minFindings) = true := by
  have hne : group ≠ [] := by
    rw [hgroup]
    exact List.cons_ne_nil head tail
  rw [Bool.or_eq_true, Bool.not_eq_true', decide_eq_true_eq, not_or, Bool.not_eq_false, Int.not_lt]
  exact ⟨fun h => ⟨h.covered, h.enough⟩, fun h => ⟨hne, h.1, h.2⟩⟩

theorem groupStory_untested (hgroup : (matched.filter fun item => groupKey rule item = key) = group)
    (h : ¬ Tested rule group) : groupStory rt rule matched key = pure [] := by
  unfold groupStory
  dsimp only
  rw [hgroup]
  cases group with
  | nil => rfl
  | cons head tail =>
      rw [tested_iff rfl, not_not] at h
      exact if_pos h

/-- A tested group that gives a result can be timed; it gives a storyline if it is short enough. -/
theorem groupStory_tested (hgroup : (matched.filter fun item => groupKey rule item = key) = group)
    (h : Tested rule group) {out : List Storyline}
    (hrun : groupStory rt rule matched key t = (.ok out, t')) :
    (Alike group ∧ InRange rule.windowSeconds) ∧
      (SpansAtMost rule.windowSeconds group → ∃ s, out = [s] ∧ StoryFor rule group key s) ∧
      (¬ SpansAtMost rule.windowSeconds group → out = []) := by
  unfold groupStory at hrun
  dsimp only at hrun
  rw [hgroup] at hrun
  obtain ⟨head, tail, hcons⟩ := List.exists_cons_of_ne_nil h.nonempty
  have htested := (tested_iff hcons).mp h
  subst hcons
  dsimp only at hrun
  rw [if_neg htested] at hrun
  obtain ⟨finish, _, hfinish, hrun⟩ := ok_of_bind hrun
  obtain ⟨start, _, hstart, hrun⟩ := ok_of_bind hrun
  obtain ⟨span, _, hspan, hrun⟩ := ok_of_bind hrun
  obtain ⟨window, _, hwindow, hrun⟩ := ok_of_bind hrun
  have halike : Alike (head :: tail) := (times_ok_iff rfl).1.mp ⟨finish, lift_ok hfinish⟩
  obtain ⟨hrange, rfl⟩ := timedelta_eq (lift_ok hwindow)
  have hends := ends_of_times rfl (lift_ok hfinish) (lift_ok hstart)
  have hminus := lift_ok hspan
  rw [(hends.comparable halike).minus_eq] at hminus
  obtain rfl := Except.ok.inj hminus
  refine ⟨⟨halike, hrange⟩, ?_⟩
  rw [hends.spans_iff]
  split at hrun
  · rename_i hlong
    obtain rfl := Except.ok.inj (Prod.mk.inj hrun).1
    exact ⟨fun hspans => absurd hlong (Int.not_lt.mpr hspans), fun _ => rfl⟩
  · rename_i hshort
    refine ⟨fun _ => ?_, fun hspans => absurd (Int.not_lt.mp hshort) hspans⟩
    obtain ⟨id, _, -, hrun⟩ := ok_of_bind hrun
    obtain rfl := Except.ok.inj (Prod.mk.inj hrun).1
    refine ⟨_, rfl, ?_⟩
    constructor
    · rfl
    · rfl
    · rfl
    · rfl
    · rfl
    · exact ⟨head, List.mem_cons_self, rfl⟩
    · exact ⟨_, List.perm_insertionSort NoLater _, List.pairwise_insertionSort NoLater _, rfl⟩
    · rfl
    · rfl
    · exact hends.start
    · exact hends.finish

theorem groupStory_returnsIff (rt : Runtime) (rule : CorrelationRule) (matched : List Finding)
    (key : String) :
    ReturnsIff (groupStory rt rule matched key)
      (Harmless rule (matched.filter fun item => groupKey rule item = key)) := by
  generalize hgroup : (matched.filter fun item => groupKey rule item = key) = group
  intro t
  constructor
  · rintro ⟨out, t', hrun⟩ htested
    exact (groupStory_tested hgroup htested hrun).1
  · intro h
    by_cases htested : Tested rule group
    · obtain ⟨halike, hrange⟩ := h htested
      obtain ⟨head, tail, hcons⟩ := List.exists_cons_of_ne_nil htested.nonempty
      obtain ⟨finish, hfinish⟩ := (times_ok_iff hcons).1.mpr halike
      obtain ⟨start, hstart⟩ := (times_ok_iff hcons).2.mpr halike
      have hends := ends_of_times hcons hfinish hstart
      have hnot := (tested_iff hcons).mp htested
      unfold groupStory
      dsimp only
      rw [hgroup]
      subst hcons
      dsimp only
      rw [if_neg hnot, lift_bind hfinish, lift_bind hstart, lift_bind (hends.comparable halike).minus_eq,
        lift_bind (timedelta_of_inRange hrange)]
      split
      · exact ⟨[], t, rfl⟩
      · exact ⟨_, _, rfl⟩
    · refine ⟨[], t, ?_⟩
      rw [groupStory_untested hgroup htested]
      rfl

theorem groupStory_contributes {out : List Storyline}
    (hgroup : (matched.filter fun item => groupKey rule item = key) = groupOf rule findings key)
    (hrun : groupStory rt rule matched key t = (.ok out, t')) :
    Contributes (fun key => Passes rule (groupOf rule findings key))
      (fun key s => StoryFor rule (groupOf rule findings key) key s) key out := by
  by_cases htested : Tested rule (groupOf rule findings key)
  · obtain ⟨-, hspans, hlong⟩ := groupStory_tested hgroup htested hrun
    exact ⟨fun hpass => hspans hpass.spans, fun hpass => hlong fun hs => hpass ⟨htested, hs⟩⟩
  · rw [groupStory_untested hgroup htested] at hrun
    obtain rfl := Except.ok.inj (Prod.mk.inj hrun).1
    exact ⟨fun hpass => absurd hpass.tested htested, fun _ => rfl⟩

end

/-! ### Rules -/

section

variable {rt : Runtime} {rule : CorrelationRule} {rules : List CorrelationRule}
  {findings findings' group group' : List Finding} {key : String} {t t' : Ticks}
  {out stories : List Storyline}

theorem matched_eq (rule : CorrelationRule) (findings : List Finding) (key : String) :
    ((findings.filter fun item => item.ruleId ∈ rule.requiredRuleIds).filter
      fun item => groupKey rule item = key) = groupOf rule findings key := by
  rw [List.filter_filter, groupOf]
  refine List.filter_congr fun item _ => ?_
  rw [Bool.decide_and, Bool.and_comm]

theorem length_toSet_mono {ids ids' : List String} (h : ids ⊆ ids') :
    (toSet ids).length ≤ (toSet ids').length := by
  refine (List.Nodup.subperm (nodup_toSet ids) fun id hid => ?_).length_le
  exact mem_toSet.mpr (h (mem_toSet.mp hid))

theorem covers_mono (hsub : group ⊆ group') (h : covers rule group = true) :
    covers rule group' = true := by
  have hlength := length_toSet_mono (List.map_subset (·.ruleId) hsub)
  simp only [covers, decide_eq_true_eq] at h ⊢
  omega

theorem mem_groupOf {item : Finding} :
    item ∈ groupOf rule findings key ↔
      item ∈ findings ∧ item.ruleId ∈ rule.requiredRuleIds ∧ groupKey rule item = key := by
  simp [groupOf]

/-- A tested group is under the key of a finding of the rule, and those findings cover it. -/
theorem Tested.found (h : Tested rule (groupOf rule findings key)) :
    covers rule (findings.filter fun item => item.ruleId ∈ rule.requiredRuleIds) = true ∧
      key ∈ toSet ((findings.filter fun item => item.ruleId ∈ rule.requiredRuleIds).map
        (groupKey rule)) := by
  have hsub : groupOf rule findings key ⊆
      findings.filter fun item => item.ruleId ∈ rule.requiredRuleIds := by
    intro item hitem
    obtain ⟨hmem, hid, -⟩ := mem_groupOf.mp hitem
    exact List.mem_filter.mpr ⟨hmem, decide_eq_true hid⟩
  refine ⟨covers_mono hsub h.covered, mem_toSet.mpr ?_⟩
  obtain ⟨item, hitem⟩ := List.exists_mem_of_ne_nil _ h.nonempty
  exact List.mem_map.mpr ⟨item, hsub hitem, (mem_groupOf.mp hitem).2.2⟩

theorem applyCorrelationRule_returnsIff (rt : Runtime) (findings : List Finding)
    (rule : CorrelationRule) :
    ReturnsIff (applyCorrelationRule rt findings rule)
      (∀ key, Harmless rule (groupOf rule findings key)) := by
  intro t
  by_cases hcovered :
      covers rule (findings.filter fun item => item.ruleId ∈ rule.requiredRuleIds) = true
  · have hgroups := collect_returnsIff
      (groupStory_returnsIff rt rule (findings.filter fun item => item.ruleId ∈ rule.requiredRuleIds))
      (toSet ((findings.filter fun item => item.ruleId ∈ rule.requiredRuleIds).map (groupKey rule))) t
    simp only [matched_eq] at hgroups
    rw [applyCorrelationRule, if_pos hcovered, hgroups]
    constructor
    · intro h key htested
      exact h key htested.found.2 htested
    · intro h key _
      exact h key
  · rw [applyCorrelationRule, if_neg hcovered]
    refine iff_of_true ⟨[], t, rfl⟩ fun key htested => ?_
    exact absurd htested.found.1 hcovered

theorem applyCorrelationRules_returnsIff (rt : Runtime) (findings : List Finding)
    (rules : List CorrelationRule) :
    ReturnsIff (applyCorrelationRules rt findings rules)
      (∀ rule ∈ rules, ∀ key, Harmless rule (groupOf rule findings key)) :=
  collect_returnsIff (applyCorrelationRule_returnsIff rt findings) rules

/-- The storylines of a rule belong, one by one, to the keys whose groups pass. -/
theorem applyCorrelationRule_keyed
    (hrun : applyCorrelationRule rt findings rule t = (.ok out, t')) :
    ∃ keys, Keyed (fun key => Passes rule (groupOf rule findings key))
      (fun key s => StoryFor rule (groupOf rule findings key) key s) keys out := by
  rw [applyCorrelationRule] at hrun
  split at hrun
  · obtain ⟨parts, hparts, rfl⟩ := collect_parts
      (fun key _ _ _ _ hpart => groupStory_contributes (matched_eq rule findings key) hpart) hrun
    obtain ⟨kept, hsub, hmem, hkept⟩ := exists_kept hparts
    refine ⟨kept, hsub.nodup (nodup_toSet _), fun key => ?_, hkept⟩
    rw [hmem]
    constructor
    · exact fun h => h.2
    · exact fun h => ⟨h.tested.found.2, h⟩
  · rename_i huncovered
    obtain rfl := Except.ok.inj (Prod.mk.inj hrun).1
    refine ⟨[], List.nodup_nil, fun key => iff_of_false (by simp) fun h => ?_, .nil⟩
    exact absurd h.tested.found.1 huncovered

/-- The storylines belong, one by one, to the pairs of a rule and a key whose group passes. -/
theorem applyCorrelationRules_keyed (hrules : (rules.map (·.ruleId)).Nodup)
    (hrun : applyCorrelationRules rt findings rules t = (.ok stories, t')) :
    ∃ pairs, Keyed (fun p : CorrelationRule × String =>
        p.1 ∈ rules ∧ Passes p.1 (groupOf p.1 findings p.2))
      (fun p s => StoryFor p.1 (groupOf p.1 findings p.2) p.2 s) pairs stories := by
  have hrule : ∀ rule ∈ rules, ∀ t t' part, applyCorrelationRule rt findings rule t = (.ok part, t') →
      ∃ keys, Keyed (fun key => Passes rule (groupOf rule findings key))
        (fun key s => StoryFor rule (groupOf rule findings key) key s) keys part :=
    fun rule _ _ _ _ hpart => applyCorrelationRule_keyed hpart
  obtain ⟨parts, hparts, rfl⟩ := collect_parts hrule hrun
  exact exists_pairs (List.Nodup.of_map _ hrules) hparts

end

/-! ### What a rule asks for -/

/-- The findings have every required id, are enough, and lie within the window. -/
structure Qualifies (rule : CorrelationRule) (group : List Finding) : Prop where
  ids : ∀ id ∈ rule.requiredRuleIds, ∃ item ∈ group, item.ruleId = id
  enough : rule.minFindings ≤ group.length
  spans : SpansAtMost rule.windowSeconds group

/-- The same storyline, up to its id, the order of stages at one time and the order in which ids are
put together. -/
structure SameStory (s s' : Storyline) : Prop where
  title : s.title = s'.title
  tenantId : s.tenantId = s'.tenantId
  entities : s.entities = s'.entities
  attributes : s.attributes = s'.attributes
  confidence : s.confidence = s'.confidence
  techniques : s.mitreTechniques = s'.mitreTechniques
  stages : s.stages.Perm s'.stages
  times : s.stages.map (fun stage => stage.timestamp.map DateTime.instant) =
    s'.stages.map (fun stage => stage.timestamp.map DateTime.instant)
  eventIds : s.eventIds.Perm s'.eventIds
  evidenceIds : s.evidenceIds.Perm s'.evidenceIds
  start : s.start.Same s'.start
  finish : s.finish.Same s'.finish

section

variable {rt : Runtime} {rule : CorrelationRule} {rules : List CorrelationRule}
  {findings findings' group group' : List Finding} {key : String} {t t' : Ticks}
  {stories : List Storyline} {s s' : Storyline}

theorem toSet_ids_subset (hids : ∀ item ∈ group, item.ruleId ∈ rule.requiredRuleIds) :
    toSet (group.map (·.ruleId)) ⊆ rule.requiredRuleIds := by
  intro id hid
  obtain ⟨item, hitem, rfl⟩ := List.mem_map.mp (mem_toSet.mp hid)
  exact hids item hitem

theorem covers_iff (hnodup : rule.requiredRuleIds.Nodup)
    (hids : ∀ item ∈ group, item.ruleId ∈ rule.requiredRuleIds) :
    covers rule group = true ↔ ∀ id ∈ rule.requiredRuleIds, ∃ item ∈ group, item.ruleId = id := by
  have hsub := toSet_ids_subset hids
  rw [covers, decide_eq_true_eq]
  constructor
  · intro hlength id hid
    have hperm := ((nodup_toSet _).subperm hsub).perm_of_length_le hlength
    exact List.mem_map.mp (mem_toSet.mp (hperm.mem_iff.mpr hid))
  · intro h
    refine (hnodup.subperm fun id hid => ?_).length_le
    exact mem_toSet.mpr (List.mem_map.mpr (h id hid))

/-- Repeated ids are never covered. -/
theorem nodup_of_covers (hids : ∀ item ∈ group, item.ruleId ∈ rule.requiredRuleIds)
    (h : covers rule group = true) : rule.requiredRuleIds.Nodup := by
  have hsub := toSet_ids_subset hids
  rw [covers, decide_eq_true_eq] at h
  have hperm := ((nodup_toSet _).subperm hsub).perm_of_length_le h
  exact hperm.nodup_iff.mp (nodup_toSet _)

theorem ids_groupOf : ∀ item ∈ groupOf rule findings key, item.ruleId ∈ rule.requiredRuleIds :=
  fun _ hitem => (mem_groupOf.mp hitem).2.1

theorem passes_iff (hne : rule.requiredRuleIds ≠ []) (hnodup : rule.requiredRuleIds.Nodup) :
    Passes rule (groupOf rule findings key) ↔ Qualifies rule (groupOf rule findings key) := by
  have hids : ∀ item ∈ groupOf rule findings key, item.ruleId ∈ rule.requiredRuleIds := ids_groupOf
  have hcovers := covers_iff hnodup hids
  constructor
  · intro h
    exact ⟨hcovers.mp h.tested.covered, h.tested.enough, h.spans⟩
  · intro h
    refine ⟨⟨?_, hcovers.mpr h.ids, h.enough⟩, h.spans⟩
    obtain ⟨id, hid⟩ := List.exists_mem_of_ne_nil _ hne
    obtain ⟨item, hitem, -⟩ := h.ids id hid
    exact List.ne_nil_of_mem hitem

theorem StoryFor.times (h : StoryFor rule group key s) :
    ∃ sorted : List Finding, sorted.Perm group ∧
      sorted.Pairwise (fun a b => a.createdAt.instant ≤ b.createdAt.instant) ∧
      s.stages.map (fun stage => stage.timestamp.map DateTime.instant) =
        (sorted.map (·.createdAt.instant)).map some := by
  obtain ⟨sorted, hperm, hpairwise, hstages⟩ := h.stages
  refine ⟨sorted, hperm, hpairwise, ?_⟩
  rw [hstages, List.map_map, List.map_map]
  rfl

/-- One group in two orders gives the same storyline. -/
theorem StoryFor.same (h : StoryFor rule group key s) (h' : StoryFor rule group' key s')
    (hperm : group'.Perm group) (halike : Alike group)
    (htenant : ∀ a ∈ group, ∀ b ∈ group, a.tenantId = b.tenantId) : SameStory s s' := by
  have hmem : ∀ item ∈ group', item ∈ group := fun item hitem => hperm.subset hitem
  obtain ⟨sorted, hsorted, hpairwise, htimes⟩ := h.times
  obtain ⟨sorted', hsorted', hpairwise', htimes'⟩ := h'.times
  have hsame : sorted.Perm sorted' := hsorted.trans (hperm.symm.trans hsorted'.symm)
  have hinstants : sorted.map (·.createdAt.instant) = sorted'.map (·.createdAt.instant) :=
    List.Perm.eq_of_pairwise (fun _ _ _ _ => Int.le_antisymm) (List.pairwise_map.mpr hpairwise)
      (List.pairwise_map.mpr hpairwise') (hsame.map _)
  obtain ⟨⟨first, hfirst, hstart⟩, hstarts⟩ := h.start
  obtain ⟨⟨first', hfirst', hstart'⟩, hstarts'⟩ := h'.start
  obtain ⟨⟨last, hlast, hfinish⟩, hfinishes⟩ := h.finish
  obtain ⟨⟨last', hlast', hfinish'⟩, hfinishes'⟩ := h'.finish
  constructor
  · rw [h.title, h'.title]
  · obtain ⟨item, hitem, htenantId⟩ := h.tenant
    obtain ⟨item', hitem', htenantId'⟩ := h'.tenant
    rw [htenantId, htenantId', htenant item hitem item' (hmem item' hitem')]
  · rw [h.entities, h'.entities]
  · rw [h.attributes, h'.attributes]
  · rw [h.confidence, h'.confidence]
  · rw [h.techniques, h'.techniques]
  · obtain ⟨order, horder, -, hstages⟩ := h.stages
    obtain ⟨order', horder', -, hstages'⟩ := h'.stages
    rw [hstages, hstages']
    exact (horder.trans (hperm.symm.trans horder'.symm)).map _
  · rw [htimes, htimes', hinstants]
  · rw [h.eventIds, h'.eventIds]
    exact hperm.symm.flatMap_right _
  · rw [h.evidenceIds, h'.evidenceIds]
    exact hperm.symm.flatMap_right _
  · rw [hstart] at hstarts ⊢
    rw [hstart'] at hstarts' ⊢
    exact ⟨halike first hfirst first' (hmem first' hfirst'), Int.le_antisymm
      (hstarts first' (hmem first' hfirst')) (hstarts' first (hperm.mem_iff.mpr hfirst))⟩
  · rw [hfinish] at hfinishes ⊢
    rw [hfinish'] at hfinishes' ⊢
    exact ⟨halike last hlast last' (hmem last' hlast'), Int.le_antisymm
      (hfinishes' last (hperm.mem_iff.mpr hlast)) (hfinishes last' (hmem last' hlast'))⟩

theorem groupOf_perm (h : findings'.Perm findings) (rule : CorrelationRule) (key : String) :
    (groupOf rule findings' key).Perm (groupOf rule findings key) :=
  h.filter _

theorem Tested.perm (h : Tested rule group') (hperm : group'.Perm group) : Tested rule group where
  nonempty := fun hnil => h.nonempty (by rw [hnil] at hperm; exact hperm.eq_nil)
  covered := covers_mono hperm.subset h.covered
  enough := by
    rw [← hperm.length_eq]
    exact h.enough

theorem Harmless.perm (h : Harmless rule group) (hperm : group'.Perm group) :
    Harmless rule group' := by
  intro htested
  obtain ⟨halike, hrange⟩ := h (htested.perm hperm)
  exact ⟨fun a ha b hb => halike a (hperm.subset ha) b (hperm.subset hb), hrange⟩

theorem Qualifies.perm (h : Qualifies rule group) (hperm : group.Perm group') :
    Qualifies rule group' where
  ids id hid := by
    obtain ⟨item, hitem, hitemId⟩ := h.ids id hid
    exact ⟨item, hperm.subset hitem, hitemId⟩
  enough := by
    rw [← hperm.length_eq]
    exact h.enough
  spans a ha b hb := h.spans a (hperm.mem_iff.mpr ha) b (hperm.mem_iff.mpr hb)

/-- The storylines belong, one by one, to the pairs of a rule and a key whose group the rule asks
for. -/
theorem stories_keyed (hrules : (rules.map (·.ruleId)).Nodup)
    (hrequired : ∀ rule ∈ rules, rule.requiredRuleIds ≠ [] ∧ rule.requiredRuleIds.Nodup)
    (hrun : applyCorrelationRules rt findings rules t = (.ok stories, t')) :
    ∃ pairs, Keyed (fun p : CorrelationRule × String =>
        p.1 ∈ rules ∧ Qualifies p.1 (groupOf p.1 findings p.2))
      (fun p s => StoryFor p.1 (groupOf p.1 findings p.2) p.2 s) pairs stories := by
  obtain ⟨pairs, hpairs⟩ := applyCorrelationRules_keyed hrules hrun
  refine ⟨pairs, hpairs.nodup, fun p => ?_, hpairs.results⟩
  rw [hpairs.mem_iff]
  refine and_congr_right fun hrule => ?_
  exact passes_iff (hrequired p.1 hrule).1 (hrequired p.1 hrule).2

/-- Whatever the order of the findings, the rules return if the creation times can be compared; the
storylines are those of the groups that the rules ask for. -/
theorem applyCorrelationRules_sound (rt : Runtime) {rules : List CorrelationRule}
    {findings : List Finding} (hrules : (rules.map (·.ruleId)).Nodup)
    (hrequired : ∀ rule ∈ rules, rule.requiredRuleIds ≠ [] ∧ rule.requiredRuleIds.Nodup)
    (htenant : ∀ a ∈ findings, ∀ b ∈ findings, a.tenantId = b.tenantId) :
    (Alike findings → (∀ rule ∈ rules, InRange rule.windowSeconds) →
      ∀ t, ∃ stories t', applyCorrelationRules rt findings rules t = (.ok stories, t')) ∧
    ∀ t t' stories, applyCorrelationRules rt findings rules t = (.ok stories, t') →
      (∃ pairs, Keyed (fun p : CorrelationRule × String =>
          p.1 ∈ rules ∧ Qualifies p.1 (groupOf p.1 findings p.2))
        (fun p s => StoryFor p.1 (groupOf p.1 findings p.2) p.2 s) pairs stories) ∧
      ∀ findings' : List Finding, findings'.Perm findings →
        ∃ stories' t'', applyCorrelationRules rt findings' rules t = (.ok stories', t'') ∧
          ∃ arranged : List Storyline, arranged.Perm stories' ∧
            List.Forall₂ SameStory stories arranged := by
  constructor
  · intro halike hrange t
    refine (applyCorrelationRules_returnsIff rt findings rules t).mpr fun rule hrule key _ => ?_
    refine ⟨fun a ha b hb => ?_, hrange rule hrule⟩
    exact halike a (mem_groupOf.mp ha).1 b (mem_groupOf.mp hb).1
  · intro t t' stories hrun
    have hharmless := (applyCorrelationRules_returnsIff rt findings rules t).mp ⟨stories, t', hrun⟩
    obtain ⟨pairs, hpairs⟩ := stories_keyed hrules hrequired hrun
    refine ⟨⟨pairs, hpairs⟩, fun findings' hperm => ?_⟩
    obtain ⟨stories', t'', hrun'⟩ := (applyCorrelationRules_returnsIff rt findings' rules t).mpr
      fun rule hrule key => (hharmless rule hrule key).perm (groupOf_perm hperm rule key)
    obtain ⟨pairs', hpairs'⟩ := stories_keyed hrules hrequired hrun'
    refine ⟨stories', t'', hrun', ?_⟩
    have hsameKeys : Keyed (fun p : CorrelationRule × String =>
        p.1 ∈ rules ∧ Qualifies p.1 (groupOf p.1 findings p.2))
        (fun p s => StoryFor p.1 (groupOf p.1 findings' p.2) p.2 s) pairs' stories' := by
      refine ⟨hpairs'.nodup, fun p => ?_, hpairs'.results⟩
      have hgroup := groupOf_perm hperm p.1 p.2
      rw [hpairs'.mem_iff]
      exact and_congr_right fun _ => ⟨fun h => h.perm hgroup, fun h => h.perm hgroup.symm⟩
    refine hpairs.rearranged hsameKeys ?_
    rintro ⟨rule, key⟩ ⟨hrule, hqualifies⟩ s s' hs hs'
    have hpasses := (passes_iff (hrequired rule hrule).1 (hrequired rule hrule).2).mpr hqualifies
    refine hs.same hs' (groupOf_perm hperm rule key) (hharmless rule hrule key hpasses.tested).1 ?_
    intro a ha b hb
    exact htenant a (mem_groupOf.mp ha).1 b (mem_groupOf.mp hb).1

end

/-! ### More findings -/

/-- Among the findings are some under one key that satisfy the rule by themselves. -/
def Correlated (rule : CorrelationRule) (findings : List Finding) (key : String) : Prop :=
  ∃ core : List Finding, core.Subperm findings ∧
    (∀ item ∈ core, item.ruleId ∈ rule.requiredRuleIds ∧ groupKey rule item = key) ∧
    Alike core ∧ Qualifies rule core

/-- The storyline is one of the rule, for the key. -/
def IsOf (rule : CorrelationRule) (key : String) (s : Storyline) : Prop :=
  s.attributes = [("correlation_rule_id", .str rule.ruleId)] ∧
    s.entities = [(rule.entityKey, if key = "" then [] else [key])]

section

variable {rt : Runtime} {rule : CorrelationRule} {rules : List CorrelationRule}
  {findings findings' : List Finding} {key key' : String} {t t' : Ticks} {stories : List Storyline}

theorem Correlated.mono (h : Correlated rule findings key) (hsub : findings.Subperm findings') :
    Correlated rule findings' key := by
  obtain ⟨core, hcore, hrest⟩ := h
  exact ⟨core, hcore.trans hsub, hrest⟩

/-- A group that passes correlates. -/
theorem Passes.correlated (h : Passes rule (groupOf rule findings key))
    (halike : Alike (groupOf rule findings key)) : Correlated rule findings key := by
  have hnodup := nodup_of_covers ids_groupOf h.tested.covered
  have hids := (covers_iff hnodup ids_groupOf).mp h.tested.covered
  refine ⟨groupOf rule findings key, List.filter_sublist.subperm, ?_, halike, hids, h.tested.enough,
    h.spans⟩
  exact fun item hitem => (mem_groupOf.mp hitem).2

theorem isOf_iff {rule' : CorrelationRule} {group : List Finding} {s : Storyline}
    (h : StoryFor rule' group key' s) :
    IsOf rule key s ↔
      rule'.ruleId = rule.ruleId ∧ rule'.entityKey = rule.entityKey ∧ key' = key := by
  rw [IsOf, h.attributes, h.entities]
  by_cases hkey' : key' = "" <;> by_cases hkey : key = "" <;> simp [hkey', hkey, eq_comm]

theorem exists_story_iff (hrules : (rules.map (·.ruleId)).Nodup) (hrule : rule ∈ rules)
    (hrun : applyCorrelationRules rt findings rules t = (.ok stories, t')) :
    (∃ s ∈ stories, IsOf rule key s) ↔ Passes rule (groupOf rule findings key) := by
  obtain ⟨pairs, hpairs⟩ := applyCorrelationRules_keyed hrules hrun
  constructor
  · rintro ⟨s, hs, hof⟩
    obtain ⟨⟨rule', key'⟩, hp, hstory⟩ := exists_of_forall₂ hpairs.results hs
    obtain ⟨hrule', hpasses⟩ := (hpairs.mem_iff _).mp hp
    obtain ⟨hid, -, rfl⟩ := (isOf_iff hstory).mp hof
    obtain rfl : rule' = rule := List.inj_on_of_nodup_map hrules hrule' hrule hid
    exact hpasses
  · intro hpasses
    have hp := (hpairs.mem_iff (rule, key)).mpr ⟨hrule, hpasses⟩
    obtain ⟨s, hs, hstory⟩ := forall₂_exists hpairs.results hp
    exact ⟨s, hs, (isOf_iff hstory).mpr ⟨rfl, rfl, rfl⟩⟩

theorem Correlated.passes (h : Correlated rule findings key) (hne : rule.requiredRuleIds ≠ [])
    (hnodup : rule.requiredRuleIds.Nodup)
    (hspans : SpansAtMost rule.windowSeconds (groupOf rule findings key)) :
    Passes rule (groupOf rule findings key) := by
  obtain ⟨core, hsub, hcore, -, hqualifies⟩ := h
  have hgroup : core.Subperm (groupOf rule findings key) := by
    have hfilter := hsub.filter fun item =>
      decide (item.ruleId ∈ rule.requiredRuleIds ∧ groupKey rule item = key)
    rwa [List.filter_eq_self.mpr fun item hitem => decide_eq_true (hcore item hitem)] at hfilter
  refine (passes_iff hne hnodup).mpr ⟨fun id hid => ?_, ?_, hspans⟩
  · obtain ⟨item, hitem, hitemId⟩ := hqualifies.ids id hid
    exact ⟨item, hgroup.subset hitem, hitemId⟩
  · have hlength := hgroup.length_le
    have henough := hqualifies.enough
    omega

/-- A rule finds what correlates exactly if no test of times raises, its ids are distinct and the whole
group lies within the window. -/
theorem correlated_story_iff (rt : Runtime) (hrules : (rules.map (·.ruleId)).Nodup)
    (hrule : rule ∈ rules) (findings : List Finding) (key : String) (t : Ticks) :
    (Correlated rule findings key →
        ∃ stories t', applyCorrelationRules rt findings rules t = (.ok stories, t') ∧
          ∃ s ∈ stories, IsOf rule key s) ↔
      (Correlated rule findings key →
        (∀ other ∈ rules, ∀ key', Harmless other (groupOf other findings key')) ∧
          rule.requiredRuleIds ≠ [] ∧ rule.requiredRuleIds.Nodup ∧
          SpansAtMost rule.windowSeconds (groupOf rule findings key)) := by
  refine imp_congr_right fun hcorrelated => ?_
  constructor
  · rintro ⟨stories, t', hrun, hstory⟩
    have hpasses := (exists_story_iff hrules hrule hrun).mp hstory
    have hharmless := (applyCorrelationRules_returnsIff rt findings rules t).mp ⟨stories, t', hrun⟩
    refine ⟨hharmless, ?_, nodup_of_covers ids_groupOf hpasses.tested.covered, hpasses.spans⟩
    obtain ⟨item, hitem⟩ := List.exists_mem_of_ne_nil _ hpasses.tested.nonempty
    exact List.ne_nil_of_mem (ids_groupOf item hitem)
  · rintro ⟨hharmless, hne, hnodup, hspans⟩
    obtain ⟨stories, t', hrun⟩ := (applyCorrelationRules_returnsIff rt findings rules t).mpr hharmless
    refine ⟨stories, t', hrun, (exists_story_iff hrules hrule hrun).mpr ?_⟩
    exact hcorrelated.passes hne hnodup hspans

end

def aliceFinding (id ruleId : String) (seconds : Int) : Finding where
  id := id
  tenantId := "acme"
  ruleId := ruleId
  ruleVersion := "1.0.0"
  title := "sample"
  description := ""
  severity := .high
  confidence := 80
  fingerprint := id
  eventIds := [id ++ "-event"]
  evidence := [{ evidenceId := id ++ "-evidence" }]
  explanation := ""
  createdAt := ⟨63839761325000000 + seconds * 1000000, some 0⟩
  attributes := [("user", "alice")]

/-- A spray and a grant a minute apart. -/
def pairFindings : List Finding :=
  [aliceFinding "f1" "identity.password_spray" 0, aliceFinding "f2" "identity.privilege_grant" 60]

/-- Another spray, three hours later. -/
def threeFindings : List Finding :=
  pairFindings ++ [aliceFinding "f3" "identity.password_spray" 10800]

def sprayThenGrant : CorrelationRule :=
  defaultCorrelationRules.head (List.cons_ne_nil _ _)

theorem distinct_defaultCorrelationRules : (defaultCorrelationRules.map (·.ruleId)).Nodup := by
  decide

theorem inRange_defaultCorrelationRules :
    ∀ rule ∈ defaultCorrelationRules, InRange rule.windowSeconds := by
  unfold InRange
  decide

theorem alike_threeFindings : Alike threeFindings := by
  unfold Alike DateTime.Comparable
  decide

theorem alike_pairFindings : Alike pairFindings :=
  fun a ha b hb => alike_threeFindings a (List.mem_append_left _ ha) b (List.mem_append_left _ hb)

theorem correlated_pairFindings : Correlated sprayThenGrant pairFindings "alice" := by
  refine ⟨pairFindings, .refl _, by decide +kernel, alike_pairFindings, ?_, by decide +kernel, ?_⟩
  · decide +kernel
  · unfold SpansAtMost
    decide +kernel

theorem applyCorrelationRules_sound_sample :
    ∃ stories t', applyCorrelationRules sampleRuntime pairFindings defaultCorrelationRules {} =
        (.ok stories, t') ∧
      ∃ pairs, Keyed (fun p : CorrelationRule × String =>
          p.1 ∈ defaultCorrelationRules ∧ Qualifies p.1 (groupOf p.1 pairFindings p.2))
        (fun p s => StoryFor p.1 (groupOf p.1 pairFindings p.2) p.2 s) pairs stories := by
  have hrequired : ∀ rule ∈ defaultCorrelationRules,
      rule.requiredRuleIds ≠ [] ∧ rule.requiredRuleIds.Nodup := by decide
  have htenant : ∀ a ∈ pairFindings, ∀ b ∈ pairFindings, a.tenantId = b.tenantId := by decide
  obtain ⟨hreturns, hsound⟩ := applyCorrelationRules_sound sampleRuntime
    distinct_defaultCorrelationRules hrequired htenant
  obtain ⟨stories, t', hrun⟩ := hreturns alike_pairFindings inRange_defaultCorrelationRules {}
  exact ⟨stories, t', hrun, (hsound {} t' stories hrun).1⟩

theorem correlated_story_sample :
    ∃ stories t', applyCorrelationRules sampleRuntime pairFindings defaultCorrelationRules {} =
        (.ok stories, t') ∧ ∃ s ∈ stories, IsOf sprayThenGrant "alice" s := by
  have hrule : sprayThenGrant ∈ defaultCorrelationRules := List.head_mem _
  refine (correlated_story_iff sampleRuntime distinct_defaultCorrelationRules hrule pairFindings
    "alice" {}).mpr ?_ correlated_pairFindings
  intro _
  refine ⟨fun other hother key' _ => ⟨fun a ha b hb => ?_, ?_⟩, by decide, by decide, ?_⟩
  · exact alike_pairFindings a (mem_groupOf.mp ha).1 b (mem_groupOf.mp hb).1
  · exact inRange_defaultCorrelationRules other hother
  · unfold SpansAtMost
    decide +kernel

/-- The pair still satisfies the rule, but the later spray makes its group too long. -/
theorem correlated_pair_lost :
    Correlated sprayThenGrant threeFindings "alice" ∧
      (∃ s t', applyCorrelationRules sampleRuntime pairFindings defaultCorrelationRules {} =
        (.ok [s], t')) ∧
      applyCorrelationRules sampleRuntime threeFindings defaultCorrelationRules {} = (.ok [], {}) := by
  refine ⟨?_, ⟨_, _, rfl⟩, by decide +kernel⟩
  exact correlated_pairFindings.mono (List.sublist_append_left _ _).subperm

end BlueTeam.Correlation
