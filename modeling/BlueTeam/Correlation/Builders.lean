/- GID: BlueTeam/Correlation/Builders
   generality: I
   source: packages/correlation/blueteam_correlation/engine.py
   digest: What the hard-coded storylines are built from, and what they join. -/

import BlueTeam.Correlation.Soundness

set_option autoImplicit false
set_option relaxedAutoImplicit false

namespace BlueTeam.Correlation

open BlueTeam.Python BlueTeam.Schema BlueTeam.Lib BlueTeam.Lib.Exec

/-! ### Storylines of the builders -/

/-- The time lies between the two. -/
def Between (start time finish : DateTime) : Prop :=
  (start.Comparable time ∧ start.instant ≤ time.instant) ∧
    (time.Comparable finish ∧ time.instant ≤ finish.instant)

/-- The storyline has these parts, and its stages lie between its ends. -/
structure Tells (title : String) (stages : List StorylineStage) (eventIds evidenceIds : List String)
    (s : Storyline) : Prop where
  title : s.title = title
  stages : s.stages = stages
  eventIds : s.eventIds = eventIds
  evidenceIds : s.evidenceIds = evidenceIds
  times : ∀ stage ∈ s.stages, ∀ time ∈ stage.timestamp, Between s.start time s.finish

theorem story_tells {rt : Runtime} {tenantId title : String} {first : DateTime}
    {stages : List StorylineStage} {techniques evidenceIds eventIds : List String}
    {entities : List (String × List String)} {confidence : Rat} {t t' : Ticks} {s : Storyline}
    (h : story rt tenantId title first stages techniques evidenceIds eventIds entities confidence t =
      (.ok s, t')) : Tells title stages eventIds evidenceIds s := by
  obtain ⟨start, _, hstart, h⟩ := ok_of_bind h
  obtain ⟨finish, _, hfinish, h⟩ := ok_of_bind h
  obtain ⟨id, _, -, h⟩ := ok_of_bind h
  obtain rfl := Except.ok.inj (Prod.mk.inj h).1
  refine ⟨rfl, rfl, rfl, rfl, fun stage hstage time htime => ?_⟩
  have hmem : time ∈ stages.filterMap (·.timestamp) := List.mem_filterMap.mpr ⟨stage, hstage, htime⟩
  have hcomparable := earliest_ok_iff.mp ⟨start, lift_ok hstart⟩
  obtain ⟨hstartMem, -, hstartLe⟩ := earliest_spec (lift_ok hstart)
  obtain ⟨hfinishMem, -, hfinishLe⟩ := latest_spec (lift_ok hfinish)
  have hfirst : ∀ d, d = first ∨ d ∈ stages.filterMap (·.timestamp) → d.Comparable first := by
    rintro d (rfl | hd)
    · rfl
    · exact hcomparable d hd
  have htime := hcomparable time hmem
  exact ⟨⟨(hfirst start hstartMem).trans htime.symm, hstartLe time hmem⟩,
    ⟨htime.trans (hfirst finish hfinishMem).symm, hfinishLe time hmem⟩⟩

/-! ### Sprays -/

/-- The grant is of the spray's user, or was found within two hours of the spray. -/
def Belongs (spray grant : Finding) : Prop :=
  overlapUser spray grant = true ∨ (spray.createdAt.Comparable grant.createdAt ∧
    ((spray.createdAt.instant - grant.createdAt.instant).natAbs : Int) ≤ 7200 * DateTime.second)

instance (spray grant : Finding) : Decidable (Belongs spray grant) :=
  inferInstanceAs (Decidable (_ ∨ _))

theorem near_ok_iff {left right : Finding} {close : Bool} : near left right = .ok close ↔
    left.createdAt.Comparable right.createdAt ∧ close = decide
      (((left.createdAt.instant - right.createdAt.instant).natAbs : Int) ≤
        7200 * DateTime.second) := by
  unfold near
  constructor
  · intro h
    obtain ⟨us, hus, rfl⟩ := except_of_map h
    have hcomparable := DateTime.comparable_of_minus hus
    rw [hcomparable.minus_eq] at hus
    obtain rfl := Except.ok.inj hus
    exact ⟨hcomparable, rfl⟩
  · rintro ⟨hcomparable, rfl⟩
    rw [hcomparable.minus_eq]
    rfl

theorem grantFor_eq {spray : Finding} {grants : List Finding} {grant : Option Finding}
    (h : grantFor spray grants = .ok grant) :
    grant = grants.find? fun item => Belongs spray item := by
  induction grants with
  | nil => exact (Except.ok.inj h).symm
  | cons item items ih =>
      rw [List.find?_cons]
      unfold grantFor at h
      split at h
      · rename_i hshared
        rw [decide_eq_true (show Belongs spray item from .inl hshared)]
        exact (Except.ok.inj h).symm
      · rename_i hnot
        obtain ⟨close, hclose, h⟩ := except_of_bind h
        obtain ⟨hcomparable, rfl⟩ := near_ok_iff.mp hclose
        split at h
        · rename_i hnear
          rw [decide_eq_true (show Belongs spray item from .inr ⟨hcomparable, of_decide_eq_true hnear⟩)]
          exact (Except.ok.inj h).symm
        · rename_i hfar
          have hother : ¬ Belongs spray item := by
            rintro (hshared | ⟨-, hnear⟩)
            · exact hnot hshared
            · exact hfar (decide_eq_true hnear)
          rw [decide_eq_false hother]
          exact ih h

/-- A successful login from the sprayed address, from two hours before the finding on. -/
def SucceedsAfter (spray : Finding) (event : CanonicalEvent) : Prop :=
  (event.category = "authentication" ∧ event.outcome = some .success ∧
    event.srcIp = attributeOf spray "src_ip") ∧
    spray.createdAt.instant - 7200 * DateTime.second ≤ event.timestamp.instant

instance (spray : Finding) (event : CanonicalEvent) : Decidable (SucceedsAfter spray event) :=
  inferInstanceAs (Decidable (_ ∧ _))

theorem laterSuccess_eq {spray : Finding} {events later : List CanonicalEvent}
    (h : laterSuccess spray events = .ok later) :
    later = events.filter fun event => SucceedsAfter spray event := by
  induction events generalizing later with
  | nil => exact (Except.ok.inj h).symm
  | cons event events ih =>
      rw [List.filter_cons]
      unfold laterSuccess at h
      split at h
      · rename_i hlogin
        obtain ⟨since, hsince, h⟩ := except_of_bind h
        obtain ⟨early, hearly, h⟩ := except_of_bind h
        obtain ⟨rest, hrest, h⟩ := except_of_bind h
        obtain ⟨-, rfl⟩ := DateTime.lt_ok_iff.mp hearly
        have hbegin : since.instant = spray.createdAt.instant - 7200 * DateTime.second :=
          (DateTime.before_spec hsince).1
        rw [hbegin, ih hrest] at h
        by_cases hsucceeds : SucceedsAfter spray event
        · rw [if_pos (decide_eq_true hsucceeds)]
          rw [decide_eq_false (not_lt.mpr hsucceeds.2)] at h
          exact (Except.ok.inj h).symm
        · rw [if_neg (by simpa using hsucceeds)]
          rw [decide_eq_true (not_le.mp fun hle => hsucceeds ⟨hlogin, hle⟩)] at h
          exact (Except.ok.inj h).symm
      · rename_i hnot
        rw [if_neg (by simpa using fun hsucceeds : SucceedsAfter spray event => hnot hsucceeds.1)]
        exact ih h

/-- The findings of one rule. -/
def findingsOf (ruleId : String) (findings : List Finding) : List Finding :=
  findings.filter fun item => item.ruleId = ruleId

def grantOf (findings : List Finding) (spray : Finding) : Option Finding :=
  (findingsOf "identity.privilege_grant" findings).find? fun item => Belongs spray item

def successesOf (events : List CanonicalEvent) (spray : Finding) : List CanonicalEvent :=
  (byId events).filter fun event => SucceedsAfter spray event

/-- The spray is part of a storyline. -/
def Continues (events : List CanonicalEvent) (findings : List Finding) (spray : Finding) : Prop :=
  ¬ ((grantOf findings spray).isNone ∧ (successesOf events spray).isEmpty ∧
    (findingsOf "identity.brute_force" findings).isEmpty)

instance (events : List CanonicalEvent) (findings : List Finding) (spray : Finding) :
    Decidable (Continues events findings spray) :=
  inferInstanceAs (Decidable (¬ _))

def sprayStages (events : List CanonicalEvent) (findings : List Finding) (spray : Finding) :
    List StorylineStage :=
  [stageOf "password_spray" spray] ++
    ((successesOf events spray).head?.map fun event =>
      { name := "authentication_success", eventIds := (successesOf events spray).map (·.id)
        timestamp := some event.timestamp : StorylineStage }).toList ++
    ((grantOf findings spray).map (stageOf "privilege_grant")).toList

def sprayEvents (findings : List Finding) (spray : Finding) : List String :=
  spray.eventIds ++ ((grantOf findings spray).map (·.eventIds)).getD []

def sprayEvidence (findings : List Finding) (spray : Finding) : List String :=
  evidenceIdsOf spray ++ ((grantOf findings spray).map evidenceIdsOf).getD []

section

variable {rt : Runtime} {events : List CanonicalEvent} {findings : List Finding} {t t' : Ticks}
  {stories out : List Storyline}

theorem sprayStory_contributes {spray : Finding}
    (hrun : sprayStory rt (findingsOf "identity.brute_force" findings)
      (findingsOf "identity.privilege_grant" findings) (byId events) spray t = (.ok out, t')) :
    Contributes (Continues events findings)
      (fun spray s => Tells "Password spray to privilege" (sprayStages events findings spray)
        (sprayEvents findings spray) (sprayEvidence findings spray) s) spray out := by
  obtain ⟨grant, _, hgrant, hrun⟩ := ok_of_bind hrun
  obtain ⟨later, _, hlater, hrun⟩ := ok_of_bind hrun
  obtain rfl : grant = grantOf findings spray := grantFor_eq (lift_ok hgrant)
  obtain rfl : later = successesOf events spray := laterSuccess_eq (lift_ok hlater)
  split at hrun
  · rename_i hnothing
    obtain rfl := Except.ok.inj (Prod.mk.inj hrun).1
    exact ⟨fun hcontinues => absurd hnothing hcontinues, fun _ => rfl⟩
  · rename_i hsome
    have hcontinues : Continues events findings spray := hsome
    obtain ⟨s, _, hstory, hrun⟩ := ok_of_bind hrun
    obtain rfl := Except.ok.inj (Prod.mk.inj hrun).1
    refine ⟨fun _ => ⟨s, rfl, ?_⟩, fun hnot => absurd hcontinues hnot⟩
    exact story_tells hstory

/-- One storyline for each spray that continues. -/
theorem identityChain_tells (hrun : identityChain rt findings (byId events) t = (.ok stories, t')) :
    List.Forall₂ (fun spray s => Tells "Password spray to privilege"
      (sprayStages events findings spray) (sprayEvents findings spray)
      (sprayEvidence findings spray) s)
      ((findingsOf "identity.password_spray" findings).filter fun spray =>
        Continues events findings spray) stories := by
  have hloop : collect (sprayStory rt (findingsOf "identity.brute_force" findings)
      (findingsOf "identity.privilege_grant" findings) (byId events))
      (findingsOf "identity.password_spray" findings) t = (.ok stories, t') := hrun
  obtain ⟨parts, hparts, rfl⟩ := collect_parts
    (fun spray _ _ _ _ hpart => @sprayStory_contributes rt events findings _ _ _ spray hpart) hloop
  exact forall₂_filter hparts

/-! ### Office programs and beacons -/

def officesOf (findings : List Finding) : List Finding :=
  findings.filter fun item => item.ruleId ∈ officeRules

def officeStages (spawn beacon : Finding) : List StorylineStage :=
  [stageOf "office_process" spawn, stageOf "powershell" spawn, stageOf "external_beacon" beacon]

/-- The storyline joins the office finding and the beacon. -/
def Joins (spawn beacon : Finding) (s : Storyline) : Prop :=
  Tells "Office to PowerShell to beacon" (officeStages spawn beacon)
    (spawn.eventIds ++ beacon.eventIds) (evidenceIdsOf spawn ++ evidenceIdsOf beacon) s

/-- The office findings with their beacons. -/
def officePairs (findings : List Finding) : List (Finding × Finding) :=
  (officesOf findings).filterMap fun spawn =>
    (beaconFor spawn (beaconsOf findings)).map fun beacon => (spawn, beacon)

/-- One storyline for each pair. -/
theorem officeC2_joins (hrun : officeC2 rt findings t = (.ok stories, t')) :
    List.Forall₂ (fun pair s => Joins pair.1 pair.2 s) (officePairs findings) stories := by
  have hpart : ∀ spawn ∈ officesOf findings, ∀ t t' part,
      officeStory rt (beaconsOf findings) spawn t = (.ok part, t') →
        List.Forall₂ (fun pair s => Joins pair.1 pair.2 s)
          ((beaconFor spawn (beaconsOf findings)).map fun beacon => (spawn, beacon)).toList part := by
    intro spawn _ t t' part hpart
    unfold officeStory at hpart
    cases hbeacon : beaconFor spawn (beaconsOf findings) with
    | none =>
        rw [hbeacon] at hpart
        obtain rfl := Except.ok.inj (Prod.mk.inj hpart).1
        exact .nil
    | some beacon =>
        rw [hbeacon] at hpart
        obtain ⟨s, _, hstory, hpart⟩ := ok_of_bind hpart
        obtain rfl := Except.ok.inj (Prod.mk.inj hpart).1
        exact .cons (story_tells hstory) .nil
  obtain ⟨parts, hparts, rfl⟩ := collect_parts hpart hrun
  unfold officePairs
  rw [List.filterMap_eq_flatMap_toList, List.flatMap_def]
  exact List.rel_flatten (List.forall₂_map_left_iff.mpr hparts)

theorem lateralC2_tells (hrun : lateralC2 rt findings t = (.ok stories, t')) :
    stories = [] ∨ ∃ spawn ∈ findings, ∃ beacon ∈ findings, ∃ s, stories = [s] ∧
      Tells "Endpoint to lateral movement to C2"
        [{ stageOf "compromised_endpoint" spawn with ruleIds := [] },
          stageOf "smb_rdp_movement" spawn,
          { stageOf "second_endpoint" spawn with ruleIds := [] }, stageOf "c2" beacon]
        (spawn.eventIds ++ beacon.eventIds) (evidenceIdsOf spawn ++ evidenceIdsOf beacon) s := by
  unfold lateralC2 at hrun
  cases hspawn : findings.find? fun item => item.ruleId = "network.unusual_east_west" with
  | none =>
      rw [hspawn] at hrun
      obtain rfl := Except.ok.inj (Prod.mk.inj hrun).1
      exact .inl rfl
  | some spawn =>
      cases hbeacon : (beaconsOf findings).head? with
      | none =>
          rw [hspawn, hbeacon] at hrun
          obtain rfl := Except.ok.inj (Prod.mk.inj hrun).1
          exact .inl rfl
      | some beacon =>
          rw [hspawn, hbeacon] at hrun
          obtain ⟨s, _, hstory, hrun⟩ := ok_of_bind hrun
          obtain rfl := Except.ok.inj (Prod.mk.inj hrun).1
          have hmem : beacon ∈ beaconsOf findings := List.mem_of_mem_head? hbeacon
          refine .inr ⟨spawn, List.mem_of_find?_eq_some hspawn, beacon, List.mem_of_mem_filter hmem, s,
            rfl, ?_⟩
          exact story_tells hstory

end

/-! ### No claim without evidence -/

/-- What a storyline states is taken from the events and findings given, and between its ends. -/
structure Sourced (events : List CanonicalEvent) (findings : List Finding) (s : Storyline) :
    Prop where
  eventIds : ∀ id ∈ s.eventIds, (∃ item ∈ findings, id ∈ item.eventIds) ∨ ∃ event ∈ events,
    event.id = id
  evidenceIds : ∀ id ∈ s.evidenceIds, ∃ item ∈ findings, id ∈ evidenceIdsOf item
  times : ∀ stage ∈ s.stages, ∀ time ∈ stage.timestamp, Between s.start time s.finish

/-- The events of the stages are events of the storyline. -/
def Contained (s : Storyline) : Prop :=
  ∀ stage ∈ s.stages, stage.eventIds ⊆ s.eventIds

def keyOf (s : Storyline) : String × List String :=
  (s.title, s.eventIds)

structure Provenance (events : List CanonicalEvent) (findings : List Finding)
    (stories : List Storyline) : Prop where
  contained : ∀ s ∈ stories, Contained s
  sourced : ∀ s ∈ stories, Sourced events findings s
  distinct : (stories.map keyOf).Nodup

/-- The sprays that continue, and the office findings that a beacon follows, differ in their events,
and the successes after a spray are events of the spray or of its grant. -/
structure Grounded (events : List CanonicalEvent) (findings : List Finding) : Prop where
  successes : ∀ spray ∈ findingsOf "identity.password_spray" findings,
    ∀ event ∈ successesOf events spray, event.id ∈ sprayEvents findings spray
  sprays : (((findingsOf "identity.password_spray" findings).filter fun spray =>
    Continues events findings spray).map (sprayEvents findings)).Nodup
  offices : ((officePairs findings).map fun pair => pair.1.eventIds ++ pair.2.eventIds).Nodup

section

variable {rt : Runtime} {events : List CanonicalEvent} {findings : List Finding} {t t' : Ticks}
  {stories extras : List Storyline} {s : Storyline}

theorem appendNew_keys (hnodup : (stories.map keyOf).Nodup) :
    ((appendNew stories extras).map keyOf).Nodup := by
  induction extras generalizing stories with
  | nil => exact hnodup
  | cons extra extras ih =>
      unfold appendNew
      rw [List.foldl_cons]
      refine ih ?_
      split
      · exact hnodup
      · rename_i hnew
        rw [List.map_append]
        refine List.nodup_append'.mpr ⟨hnodup, List.nodup_singleton _, ?_⟩
        intro key hkey hextra
        obtain rfl := List.mem_singleton.mp hextra
        exact hnew hkey

theorem mem_appendNew (h : s ∈ appendNew stories extras) : s ∈ stories ∨ s ∈ extras := by
  induction extras generalizing stories with
  | nil => exact .inl h
  | cons extra extras ih =>
      unfold appendNew at h
      rw [List.foldl_cons] at h
      rcases ih h with hold | hrest
      · split at hold
        · exact .inl hold
        · rcases List.mem_append.mp hold with hold | hextra
          · exact .inl hold
          · exact .inr (List.mem_cons.mpr (.inl (List.mem_singleton.mp hextra)))
      · exact .inr (List.mem_cons_of_mem _ hrest)

theorem sublist_appendNew : stories.Sublist (appendNew stories extras) := by
  induction extras generalizing stories with
  | nil => exact List.Sublist.refl _
  | cons extra extras ih =>
      unfold appendNew
      rw [List.foldl_cons]
      split
      · exact ih
      · exact (List.sublist_append_left _ _).trans ih

/-- The parts of a correlation; without findings all of them are empty. -/
theorem correlate_parts (hrun : correlate rt events findings t = (.ok stories, t')) :
    ∃ identity office lateral extras t₁ t₂ t₃ t₄,
      identityChain rt findings (byId events) t = (.ok identity, t₁) ∧
      officeC2 rt findings t₁ = (.ok office, t₂) ∧ lateralC2 rt findings t₂ = (.ok lateral, t₃) ∧
      applyCorrelationRules rt findings defaultCorrelationRules t₃ = (.ok extras, t₄) ∧
      stories = appendNew (identity ++ office ++ lateral) extras := by
  unfold correlate at hrun
  split at hrun
  · rename_i hempty
    obtain rfl := List.isEmpty_iff.mp hempty
    obtain rfl := Except.ok.inj (Prod.mk.inj hrun).1
    exact ⟨[], [], [], [], t, t, t, t, rfl, rfl, rfl, rfl, rfl⟩
  · obtain ⟨identity, t₁, hidentity, hrun⟩ := ok_of_bind hrun
    obtain ⟨office, t₂, hoffice, hrun⟩ := ok_of_bind hrun
    obtain ⟨lateral, t₃, hlateral, hrun⟩ := ok_of_bind hrun
    obtain ⟨extras, t₄, hextras, hrun⟩ := ok_of_bind hrun
    obtain rfl := Except.ok.inj (Prod.mk.inj hrun).1
    exact ⟨identity, office, lateral, extras, t₁, t₂, t₃, t₄, hidentity, hoffice, hlateral, hextras,
      rfl⟩

theorem mem_findingsOf {ruleId : String} {item : Finding} (h : item ∈ findingsOf ruleId findings) :
    item ∈ findings :=
  List.mem_of_mem_filter h

theorem mem_of_grantOf {spray grant : Finding} (h : grantOf findings spray = some grant) :
    grant ∈ findings :=
  mem_findingsOf (List.mem_of_find?_eq_some h)

/-- What is joined from findings is sourced. -/
theorem Tells.sourced {title : String} {stages : List StorylineStage} {group : List Finding}
    (h : Tells title stages (group.flatMap (·.eventIds)) (group.flatMap evidenceIdsOf) s)
    (hgroup : ∀ item ∈ group, item ∈ findings) : Sourced events findings s where
  eventIds id hid := by
    rw [h.eventIds] at hid
    obtain ⟨item, hitem, hid⟩ := List.mem_flatMap.mp hid
    exact .inl ⟨item, hgroup item hitem, hid⟩
  evidenceIds id hid := by
    rw [h.evidenceIds] at hid
    obtain ⟨item, hitem, hid⟩ := List.mem_flatMap.mp hid
    exact ⟨item, hgroup item hitem, hid⟩
  times := h.times

/-- A storyline of a correlation rule tells its group. -/
theorem StoryFor.tells {rule : CorrelationRule} {group : List Finding} {key : String}
    (h : StoryFor rule group key s) (halike : Alike group) :
    Tells rule.title s.stages (group.flatMap (·.eventIds)) (group.flatMap evidenceIdsOf) s ∧
      Contained s := by
  obtain ⟨sorted, hperm, -, hstages⟩ := h.stages
  refine ⟨⟨h.title, rfl, h.eventIds, h.evidenceIds, fun stage hstage time htime => ?_⟩, ?_⟩
  · rw [hstages] at hstage
    obtain ⟨item, hitem, rfl⟩ := List.mem_map.mp hstage
    obtain rfl : item.createdAt = time := Option.some.inj htime
    have hitem := hperm.mem_iff.mp hitem
    obtain ⟨⟨first, hfirst, hstart⟩, hle⟩ := h.start
    obtain ⟨⟨last, hlast, hfinish⟩, hge⟩ := h.finish
    refine ⟨⟨?_, hle item hitem⟩, ⟨?_, hge item hitem⟩⟩
    · rw [hstart]
      exact halike first hfirst item hitem
    · rw [hfinish]
      exact halike item hitem last hlast
  · intro stage hstage
    rw [hstages] at hstage
    obtain ⟨item, hitem, rfl⟩ := List.mem_map.mp hstage
    rw [h.eventIds]
    intro id hid
    exact List.mem_flatMap.mpr ⟨item, hperm.mem_iff.mp hitem, hid⟩

/-- The storylines of the correlation rules. -/
theorem extras_sound
    (hrun : applyCorrelationRules rt findings defaultCorrelationRules t = (.ok extras, t'))
    (hs : s ∈ extras) : Sourced events findings s ∧ Contained s := by
  have hharmless := (applyCorrelationRules_returnsIff rt findings defaultCorrelationRules t).mp
    ⟨extras, t', hrun⟩
  obtain ⟨pairs, hpairs⟩ := applyCorrelationRules_keyed distinct_defaultCorrelationRules hrun
  obtain ⟨⟨rule, key⟩, hpair, hstory⟩ := exists_of_forall₂ hpairs.results hs
  obtain ⟨hrule, hpasses⟩ := (hpairs.mem_iff _).mp hpair
  have halike := (hharmless rule hrule key hpasses.tested).1
  obtain ⟨htells, hcontained⟩ := hstory.tells halike
  exact ⟨htells.sourced fun item hitem => (mem_groupOf.mp hitem).1, hcontained⟩

/-- The findings that the storyline of a spray joins. -/
def sprayGroup (findings : List Finding) (spray : Finding) : List Finding :=
  spray :: (grantOf findings spray).toList

theorem sprayEvents_eq (findings : List Finding) (spray : Finding) :
    sprayEvents findings spray = (sprayGroup findings spray).flatMap (·.eventIds) ∧
      sprayEvidence findings spray = (sprayGroup findings spray).flatMap evidenceIdsOf := by
  unfold sprayEvents sprayEvidence sprayGroup
  cases grantOf findings spray <;> simp

theorem sprayGroup_subset {spray : Finding}
    (h : spray ∈ findingsOf "identity.password_spray" findings) :
    ∀ item ∈ sprayGroup findings spray, item ∈ findings := by
  intro item hitem
  rcases List.mem_cons.mp hitem with rfl | hgrant
  · exact mem_findingsOf h
  · exact mem_of_grantOf (Option.mem_toList.mp hgrant)

/-- The storyline of a spray contains its stages exactly if it has the successes' events. -/
theorem Tells.spray_contained_iff {title : String} {spray : Finding} {evidenceIds : List String}
    (h : Tells title (sprayStages events findings spray) (sprayEvents findings spray) evidenceIds s) :
    Contained s ↔ ∀ event ∈ successesOf events spray, event.id ∈ sprayEvents findings spray := by
  unfold Contained
  rw [h.stages, h.eventIds]
  have hspray : spray.eventIds ⊆ sprayEvents findings spray := List.subset_append_left _ _
  have hgrant : ∀ grant ∈ grantOf findings spray, grant.eventIds ⊆ sprayEvents findings spray := by
    intro grant hgrant
    unfold sprayEvents
    rw [Option.mem_def.mp hgrant]
    exact List.subset_append_right _ _
  constructor
  · intro h event hevent
    obtain ⟨first, rest, hsplit⟩ := List.exists_cons_of_ne_nil (List.ne_nil_of_mem hevent)
    refine h { name := "authentication_success"
               eventIds := (successesOf events spray).map (·.id)
               timestamp := some first.timestamp } ?_ (List.mem_map_of_mem hevent)
    unfold sprayStages
    rw [hsplit]
    simp
  · intro h stage hstage
    unfold sprayStages at hstage
    rcases List.mem_append.mp hstage with hstage | hstage
    · rcases List.mem_append.mp hstage with hstage | hstage
      · obtain rfl := List.mem_singleton.mp hstage
        exact hspray
      · obtain ⟨first, -, rfl⟩ := Option.map_eq_some_iff.mp (Option.mem_toList.mp hstage)
        intro id hid
        obtain ⟨event, hevent, rfl⟩ := List.mem_map.mp hid
        exact h event hevent
    · obtain ⟨grant, hin, rfl⟩ := Option.map_eq_some_iff.mp (Option.mem_toList.mp hstage)
      exact hgrant grant hin

/-- Stages that stand for two findings are contained in their storyline. -/
theorem Tells.pair_contained {title : String} {stages : List StorylineStage} {left right : Finding}
    {evidenceIds : List String}
    (h : Tells title stages (left.eventIds ++ right.eventIds) evidenceIds s)
    (hstages : ∀ stage ∈ stages, stage.eventIds = left.eventIds ∨ stage.eventIds = right.eventIds) :
    Contained s := by
  intro stage hstage
  rw [h.stages] at hstage
  rw [h.eventIds]
  rcases hstages stage hstage with hleft | hright
  · rw [hleft]
    exact List.subset_append_left _ _
  · rw [hright]
    exact List.subset_append_right _ _

theorem Tells.pair_sourced {title : String} {stages : List StorylineStage} {left right : Finding}
    (h : Tells title stages (left.eventIds ++ right.eventIds)
      (evidenceIdsOf left ++ evidenceIdsOf right) s)
    (hleft : left ∈ findings) (hright : right ∈ findings) : Sourced events findings s := by
  have hgroup : Tells title stages ([left, right].flatMap (·.eventIds))
      ([left, right].flatMap evidenceIdsOf) s := by
    simpa using h
  refine hgroup.sourced fun item hitem => ?_
  simp only [List.mem_cons, List.not_mem_nil, or_false] at hitem
  rcases hitem with rfl | rfl
  · exact hleft
  · exact hright

theorem mem_officePairs {pair : Finding × Finding} (h : pair ∈ officePairs findings) :
    pair.1 ∈ officesOf findings ∧ beaconFor pair.1 (beaconsOf findings) = some pair.2 := by
  obtain ⟨spawn, hspawn, hpair⟩ := List.mem_filterMap.mp h
  obtain ⟨beacon, hbeacon, rfl⟩ := Option.map_eq_some_iff.mp hpair
  exact ⟨hspawn, hbeacon⟩

/-- A storyline of an office finding is sourced and contains its stages. -/
theorem Joins.sound {pair : Finding × Finding} (hpair : pair ∈ officePairs findings)
    (h : Joins pair.1 pair.2 s) : Sourced events findings s ∧ Contained s := by
  obtain ⟨hspawn, hbeacon⟩ := mem_officePairs hpair
  have hbeacon : pair.2 ∈ beaconsOf findings := List.mem_of_find?_eq_some hbeacon
  refine ⟨Tells.pair_sourced h (List.mem_of_mem_filter hspawn) (List.mem_of_mem_filter hbeacon),
    Tells.pair_contained h ?_⟩
  simp [officeStages, stageOf]

theorem nodup_keys_iff (title : String) (keys : List (List String)) :
    (keys.map fun eventIds => (title, eventIds)).Nodup ↔ keys.Nodup :=
  List.nodup_map_iff fun _ _ h => (Prod.mk.inj h).2

/-- Storylines of different builders have different titles. -/
theorem distinct_iff {identity office lateral : List Storyline} {t₁ t₂ t₃ : Ticks}
    (hidentity : identityChain rt findings (byId events) t = (.ok identity, t₁))
    (hoffice : officeC2 rt findings t₁ = (.ok office, t₂))
    (hlateral : lateralC2 rt findings t₂ = (.ok lateral, t₃)) :
    ((identity ++ office ++ lateral).map keyOf).Nodup ↔
      (((findingsOf "identity.password_spray" findings).filter fun spray =>
        Continues events findings spray).map (sprayEvents findings)).Nodup ∧
      ((officePairs findings).map fun pair => pair.1.eventIds ++ pair.2.eventIds).Nodup := by
  have hsprays : identity.map keyOf =
      (((findingsOf "identity.password_spray" findings).filter fun spray =>
        Continues events findings spray).map (sprayEvents findings)).map
          fun eventIds => ("Password spray to privilege", eventIds) := by
    rw [List.map_map]
    exact map_eq_of_forall₂ (identityChain_tells hidentity)
      fun spray s h => Prod.ext h.title h.eventIds
  have hoffices : office.map keyOf =
      ((officePairs findings).map fun pair => pair.1.eventIds ++ pair.2.eventIds).map
        fun eventIds => ("Office to PowerShell to beacon", eventIds) := by
    rw [List.map_map]
    exact map_eq_of_forall₂ (officeC2_joins hoffice) fun pair s h => Prod.ext h.title h.eventIds
  have hlateralOnce : (lateral.map keyOf).Nodup ∧
      ∀ key ∈ lateral.map keyOf, key.1 = "Endpoint to lateral movement to C2" := by
    rcases lateralC2_tells hlateral with rfl | ⟨spawn, -, beacon, -, s, rfl, htells⟩
    · simp
    · refine ⟨List.nodup_singleton _, fun key hkey => ?_⟩
      obtain rfl := List.mem_singleton.mp hkey
      exact htells.title
  rw [List.map_append, List.map_append, hsprays, hoffices]
  constructor
  · intro h
    have hchains := (List.nodup_append'.mp (List.nodup_append'.mp h).1)
    exact ⟨(nodup_keys_iff _ _).mp hchains.1, (nodup_keys_iff _ _).mp hchains.2.1⟩
  · rintro ⟨hspray, hoffice⟩
    refine List.nodup_append'.mpr ⟨List.nodup_append'.mpr ⟨(nodup_keys_iff _ _).mpr hspray,
      (nodup_keys_iff _ _).mpr hoffice, ?_⟩, hlateralOnce.1, ?_⟩
    · intro key hkey hkey'
      obtain ⟨_, -, rfl⟩ := List.mem_map.mp hkey
      obtain ⟨_, -, hsame⟩ := List.mem_map.mp hkey'
      exact absurd (Prod.mk.inj hsame).1 (by decide)
    · intro key hkey hkey'
      have htitle := hlateralOnce.2 key hkey'
      rcases List.mem_append.mp hkey with hkey | hkey
      · obtain ⟨_, -, rfl⟩ := List.mem_map.mp hkey
        have hsame : "Password spray to privilege" = "Endpoint to lateral movement to C2" := htitle
        exact absurd hsame (by decide)
      · obtain ⟨_, -, rfl⟩ := List.mem_map.mp hkey
        have hsame : "Office to PowerShell to beacon" = "Endpoint to lateral movement to C2" := htitle
        exact absurd hsame (by decide)

/-- The storylines of a correlation are distinct, sourced and contain their stages exactly if the sprays
and the office findings are grounded. -/
theorem correlate_provenance_iff (hrun : correlate rt events findings t = (.ok stories, t')) :
    Provenance events findings stories ↔ Grounded events findings := by
  obtain ⟨identity, office, lateral, extras, t₁, t₂, t₃, t₄, hidentity, hoffice, hlateral, hextras,
    rfl⟩ := correlate_parts hrun
  have hsprays := identityChain_tells hidentity
  have hdistinct := distinct_iff hidentity hoffice hlateral
  constructor
  · intro h
    have hbase := h.distinct.sublist (sublist_appendNew.map keyOf)
    refine ⟨fun spray hspray event hevent => ?_, (hdistinct.mp hbase).1, (hdistinct.mp hbase).2⟩
    have hcontinues : Continues events findings spray := by
      rintro ⟨-, hnone, -⟩
      rw [List.isEmpty_iff.mp hnone] at hevent
      exact List.not_mem_nil hevent
    obtain ⟨s, hs, htells⟩ := forall₂_exists hsprays
      (List.mem_filter.mpr ⟨hspray, decide_eq_true hcontinues⟩)
    have hin : s ∈ appendNew (identity ++ office ++ lateral) extras :=
      sublist_appendNew.subset (by simp [hs])
    exact htells.spray_contained_iff.mp (h.contained s hin) event hevent
  · intro h
    have hsound : ∀ s ∈ appendNew (identity ++ office ++ lateral) extras,
        Sourced events findings s ∧ Contained s := by
      intro s hs
      rcases mem_appendNew hs with hs | hs
      · rcases List.mem_append.mp hs with hs | hs
        · rcases List.mem_append.mp hs with hs | hs
          · obtain ⟨spray, hspray, htells⟩ := exists_of_forall₂ hsprays hs
            have hspray := List.mem_of_mem_filter hspray
            obtain ⟨hevents, hevidence⟩ := sprayEvents_eq findings spray
            refine ⟨?_, htells.spray_contained_iff.mpr (h.successes spray hspray)⟩
            rw [hevents, hevidence] at htells
            exact htells.sourced (sprayGroup_subset hspray)
          · obtain ⟨pair, hpair, hjoins⟩ := exists_of_forall₂ (officeC2_joins hoffice) hs
            exact hjoins.sound hpair
        · rcases lateralC2_tells hlateral with rfl | ⟨spawn, hspawn, beacon, hbeacon, s', rfl, htells⟩
          · cases hs
          · obtain rfl := List.mem_singleton.mp hs
            refine ⟨htells.pair_sourced hspawn hbeacon, htells.pair_contained ?_⟩
            simp [stageOf]
      · exact extras_sound hextras hs
    exact ⟨fun s hs => (hsound s hs).2, fun s hs => (hsound s hs).1,
      appendNew_keys (hdistinct.mpr ⟨h.sprays, h.offices⟩)⟩

end

theorem correlate_provenance_pair : ∃ stories,
    (correlate sampleRuntime [] pairFindings {}).1 = .ok stories ∧ stories.length = 2 ∧
      Provenance [] pairFindings stories := by
  refine ⟨_, rfl, rfl, (correlate_provenance_iff (Prod.ext rfl rfl)).mpr ⟨?_, ?_, ?_⟩⟩
  · exact fun _ _ event hevent => absurd hevent List.not_mem_nil
  · decide
  · decide

/-- A finding on a host, for an event. -/
def hostFinding (id ruleId eventId : String) (attributes : List (String × String)) : Finding :=
  { aliceFinding id ruleId 0 with eventIds := [eventId], attributes := attributes }

/-- A login of alice from the sprayed address. -/
def sprayedLogin : CanonicalEvent where
  id := "e9"
  tenantId := "acme"
  timestamp := ⟨63839761325000000, some 0⟩
  ingestedAt := ⟨63839761325000000, some 0⟩
  source := "idp"
  sourceType := "idp"
  eventType := "login"
  category := "authentication"
  outcome := some .success
  srcIp := some "203.0.113.9"

def sprayedFindings : List Finding :=
  [hostFinding "f1" "identity.password_spray" "e1" [("src_ip", "203.0.113.9")]]

/-- Two office rules found the same process. -/
def officeFindings : List Finding :=
  [hostFinding "f1" "endpoint.office_spawns_shell" "e1" [("host", "ws-1")],
    hostFinding "f2" "endpoint.encoded_powershell" "e1" [("host", "ws-1")],
    hostFinding "f3" "network.repetitive_beacon" "e2" [("src_ip", "10.0.0.5")]]

/-- The login is an event of a stage, but not of the storyline; and the two office findings give two
storylines with one title and the same events. -/
theorem correlate_without_provenance :
    (∃ stories, (correlate sampleRuntime [sprayedLogin] sprayedFindings {}).1 = .ok stories ∧
      ∃ s ∈ stories, ¬ Contained s) ∧
    ∃ stories, (correlate sampleRuntime [] officeFindings {}).1 = .ok stories ∧
      ¬ (stories.map keyOf).Nodup := by
  refine ⟨⟨_, rfl, _, List.mem_cons_self, ?_⟩, _, rfl, ?_⟩
  · unfold Contained
    decide
  · decide

/-! ### What is joined -/

/-- The storylines join findings under one key that is not empty, and office findings with beacons of
the same host where both have one. -/
structure SharesEntities (rules : List CorrelationRule) (findings : List Finding)
    (stories offices : List Storyline) : Prop where
  keys : ∀ s ∈ stories, ∃ rule ∈ rules, ∃ key, key ≠ "" ∧
    StoryFor rule (groupOf rule findings key) key s
  pairs : List.Forall₂ (fun pair s => Joins pair.1 pair.2 s) (officePairs findings) offices
  hosts : ∀ pair ∈ officePairs findings, given (attributeOf pair.1 "host") = true →
    given (attributeOf pair.2 "host") = true → attributeOf pair.1 "host" = attributeOf pair.2 "host"

/-- The beacon is on another host, and has an address. -/
def Stranger (spawn beacon : Finding) : Prop :=
  given (attributeOf beacon "host") = true ∧ attributeOf beacon "host" ≠ attributeOf spawn "host" ∧
    given (attributeOf beacon "src_ip") = true

/-- Before every stranger stands a beacon of the same host or with an address. -/
def Preceded (spawn : Finding) (beacons : List Finding) : Prop :=
  ∀ passed beacon rest, beacons = passed ++ beacon :: rest → Stranger spawn beacon →
    ∃ other ∈ passed, attributeOf other "host" = attributeOf spawn "host" ∨
      given (attributeOf other "src_ip") = true

section

variable {rt : Runtime} {rules : List CorrelationRule} {findings : List Finding}
  {t t' t₁ t₂ : Ticks} {stories offices : List Storyline}

/-- The storylines are those of the groups that pass. -/
theorem applyCorrelationRules_stories
    (hrun : applyCorrelationRules rt findings rules t = (.ok stories, t')) :
    (∀ s ∈ stories, ∃ rule ∈ rules, ∃ key, Passes rule (groupOf rule findings key) ∧
      StoryFor rule (groupOf rule findings key) key s) ∧
    ∀ rule ∈ rules, ∀ key, Passes rule (groupOf rule findings key) →
      ∃ s ∈ stories, StoryFor rule (groupOf rule findings key) key s := by
  obtain ⟨parts, hparts, rfl⟩ := collect_parts
    (fun rule _ _ _ _ hpart => @applyCorrelationRule_keyed rt rule findings _ _ _ hpart) hrun
  constructor
  · intro s hs
    obtain ⟨part, hpart, hs⟩ := List.mem_flatten.mp hs
    obtain ⟨rule, hrule, keys, hkeys⟩ := exists_of_forall₂ hparts hpart
    obtain ⟨key, hkey, hstory⟩ := exists_of_forall₂ hkeys.results hs
    exact ⟨rule, hrule, key, (hkeys.mem_iff key).mp hkey, hstory⟩
  · intro rule hrule key hpasses
    obtain ⟨part, hpart, keys, hkeys⟩ := forall₂_exists hparts hrule
    obtain ⟨s, hs, hstory⟩ := forall₂_exists hkeys.results ((hkeys.mem_iff key).mpr hpasses)
    exact ⟨s, List.mem_flatten.mpr ⟨part, hpart, hs⟩, hstory⟩

theorem keys_iff (hrun : applyCorrelationRules rt findings rules t = (.ok stories, t')) :
    (∀ s ∈ stories, ∃ rule ∈ rules, ∃ key, key ≠ "" ∧
      StoryFor rule (groupOf rule findings key) key s) ↔
      ∀ rule ∈ rules, ¬ Passes rule (groupOf rule findings "") := by
  obtain ⟨hfrom, hto⟩ := applyCorrelationRules_stories hrun
  constructor
  · intro h rule hrule hpasses
    obtain ⟨s, hs, hnone⟩ := hto rule hrule "" hpasses
    obtain ⟨rule', -, key, hkey, hsome⟩ := h s hs
    have hentities := hnone.entities.symm.trans hsome.entities
    rw [if_pos rfl, if_neg hkey] at hentities
    exact absurd (Prod.mk.inj (List.cons.inj hentities).1).2 (by simp)
  · intro h s hs
    obtain ⟨rule, hrule, key, hpasses, hstory⟩ := hfrom s hs
    refine ⟨rule, hrule, key, ?_, hstory⟩
    rintro rfl
    exact h rule hrule hpasses

theorem beaconFor_iff {spawn beacon : Finding} (hgiven : given (attributeOf spawn "host") = true) :
    beaconFor spawn (beaconsOf findings) = some beacon ↔
      (attributeOf beacon "host" = attributeOf spawn "host" ∨
        given (attributeOf beacon "src_ip") = true) ∧
      ∃ passed rest, beaconsOf findings = passed ++ beacon :: rest ∧
        ∀ other ∈ passed, ¬ (attributeOf other "host" = attributeOf spawn "host" ∨
          given (attributeOf other "src_ip") = true) := by
  unfold beaconFor
  rw [List.find?_eq_some_iff_append]
  simp [hgiven]

theorem hosts_iff : (∀ pair ∈ officePairs findings, given (attributeOf pair.1 "host") = true →
    given (attributeOf pair.2 "host") = true →
      attributeOf pair.1 "host" = attributeOf pair.2 "host") ↔
    ∀ spawn ∈ officesOf findings, given (attributeOf spawn "host") = true →
      Preceded spawn (beaconsOf findings) := by
  constructor
  · intro h spawn hspawn hgiven passed beacon rest hsplit hstranger
    by_contra hnone
    have hbeacon := (@beaconFor_iff findings spawn beacon hgiven).mpr
      ⟨.inr hstranger.2.2, passed, rest, hsplit, fun other hother hmatch => hnone ⟨other, hother, hmatch⟩⟩
    have hpair : (spawn, beacon) ∈ officePairs findings :=
      List.mem_filterMap.mpr ⟨spawn, hspawn, Option.map_eq_some_iff.mpr ⟨beacon, hbeacon, rfl⟩⟩
    exact hstranger.2.1 (h _ hpair hgiven hstranger.1).symm
  · intro h pair hpair hgiven hgiven'
    obtain ⟨hspawn, hbeacon⟩ := mem_officePairs hpair
    obtain ⟨hmatch, passed, rest, hsplit, hpassed⟩ := (beaconFor_iff hgiven).mp hbeacon
    by_contra hdiffer
    have hsrc := hmatch.resolve_left fun hsame => hdiffer hsame.symm
    obtain ⟨other, hother, hbefore⟩ := h pair.1 hspawn hgiven passed pair.2 rest hsplit
      ⟨hgiven', fun hsame => hdiffer hsame.symm, hsrc⟩
    exact hpassed other hother hbefore

/-- What is joined shares an entity exactly if no rule passes for the findings without a key, and no
office finding of a host comes upon a beacon of another one first. -/
theorem correlation_shares_iff
    (hrun : applyCorrelationRules rt findings rules t = (.ok stories, t'))
    (hoffice : officeC2 rt findings t₁ = (.ok offices, t₂)) :
    SharesEntities rules findings stories offices ↔
      (∀ rule ∈ rules, ¬ Passes rule (groupOf rule findings "")) ∧
        ∀ spawn ∈ officesOf findings, given (attributeOf spawn "host") = true →
          Preceded spawn (beaconsOf findings) := by
  rw [← keys_iff hrun, ← hosts_iff]
  exact ⟨fun h => ⟨h.keys, h.hosts⟩, fun h => ⟨h.1, officeC2_joins hoffice, h.2⟩⟩

end

/-- The beacon was found on the host of the office finding. -/
def sameHostFindings : List Finding :=
  [hostFinding "f1" "endpoint.office_spawns_shell" "e1" [("host", "ws-1")],
    hostFinding "f3" "endpoint.process_network_chain" "e2" [("host", "ws-1"), ("src_ip", "10.0.0.5")]]

theorem correlation_shares_sameHost : ∃ stories offices,
    (applyCorrelationRules sampleRuntime sameHostFindings defaultCorrelationRules {}).1 =
      .ok stories ∧
    (officeC2 sampleRuntime sameHostFindings {}).1 = .ok offices ∧ offices.length = 1 ∧
      SharesEntities defaultCorrelationRules sameHostFindings stories offices := by
  refine ⟨_, _, rfl, rfl, rfl, (@correlation_shares_iff sampleRuntime defaultCorrelationRules
    sameHostFindings {} _ {} _ _ _ (Prod.ext rfl rfl) (Prod.ext rfl rfl)).mpr ⟨?_, ?_⟩⟩
  · have huncovered : ∀ rule ∈ defaultCorrelationRules,
        covers rule (groupOf rule sameHostFindings "") = false := by decide
    intro rule hrule hpasses
    have hcovered := hpasses.tested.covered
    rw [huncovered rule hrule] at hcovered
    cases hcovered
  · rw [← hosts_iff]
    decide

/-- A beacon of another host. -/
def strangeFindings : List Finding :=
  [hostFinding "f1" "endpoint.office_spawns_shell" "e1" [("host", "ws-1")],
    hostFinding "f3" "endpoint.process_network_chain" "e2" [("host", "ws-2"), ("src_ip", "10.0.0.7")]]

/-- Findings without a user or an address. -/
def namelessFindings : List Finding :=
  [hostFinding "f1" "identity.password_spray" "e1" [],
    hostFinding "f2" "identity.privilege_grant" "e2" []]

/-- The office finding of one host is joined with the beacon of another, and two findings without any
entity are joined. -/
theorem correlation_joins_strangers :
    (∃ offices, (officeC2 sampleRuntime strangeFindings {}).1 = .ok offices ∧ offices.length = 1 ∧
      ∀ stories, ¬ SharesEntities defaultCorrelationRules strangeFindings stories offices) ∧
    ∃ stories, (applyCorrelationRules sampleRuntime namelessFindings defaultCorrelationRules {}).1 =
      .ok stories ∧ ∀ offices,
        ¬ SharesEntities defaultCorrelationRules namelessFindings stories offices := by
  refine ⟨⟨_, rfl, rfl, fun stories h => ?_⟩, _, rfl, fun offices h => ?_⟩
  · have hhosts := h.hosts
    revert hhosts
    decide
  · obtain ⟨rule, -, key, hkey, hstory⟩ := h.keys _ List.mem_cons_self
    have hentities : [("user", [])] = [(rule.entityKey, if key = "" then [] else [key])] :=
      hstory.entities
    rw [if_neg hkey] at hentities
    exact absurd (Prod.mk.inj (List.cons.inj hentities).1).2 (by simp)

end BlueTeam.Correlation
