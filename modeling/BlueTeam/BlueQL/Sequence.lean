/- GID: BlueTeam/BlueQL/Sequence
   generality: I
   source: packages/blueql/blueteam_blueql/engine.py
   digest: What a sequence query returns: the chains of first matches within the window. -/

import BlueTeam.BlueQL.Engine
import BlueTeam.Lib.Chains
import Mathlib.Data.Nat.Log

set_option autoImplicit false
set_option relaxedAutoImplicit false

namespace BlueTeam.BlueQL

open BlueTeam.Python BlueTeam.Schema BlueTeam.Lib

/-- Any two time stamps can be compared. -/
def Comparable (events : List CanonicalEvent) : Prop :=
  ∀ a ∈ events, ∀ b ∈ events, a.timestamp.Comparable b.timestamp

theorem Comparable.subset {events events' : List CanonicalEvent} (h : Comparable events)
    (hsub : events' ⊆ events) : Comparable events' :=
  fun a ha b hb => h a (hsub ha) b (hsub hb)

def NoLater (a b : CanonicalEvent) : Prop :=
  a.timestamp.instant ≤ b.timestamp.instant

instance : DecidableRel NoLater :=
  fun _ _ => inferInstanceAs (Decidable (_ ≤ _))

instance : Std.Total NoLater where
  total a b := Int.le_total a.timestamp.instant b.timestamp.instant

instance : IsTrans CanonicalEvent NoLater where
  trans _ _ _ := Int.le_trans

/-- The events in the order of their time stamps. -/
def timeline (events : List CanonicalEvent) : List CanonicalEvent :=
  events.insertionSort NoLater

/-- At most `window` seconds lie between two events, as `total_seconds` counts them. -/
def inWindow (window : Nat) (a b : CanonicalEvent) : Bool :=
  b.timestamp.instant - a.timestamp.instant ≤ reach window

theorem timeline_perm (events : List CanonicalEvent) : (timeline events).Perm events :=
  List.perm_insertionSort NoLater events

theorem timeline_pairwise (events : List CanonicalEvent) : (timeline events).Pairwise NoLater :=
  List.pairwise_insertionSort NoLater events

theorem sorted_timeline (window : Nat) (events : List CanonicalEvent) :
    Sorted (inWindow window) (timeline events) := by
  intro prev
  refine (timeline_pairwise events).imp ?_
  intro a b hab hb
  simp only [inWindow, decide_eq_true_eq] at hb ⊢
  have hle : a.timestamp.instant ≤ b.timestamp.instant := hab
  omega

theorem reach_eq {window : Nat} (h : window < 2 ^ 34) :
    reach window = window * DateTime.second := by
  have hlog : window.log2 ≤ 33 := by
    by_cases h0 : window = 0
    · rw [h0]
      decide
    · have hlt := (Nat.log2_lt h0).mpr h
      omega
  have hpow : 2 ^ window.log2 ≤ 2 ^ 33 := Nat.pow_le_pow_right (by decide) hlog
  have hslack : 1000000 * 2 ^ window.log2 / 2 ^ 53 = 0 := by
    apply Nat.div_eq_of_lt
    omega
  rw [reach, hslack]
  exact Int.add_zero _

theorem reach_mono {window window' : Nat} (h : window ≤ window') : reach window ≤ reach window' := by
  have hlog : window.log2 ≤ window'.log2 := by
    rw [Nat.log2_eq_log_two, Nat.log2_eq_log_two]
    exact Nat.log_mono_right h
  have hpow : 2 ^ window.log2 ≤ 2 ^ window'.log2 := Nat.pow_le_pow_right (by decide) hlog
  have hslack := Nat.div_le_div_right (c := 2 ^ 53) (Nat.mul_le_mul_left 1000000 hpow)
  unfold reach DateTime.second
  omega

theorem inWindow_mono {window window' : Nat} (h : window ≤ window') (a b : CanonicalEvent)
    (hab : inWindow window a b = true) : inWindow window' a b = true := by
  have hreach := reach_mono h
  simp only [inWindow, decide_eq_true_eq] at hab ⊢
  omega

theorem insertByTime_eq {event : CanonicalEvent} {events : List CanonicalEvent}
    (h : Comparable (event :: events)) :
    insertByTime event events = .ok (events.orderedInsert NoLater event) := by
  induction events with
  | nil => rfl
  | cons e es ih =>
      have hlt := (h e (by simp) event (by simp)).lt_eq
      have htail := ih (h.subset (by simp))
      rw [insertByTime, hlt, htail]
      by_cases hle : NoLater event e
      · have hnot : ¬ e.timestamp.instant < event.timestamp.instant := Int.not_lt.mpr hle
        rw [List.orderedInsert_cons, if_pos hle, decide_eq_false hnot]
        rfl
      · have hlt : e.timestamp.instant < event.timestamp.instant := Int.not_le.mp hle
        rw [List.orderedInsert_cons, if_neg hle, decide_eq_true hlt]
        rfl

theorem sortedByTime_eq {events : List CanonicalEvent} (h : Comparable events) :
    sortedByTime events = .ok (timeline events) := by
  induction events with
  | nil => rfl
  | cons event events ih =>
      have hsub : event :: timeline events ⊆ event :: events :=
        List.cons_subset_cons event (timeline_perm events).subset
      rw [sortedByTime, ih (h.subset (List.subset_cons_self event events))]
      exact insertByTime_eq (h.subset hsub)

/-! ### The search -/

section

variable (rt : Runtime) {window : Nat}

theorem findStep_eq (step : Pred) {prev : CanonicalEvent} {events : List CanonicalEvent}
    (h : Comparable (prev :: events)) :
    findStep rt window step prev.timestamp events =
      nextMatch (evalPred rt) (inWindow window) step prev events := by
  induction events with
  | nil => rfl
  | cons candidate rest ih =>
      have hdelta := (h candidate (by simp) prev (by simp)).minus_eq
      rw [findStep, nextMatch, hdelta, ih (h.subset (by simp))]
      by_cases hclose : inWindow window prev candidate = true
      · have hnot : ¬ reach window < candidate.timestamp.instant - prev.timestamp.instant :=
          Int.not_lt.mpr (decide_eq_true_eq.mp hclose)
        rw [if_pos hclose]
        show (if reach window < _ then _ else _) = _
        rw [if_neg hnot]
      · have hlate : reach window < candidate.timestamp.instant - prev.timestamp.instant :=
          Int.not_le.mp fun hle => hclose (decide_eq_true hle)
        rw [if_neg hclose]
        show (if reach window < _ then _ else _) = _
        rw [if_pos hlate]
        rfl

theorem nextMatch_subset {step : Pred} {prev candidate : CanonicalEvent}
    {events rest : List CanonicalEvent}
    (h : nextMatch (evalPred rt) (inWindow window) step prev events = .ok (some (candidate, rest))) :
    candidate :: rest ⊆ events := by
  obtain ⟨skipped, rfl, -⟩ := nextMatch_some h
  exact List.subset_append_right skipped _

theorem followSteps_eq (steps : List Pred) {prev : CanonicalEvent} {events : List CanonicalEvent}
    (h : Comparable (prev :: events)) :
    followSteps rt window steps prev.timestamp events =
      matchAll (evalPred rt) (inWindow window) steps prev events := by
  induction steps generalizing prev events with
  | nil => rfl
  | cons step steps ih =>
      rw [followSteps, matchAll, findStep_eq rt step h]
      cases hfound : nextMatch (evalPred rt) (inWindow window) step prev events with
      | error e => rfl
      | ok found =>
          rcases found with _ | ⟨candidate, rest⟩
          · rfl
          · have hsub := nextMatch_subset rt hfound
            have hlater := ih (h.subset (List.subset_cons_of_subset prev hsub))
            show (followSteps rt window steps candidate.timestamp rest >>= _) = _
            rw [hlater]
            rfl

theorem chainFrom_eq (first : Pred) (more : List Pred) {event : CanonicalEvent}
    {rest : List CanonicalEvent} (h : Comparable (event :: rest)) :
    chainFrom rt window first more event rest =
      chainAt (evalPred rt) (inWindow window) first more event rest := by
  rw [chainFrom, chainAt, followSteps_eq rt more h]

theorem hitsOf_eq (first : Pred) (more : List Pred) {events : List CanonicalEvent}
    (h : Comparable events) :
    hitsOf rt window first more events =
      allChains (evalPred rt) (inWindow window) first more events := by
  induction events with
  | nil => rfl
  | cons event rest ih =>
      rw [hitsOf, allChains, chainFrom_eq rt first more h,
        ih (h.subset (List.subset_cons_self event rest))]

end

/-! ### What a sequence returns -/

section

variable {rt : Runtime} {first : Pred} {more : List Pred} {events result : List CanonicalEvent}
  {within : Option Nat} {event : CanonicalEvent}

/-- The events satisfy the steps one after the other, in the order of time, with at most `window`
seconds from each to the next. -/
abbrev Follows (rt : Runtime) (window : Nat) (first : Pred) (more : List Pred)
    (events chain : List CanonicalEvent) : Prop :=
  StepChain (Answers (evalPred rt)) (inWindow window) (first :: more) (timeline events) chain

/-- A chain that takes the first event that satisfies each step after the first one. -/
abbrev FollowsFirst (rt : Runtime) (window : Nat) (first : Pred) (more : List Pred)
    (events chain : List CanonicalEvent) : Prop :=
  Leads (Answers (evalPred rt)) (inWindow window) first more (timeline events) chain

/-- No predicate raises where the search for first matches asks for it. -/
abbrev NeverRaises (rt : Runtime) (window : Nat) (first : Pred) (more : List Pred)
    (events : List CanonicalEvent) : Prop :=
  Quiet (evalPred rt) (inWindow window) first more (timeline events)

theorem executeSequence_eq (h : Comparable events) :
    executeSequence rt within first more events =
      (allChains (evalPred rt) (inWindow (windowOf within)) first more (timeline events)).map
        (firsts (·.id) []) := by
  have hhits : hitsOf rt (windowOf within) first more (timeline events) = _ :=
    hitsOf_eq rt first more (h.subset (timeline_perm events).subset)
  rw [executeSequence, sortedByTime_eq h]
  show (hitsOf rt (windowOf within) first more (timeline events) >>= _) = _
  rw [hhits]
  cases allChains (evalPred rt) (inWindow (windowOf within)) first more (timeline events) <;> rfl

theorem hits_of_result (h : Comparable events)
    (hrun : executeSequence rt within first more events = .ok result) :
    ∃ hits, allChains (evalPred rt) (inWindow (windowOf within)) first more (timeline events) =
      .ok hits ∧ result = firsts (·.id) [] hits := by
  rw [executeSequence_eq h] at hrun
  cases hhits : allChains (evalPred rt) (inWindow (windowOf within)) first more (timeline events) with
  | error e =>
      rw [hhits] at hrun
      cases hrun
  | ok hits =>
      rw [hhits] at hrun
      exact ⟨hits, rfl, (Except.ok.inj hrun).symm⟩

theorem executeSequence_ok_iff (h : Comparable events) :
    (∃ result, executeSequence rt within first more events = .ok result) ↔
      NeverRaises rt (windowOf within) first more events := by
  rw [NeverRaises, ← allChains_ok_iff (sorted_timeline (windowOf within) events)]
  constructor
  · rintro ⟨result, hrun⟩
    obtain ⟨hits, hhits, -⟩ := hits_of_result h hrun
    exact ⟨hits, hhits⟩
  · rintro ⟨hits, hhits⟩
    refine ⟨firsts (·.id) [] hits, ?_⟩
    rw [executeSequence_eq h, hhits]
    rfl

/-- The result holds the events of the chains of first matches. -/
theorem mem_executeSequence_iff (h : Comparable events) (hids : (events.map (·.id)).Nodup)
    (hrun : executeSequence rt within first more events = .ok result) :
    event ∈ result ↔
      ∃ chain, FollowsFirst rt (windowOf within) first more events chain ∧ event ∈ chain := by
  obtain ⟨hits, hhits, rfl⟩ := hits_of_result h hrun
  have hsorted := sorted_timeline (windowOf within) events
  have hmem : ∀ {e}, e ∈ hits → e ∈ events := by
    intro e he
    obtain ⟨chain, hchain, he⟩ := (mem_allChains_iff hsorted hhits).mp he
    exact (timeline_perm events).subset (hchain.stepChain.sublist.subset he)
  have hapart : ∀ a ∈ hits, ∀ b ∈ hits, a.id = b.id → a = b := fun a ha b hb =>
    List.inj_on_of_nodup_map hids (hmem ha) (hmem hb)
  rw [mem_firsts_nil_iff hapart]
  exact mem_allChains_iff hsorted hhits

theorem windowOf_eq (h : within ≠ some 0) : windowOf within = within.getD 600 := by
  cases within with
  | none => rfl
  | some d =>
      have hd : d ≠ 0 := fun hd => h (congrArg some hd)
      exact if_neg hd

/-- Every event returned belongs to a chain that satisfies the steps within the window and is
returned as a whole, and no event is returned twice. -/
theorem executeSequence_sound (hwithin : within ≠ some 0) (hcomparable : Comparable events)
    (hids : (events.map (·.id)).Nodup)
    (hrun : executeSequence rt within first more events = .ok result) :
    (∀ event ∈ result, ∃ chain, Follows rt (within.getD 600) first more events chain ∧
      event ∈ chain ∧ chain ⊆ result) ∧ (result.map (·.id)).Nodup := by
  have hresult : ∀ e, e ∈ result ↔
      ∃ chain, FollowsFirst rt (windowOf within) first more events chain ∧ e ∈ chain :=
    fun e => mem_executeSequence_iff hcomparable hids hrun
  rw [windowOf_eq hwithin] at hresult
  constructor
  · intro event hevent
    obtain ⟨chain, hchain, hmem⟩ := (hresult event).mp hevent
    refine ⟨chain, hchain.stepChain, hmem, ?_⟩
    intro e he
    exact (hresult e).mpr ⟨chain, hchain, he⟩
  · obtain ⟨hits, -, rfl⟩ := hits_of_result hcomparable hrun
    exact nodup_firsts (·.id) [] hits

end

def sampleEvent (id eventType : String) (seconds : Int) : CanonicalEvent where
  id := id
  tenantId := "acme"
  timestamp := ⟨63839761325000000 + seconds * 1000000, some 0⟩
  ingestedAt := ⟨63839761325000000, some 0⟩
  source := "edr"
  sourceType := "edr"
  eventType := eventType
  category := "endpoint"

def isType (eventType : String) : Pred :=
  .cmp "event_type" .eq (.str eventType)

/-- `b` comes twice, and `c` is too late for the first of them. -/
def sampleEvents : List CanonicalEvent :=
  [sampleEvent "e1" "a" 0, sampleEvent "e2" "b" 1, sampleEvent "e3" "b" 9, sampleEvent "e4" "c" 15]

theorem comparable_sampleEvents : Comparable sampleEvents := by
  unfold Comparable DateTime.Comparable
  decide

theorem nodup_sampleEvents : (sampleEvents.map (·.id)).Nodup := by
  decide

theorem executeSequence_sound_sample :
    (∀ event ∈ sampleEvents.take 2, ∃ chain,
      Follows sampleRuntime 600 (isType "a") [isType "b"] sampleEvents chain ∧
        event ∈ chain ∧ chain ⊆ sampleEvents.take 2) ∧
      ((sampleEvents.take 2).map (·.id)).Nodup := by
  have hrun : executeSequence sampleRuntime none (isType "a") [isType "b"] sampleEvents =
      .ok (sampleEvents.take 2) := by decide
  have hsound := executeSequence_sound (by decide) comparable_sampleEvents nodup_sampleEvents hrun
  exact hsound

/-! ### What a sequence misses -/

section

variable {rt : Runtime} {first : Pred} {more : List Pred} {events result : List CanonicalEvent}
  {within : Option Nat} {event : CanonicalEvent}

/-- A chain has first matches that come no later; only the time between two of them can be too
long. -/
theorem firsts_of_follows {window : Nat} {start : CanonicalEvent} {chain : List CanonicalEvent}
    (h : Follows rt window first more events (start :: chain)) :
    ∃ before rest found, timeline events = before ++ start :: rest ∧
      Earliest (Answers (evalPred rt)) more rest found ∧ List.Forall₂ NoLater found chain := by
  obtain ⟨hsub, hsat, -⟩ := h
  cases hsat with
  | cons _ hmore =>
      obtain ⟨upto, later, hsplit, hmem, hlater⟩ := List.cons_sublist_iff.mp hsub
      obtain ⟨before, between, rfl⟩ := List.append_of_mem hmem
      have htimeline : timeline events = before ++ start :: (between ++ later) := by
        rw [hsplit, List.append_assoc, List.cons_append]
      have hordered := timeline_pairwise events
      rw [htimeline, List.pairwise_append] at hordered
      have hrefl : ∀ a, NoLater a a := fun a => Int.le_refl a.timestamp.instant
      obtain ⟨found, hfound, hle⟩ := exists_earliest hrefl (List.pairwise_cons.mp hordered.2.1).2
        (hlater.trans (List.sublist_append_right between later)) hmore
      exact ⟨before, between ++ later, found, htimeline, hfound, hle⟩

theorem getD_le_windowOf (within : Option Nat) : within.getD 600 ≤ windowOf within := by
  by_cases h : within = some 0
  · rw [h]
    decide
  · rw [windowOf_eq h]

/-- A sequence of two steps misses no chain: if any match is near enough, the first one is. -/
theorem followsFirst_of_two {second : Pred} {start : CanonicalEvent} {chain : List CanonicalEvent}
    (h : Follows rt (within.getD 600) first [second] events (start :: chain)) :
    ∃ led, FollowsFirst rt (windowOf within) first [second] events led ∧ start ∈ led := by
  obtain ⟨before, rest, found, hsplit, hfound, hle⟩ := firsts_of_follows h
  cases h.sat with
  | cons hstart hmore =>
      cases hmore with
      | @cons _ b _ _ _ hnil =>
          cases hnil
          cases hle with
          | @cons a _ _ _ hle hnil =>
              cases hnil
              refine ⟨[start, a], ⟨⟨before, start, rest, [a], hsplit, rfl, hstart, hfound⟩, ?_⟩,
                List.mem_cons_self⟩
              have hnear : inWindow (windowOf within) start b = true :=
                inWindow_mono (getD_le_windowOf within) start b (List.isChain_cons_cons.mp h.close).1
              have hfirst : inWindow (windowOf within) start a = true := by
                have hab : a.timestamp.instant ≤ b.timestamp.instant := hle
                simp only [inWindow, decide_eq_true_eq] at hnear ⊢
                omega
              exact List.isChain_pair.mpr hfirst

/-- The first event of every chain is returned exactly if the search raises nothing and each such
event is on a chain of first matches. -/
theorem executeSequence_complete_iff (hcomparable : Comparable events)
    (hids : (events.map (·.id)).Nodup) :
    (∀ start chain, Follows rt (within.getD 600) first more events (start :: chain) →
        ∃ result, executeSequence rt within first more events = .ok result ∧ start ∈ result) ↔
      ∀ start chain, Follows rt (within.getD 600) first more events (start :: chain) →
        NeverRaises rt (windowOf within) first more events ∧
          ∃ led, FollowsFirst rt (windowOf within) first more events led ∧ start ∈ led := by
  constructor
  · intro h start chain hchain
    obtain ⟨result, hrun, hstart⟩ := h start chain hchain
    exact ⟨(executeSequence_ok_iff hcomparable).mp ⟨result, hrun⟩,
      (mem_executeSequence_iff hcomparable hids hrun).mp hstart⟩
  · intro h start chain hchain
    obtain ⟨hquiet, hled⟩ := h start chain hchain
    obtain ⟨result, hrun⟩ := (executeSequence_ok_iff hcomparable).mpr hquiet
    exact ⟨result, hrun, (mem_executeSequence_iff hcomparable hids hrun).mpr hled⟩

theorem executeSequence_complete_sample :
    executeSequence sampleRuntime (some 10) (isType "a") [isType "b"] sampleEvents =
        .ok (sampleEvents.take 2) ∧
      ∀ start chain,
        Follows sampleRuntime 10 (isType "a") [isType "b"] sampleEvents (start :: chain) →
          ∃ result, executeSequence sampleRuntime (some 10) (isType "a") [isType "b"] sampleEvents =
            .ok result ∧ start ∈ result := by
  have hrun : executeSequence sampleRuntime (some 10) (isType "a") [isType "b"] sampleEvents =
      .ok (sampleEvents.take 2) := by decide
  have hiff := @executeSequence_complete_iff sampleRuntime (isType "a") [isType "b"] sampleEvents
    (some 10) comparable_sampleEvents nodup_sampleEvents
  refine ⟨hrun, hiff.mpr ?_⟩
  intro start chain hchain
  exact ⟨(executeSequence_ok_iff comparable_sampleEvents).mp ⟨_, hrun⟩, followsFirst_of_two hchain⟩

theorem follows_sampleEvents :
    Follows sampleRuntime 10 (isType "a") [isType "b", isType "c"] sampleEvents
      [sampleEvent "e1" "a" 0, sampleEvent "e3" "b" 9, sampleEvent "e4" "c" 15] where
  sublist := by decide
  sat := by
    have ha : Answers (evalPred sampleRuntime) (isType "a") (sampleEvent "e1" "a" 0) := by decide
    have hb : Answers (evalPred sampleRuntime) (isType "b") (sampleEvent "e3" "b" 9) := by decide
    have hc : Answers (evalPred sampleRuntime) (isType "c") (sampleEvent "e4" "c" 15) := by
      decide
    exact .cons ha (.cons hb (.cons hc .nil))
  close := by decide

/-- The search takes the first `b`, from which `c` is too far. -/
theorem executeSequence_misses :
    Comparable sampleEvents ∧ (sampleEvents.map (·.id)).Nodup ∧
      Follows sampleRuntime 10 (isType "a") [isType "b", isType "c"] sampleEvents
        [sampleEvent "e1" "a" 0, sampleEvent "e3" "b" 9, sampleEvent "e4" "c" 15] ∧
      executeSequence sampleRuntime (some 10) (isType "a") [isType "b", isType "c"] sampleEvents =
        .ok [] :=
  ⟨comparable_sampleEvents, nodup_sampleEvents, follows_sampleEvents, by decide⟩

end

/-! ### Wider windows -/

section

variable {rt : Runtime} {first : Pred} {more : List Pred} {events : List CanonicalEvent}
  {d₁ d₂ : Nat}

/-- The query within `d` seconds returns the event. -/
def Returned (rt : Runtime) (d : Nat) (first : Pred) (more : List Pred)
    (events : List CanonicalEvent) (event : CanonicalEvent) : Prop :=
  ∃ result, executeSequence rt (some d) first more events = .ok result ∧ event ∈ result

theorem returned_iff (hcomparable : Comparable events) (hids : (events.map (·.id)).Nodup)
    {event : CanonicalEvent} {d : Nat} :
    Returned rt d first more events event ↔
      NeverRaises rt (windowOf (some d)) first more events ∧
        ∃ chain, FollowsFirst rt (windowOf (some d)) first more events chain ∧ event ∈ chain := by
  rw [← executeSequence_ok_iff hcomparable]
  constructor
  · rintro ⟨result, hrun, hevent⟩
    exact ⟨⟨result, hrun⟩, (mem_executeSequence_iff hcomparable hids hrun).mp hevent⟩
  · rintro ⟨⟨result, hrun⟩, hevent⟩
    exact ⟨result, hrun, (mem_executeSequence_iff hcomparable hids hrun).mpr hevent⟩

/-- A window of `0s` is read as ten minutes. -/
theorem windowOf_le (h : d₁ ≤ d₂) (hzero : d₁ = 0 → d₂ = 0 ∨ 600 ≤ d₂) :
    windowOf (some d₁) ≤ windowOf (some d₂) := by
  simp only [windowOf, Option.getD_some]
  split <;> split <;> omega

/-- A wider window loses no event exactly if its search raises nothing where that of the narrower one
finds something, and what ten minutes find is found again where the narrower window is `0s`. -/
theorem returned_mono_iff (h : d₁ ≤ d₂) (hcomparable : Comparable events)
    (hids : (events.map (·.id)).Nodup) :
    (∀ event, Returned rt d₁ first more events event → Returned rt d₂ first more events event) ↔
      (NeverRaises rt (windowOf (some d₁)) first more events →
        (∃ chain, FollowsFirst rt (windowOf (some d₁)) first more events chain) →
        NeverRaises rt (windowOf (some d₂)) first more events ∧
          (d₁ = 0 → 0 < d₂ → d₂ < 600 →
            ∀ chain, FollowsFirst rt 600 first more events chain → ∀ event ∈ chain,
              ∃ chain', FollowsFirst rt d₂ first more events chain' ∧ event ∈ chain')) := by
  simp only [returned_iff hcomparable hids]
  constructor
  · rintro hmono hquiet ⟨chain, hchain⟩
    obtain ⟨before, start, rest, matched, -, rfl, -, -⟩ := hchain.split
    have hstart := hmono start ⟨hquiet, _, hchain, List.mem_cons_self⟩
    refine ⟨hstart.1, ?_⟩
    rintro rfl hpos hlt led hled event hevent
    have hagain := (hmono event ⟨hquiet, led, hled, hevent⟩).2
    rwa [windowOf_eq (by simpa using hpos.ne')] at hagain
  · rintro hcond event ⟨hquiet, chain, hchain, hevent⟩
    obtain ⟨hquiet', hzero⟩ := hcond hquiet ⟨chain, hchain⟩
    refine ⟨hquiet', ?_⟩
    by_cases hnarrow : d₁ = 0 ∧ 0 < d₂ ∧ d₂ < 600
    · obtain ⟨rfl, hpos, hlt⟩ := hnarrow
      rw [windowOf_eq (by simpa using hpos.ne')]
      exact hzero rfl hpos hlt chain hchain event hevent
    · have hle : windowOf (some d₁) ≤ windowOf (some d₂) := windowOf_le h (by omega)
      exact ⟨chain, hchain.widen (inWindow_mono hle), hevent⟩

end

theorem returned_mono_sample :
    Returned sampleRuntime 1 (isType "a") [isType "b"] sampleEvents (sampleEvent "e2" "b" 1) ∧
      ∀ event, Returned sampleRuntime 1 (isType "a") [isType "b"] sampleEvents event →
        Returned sampleRuntime 10 (isType "a") [isType "b"] sampleEvents event := by
  have hnarrow : executeSequence sampleRuntime (some 1) (isType "a") [isType "b"] sampleEvents =
      .ok (sampleEvents.take 2) := by decide
  have hwide : executeSequence sampleRuntime (some 10) (isType "a") [isType "b"] sampleEvents =
      .ok (sampleEvents.take 2) := by decide
  refine ⟨⟨_, hnarrow, by decide⟩, ?_⟩
  apply (returned_mono_iff (by decide) comparable_sampleEvents nodup_sampleEvents).mpr
  rintro - -
  refine ⟨(executeSequence_ok_iff comparable_sampleEvents).mp ⟨_, hwide⟩, ?_⟩
  intro hzero
  cases hzero

/-- `c` comes 15 seconds after `a`: within `0s` it is found, within `5s` it is not. -/
theorem returned_not_mono :
    Comparable sampleEvents ∧ (sampleEvents.map (·.id)).Nodup ∧
      Returned sampleRuntime 0 (isType "a") [isType "c"] sampleEvents (sampleEvent "e4" "c" 15) ∧
      ¬ Returned sampleRuntime 5 (isType "a") [isType "c"] sampleEvents
        (sampleEvent "e4" "c" 15) := by
  have hzero : executeSequence sampleRuntime (some 0) (isType "a") [isType "c"] sampleEvents =
      .ok [sampleEvent "e1" "a" 0, sampleEvent "e4" "c" 15] := by decide
  have hfive : executeSequence sampleRuntime (some 5) (isType "a") [isType "c"] sampleEvents =
      .ok [] := by decide
  refine ⟨comparable_sampleEvents, nodup_sampleEvents, ⟨_, hzero, by simp⟩, ?_⟩
  rintro ⟨result, hrun, hmem⟩
  rw [hfive] at hrun
  obtain rfl := Except.ok.inj hrun
  cases hmem

end BlueTeam.BlueQL
