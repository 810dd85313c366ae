/- GID: BlueTeam/Detection/Spray
   generality: I
   source: detections/python/identity/password_spray.py,
     packages/detection-sdk/blueteam_detection/context.py
   digest: Which of a series of failed logins the password spray rule notices. -/

import BlueTeam.Detection.Catalog

set_option autoImplicit false
set_option relaxedAutoImplicit false

namespace BlueTeam.Detection

open BlueTeam.Python BlueTeam.Schema BlueTeam.Lib

/-- Failed logins of one tenant from one source, within ten minutes of each other. -/
structure SprayEvents (tenantId ip : String) (events : List CanonicalEvent) : Prop where
  failures : ∀ e ∈ events, isAuthFailure e = true
  tenant : ∀ e ∈ events, e.tenantId = tenantId
  source : ∀ e ∈ events, e.srcIp = some ip
  comparable : ∀ e ∈ events, ∀ e' ∈ events, e.timestamp.Comparable e'.timestamp
  close : ∀ e ∈ events, ∀ e' ∈ events,
    e.timestamp.instant - e'.timestamp.instant ≤ 600 * DateTime.second

theorem sprayEvents_iff {tenantId ip : String} {events : List CanonicalEvent} :
    SprayEvents tenantId ip events ↔ ∀ e ∈ events, isAuthFailure e = true ∧
      e.tenantId = tenantId ∧ e.srcIp = some ip ∧ ∀ e' ∈ events,
        e.timestamp.offset.isSome = e'.timestamp.offset.isSome ∧
          e.timestamp.instant - e'.timestamp.instant ≤ 600 * DateTime.second := by
  constructor
  · intro h e he
    exact ⟨h.failures e he, h.tenant e he, h.source e he,
      fun e' he' => ⟨h.comparable e he e' he', h.close e he e' he'⟩⟩
  · intro h
    exact ⟨fun e he => (h e he).1, fun e he => (h e he).2.1, fun e he => (h e he).2.2.1,
      fun e he e' he' => ((h e he).2.2.2 e' he').1, fun e he e' he' => ((h e he).2.2.2 e' he').2⟩

instance (tenantId ip : String) (events : List CanonicalEvent) :
    Decidable (SprayEvents tenantId ip events) :=
  decidable_of_iff _ sprayEvents_iff.symm

/-- Those of the events that are not later than the event name five users. -/
def Noticed (events : List CanonicalEvent) (event : CanonicalEvent) : Prop :=
  5 ≤ (usersOf (events.filter fun e =>
    e.timestamp.instant ≤ event.timestamp.instant)).length

instance (events : List CanonicalEvent) (event : CanonicalEvent) :
    Decidable (Noticed events event) :=
  inferInstanceAs (Decidable (_ ≤ _))

/-- Some event is noticed among those that arrived up to it. -/
def NoticedInOrder (events : List CanonicalEvent) : Prop :=
  ∃ done event, done ++ [event] <+: events ∧ Noticed (done ++ [event]) event

theorem SprayEvents.mono {tenantId ip : String} {events more : List CanonicalEvent}
    (h : SprayEvents tenantId ip more) (hsub : events ⊆ more) : SprayEvents tenantId ip events where
  failures e he := h.failures e (hsub he)
  tenant e he := h.tenant e (hsub he)
  source e he := h.source e (hsub he)
  comparable e he e' he' := h.comparable e (hsub he) e' (hsub he')
  close e he e' he' := h.close e (hsub he) e' (hsub he')

theorem not_noticedInOrder_nil : ¬ NoticedInOrder [] := by
  rintro ⟨done, event, hprefix, -⟩
  simpa using hprefix.length_le

/-- One more event is noticed itself, or it changes nothing. -/
theorem noticedInOrder_concat (events : List CanonicalEvent) (event : CanonicalEvent) :
    NoticedInOrder (events ++ [event]) ↔
      NoticedInOrder events ∨ Noticed (events ++ [event]) event := by
  constructor
  · rintro ⟨done, last, hprefix, hnoticed⟩
    rcases List.prefix_concat_iff.mp hprefix with hall | hbefore
    · obtain ⟨rfl, hlast⟩ := List.append_inj' hall rfl
      obtain rfl := List.singleton_inj.mp hlast
      exact .inr hnoticed
    · exact .inl ⟨done, last, hbefore, hnoticed⟩
  · rintro (⟨done, last, hprefix, hnoticed⟩ | hnoticed)
    · exact ⟨done, last, hprefix.trans (List.prefix_append _ _), hnoticed⟩
    · exact ⟨events, event, List.prefix_refl _, hnoticed⟩

/-- Events that arrive in the order of their time stamps are noticed if they name five users. -/
theorem noticedInOrder_of_chronological {events : List CanonicalEvent}
    (hsorted : events.Pairwise fun e e' => e.timestamp.instant ≤ e'.timestamp.instant)
    (husers : 5 ≤ (usersOf events).length) : NoticedInOrder events := by
  rcases List.eq_nil_or_concat events with rfl | ⟨done, last, rfl⟩
  · exact absurd husers (by decide)
  · rw [List.concat_eq_append] at hsorted husers ⊢
    refine ⟨done, last, List.prefix_refl _, ?_⟩
    have hall : (done ++ [last]).filter (fun e =>
        e.timestamp.instant ≤ last.timestamp.instant) = done ++ [last] := by
      refine List.filter_eq_self.mpr fun e he => decide_eq_true ?_
      rcases List.mem_append.mp he with hbefore | hlast
      · exact (List.pairwise_append.mp hsorted).2.2 e hbefore last (List.mem_singleton_self _)
      · rw [List.mem_singleton.mp hlast]
    unfold Noticed
    rw [hall]
    exact husers

/-! ### What the rule selects -/

theorem length_usersOf_eq {events events' : List CanonicalEvent} (h : events.Perm events') :
    (usersOf events).length = (usersOf events').length := by
  have hnames := (h.filter fun item => given (eventUser item)).filterMap eventUser
  refine List.Perm.length_eq ((List.perm_ext_iff_of_nodup (nodup_toSet _) (nodup_toSet _)).mpr ?_)
  intro name
  rw [mem_toSet, mem_toSet]
  exact hnames.mem_iff

section

variable {tenantId ip : String} {events : List CanonicalEvent} {event : CanonicalEvent}

/-- The test of the window, on the series: whether the event is not later. -/
theorem SprayEvents.inWindow_eq (h : SprayEvents tenantId ip events) (hevent : event ∈ events)
    {since : DateTime} (hsince : event.timestamp.before 600 = .ok since) {e : CanonicalEvent}
    (he : e ∈ events) :
    inWindow event.tenantId since event.timestamp
      { category := some "authentication", outcome := some .failure, srcIp := event.srcIp } e =
        .ok (decide (e.timestamp.instant ≤ event.timestamp.instant)) := by
  have hbegin := DateTime.before_spec hsince
  have hcomparable := h.comparable e he event hevent
  have hearly : e.timestamp.lt since = .ok false := by
    have hsame : e.timestamp.Comparable since := by
      unfold DateTime.Comparable
      rw [hbegin.2]
      exact hcomparable
    have hclose := h.close event hevent e he
    rw [hsame.lt_eq, hbegin.1]
    congr 1
    exact decide_eq_false (by omega)
  have hadmits : Filters.admits
      { category := some "authentication", outcome := some .failure, srcIp := event.srcIp } e =
        true := by
    have hfailure := h.failures e he
    unfold isAuthFailure at hfailure
    rw [decide_eq_true_eq] at hfailure
    obtain ⟨hcategory, -, houtcome⟩ := hfailure
    rw [h.source event hevent]
    simp [Filters.admits, passes, given, orText, hcategory, houtcome, h.source e he]
  unfold inWindow
  rw [if_neg (by rw [h.tenant e he, h.tenant event hevent]; simp), hearly, hcomparable.symm.lt_eq,
    hadmits]
  show Except.ok _ = _
  congr 1
  rw [Bool.and_true, ← decide_not]
  exact decide_eq_decide.mpr Int.not_lt

/-- The window of an event of the series are those that are not later. -/
theorem SprayEvents.window (h : SprayEvents tenantId ip events) (hevent : event ∈ events)
    {context : DetectionContext} (hwindow : context.window ⊆ events)
    {related : List CanonicalEvent} (hrun : context.eventsInWindow event 600
      { category := some "authentication", outcome := some .failure, srcIp := event.srcIp } =
        .ok related) :
    related = context.window.filter fun e => e.timestamp.instant ≤ event.timestamp.instant := by
  unfold DetectionContext.eventsInWindow at hrun
  cases hsince : event.timestamp.before 600 with
  | error e =>
      rw [hsince] at hrun
      cases hrun
  | ok since =>
      have hfilter := filterRaising_eq fun e he => h.inWindow_eq hevent hsince (hwindow he)
      rw [hsince] at hrun
      exact (Except.ok.inj (hfilter.symm.trans hrun)).symm

/-- The rule selects an event of the series if it is noticed. -/
theorem SprayEvents.selects (h : SprayEvents tenantId ip events) (hevent : event ∈ events)
    {context : DetectionContext} (hwindow : context.window.Perm events) {rt : Runtime}
    {selected : Option Selection}
    (hrun : passwordSprayRule.selects rt context event = .ok selected) :
    selected.isSome = true ↔ ip ≠ "" ∧ Noticed events event := by
  have hfailure := h.failures event hevent
  have hsource := h.source event hevent
  change (if isAuthFailure event ∧ given event.srcIp then _ else _) = _ at hrun
  by_cases hip : ip = ""
  · have hgiven : given event.srcIp = false := by
      rw [hsource, hip]
      rfl
    rw [if_neg (by simp [hgiven])] at hrun
    obtain rfl := Except.ok.inj hrun
    simp [hip]
  · have hgiven : given event.srcIp = true := by
      rw [hsource]
      simp [given, orText, hip]
    rw [if_pos ⟨hfailure, hgiven⟩] at hrun
    cases hrelated : context.eventsInWindow event 600
        { category := some "authentication", outcome := some .failure, srcIp := event.srcIp } with
    | error e =>
        rw [hrelated] at hrun
        cases hrun
    | ok related =>
        have hcount : (usersOf related).length = (usersOf (events.filter fun e =>
            e.timestamp.instant ≤ event.timestamp.instant)).length := by
          rw [h.window hevent hwindow.subset hrelated]
          exact length_usersOf_eq (hwindow.filter _)
        rw [hrelated] at hrun
        change (if (usersOf related).length < 5 then _ else _) = _ at hrun
        unfold Noticed
        rw [← hcount]
        by_cases hfew : (usersOf related).length < 5
        · rw [if_pos hfew] at hrun
          obtain rfl := Except.ok.inj hrun
          simp [hfew]
        · rw [if_neg hfew] at hrun
          obtain rfl := Except.ok.inj hrun
          simpa [hip] using hfew

end

end BlueTeam.Detection
