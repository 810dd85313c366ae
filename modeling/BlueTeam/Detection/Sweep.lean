/- GID: BlueTeam/Detection/Sweep
   generality: I
   source: detections/python/scheduled/window_sweep.py,
     packages/detection-sdk/blueteam_detection/context.py
   digest: The failures that the scheduled sweep counts together, and what it reports of them. -/

import BlueTeam.Detection.Notices
import BlueTeam.Detection.Repeated
import BlueTeam.Detection.Windows
import BlueTeam.Lib.Firsts

set_option autoImplicit false
set_option relaxedAutoImplicit false

namespace BlueTeam.Detection

open BlueTeam.Python BlueTeam.Schema BlueTeam.Lib

/-- The failures of the day up to the event that the query of the sweep gives: those from its
address, or all of them where it has none. -/
def sweptWith (events : List CanonicalEvent) (event : CanonicalEvent) : List CanonicalEvent :=
  events.filter fun e => isFailedAuthentication e ∧
    (given event.srcIp = true → e.srcIp = event.srcIp) ∧ Within (24 * 3600) event e

/-- A failure that the sweep reports, unless the label of its address is open. -/
def Crowded (events : List CanonicalEvent) (event : CanonicalEvent) : Prop :=
  isFailedAuthentication event ∧ 8 ≤ (sweptWith events event).length

instance (events : List CanonicalEvent) (event : CanonicalEvent) :
    Decidable (Crowded events event) :=
  inferInstanceAs (Decidable (_ ∧ _))

/-- The address as the fingerprint has it. -/
def sweepLabel (event : CanonicalEvent) : String :=
  showText event.srcIp

/-- Those of some events of a window that are crowded in it and come first under a label that is
not open yet. -/
def sweepOpeners (opened : List String) (window events : List CanonicalEvent) :
    List CanonicalEvent :=
  firsts sweepLabel opened (events.filter fun e => Crowded window e)

/-- The first of the crowded failures with its label. -/
def Leads (events : List CanonicalEvent) (event : CanonicalEvent) : Prop :=
  events.find? (fun e => Crowded events e ∧ sweepLabel e = sweepLabel event) = some event

instance (events : List CanonicalEvent) (event : CanonicalEvent) : Decidable (Leads events event) :=
  inferInstanceAs (Decidable (_ = _))

/-- What the sweep selects for a crowded failure. -/
def sweepSelection (events : List CanonicalEvent) (event : CanonicalEvent) : Selection :=
  let related := sweptWith events event
  let src := showText event.srcIp
  let users := usersOf related
  { tail := src
    related := related
    explanation := s!"Scheduled sweep observed {related.length} authentication failures " ++
      s!"from {src} across {users.length} users." }

def sweepNotice (events : List CanonicalEvent) (event : CanonicalEvent) : Notice :=
  ⟨event, sweepSelection events event⟩

/-- There are at least eight failures from the address in a day that ends with one of them. -/
def Swept (events : List CanonicalEvent) (address : Option String) : Prop :=
  ∃ event ∈ events, isFailedAuthentication event ∧ event.srcIp = address ∧
    8 ≤ events.countP fun e =>
      isFailedAuthentication e ∧ e.srcIp = address ∧ Within (24 * 3600) event e

instance (events : List CanonicalEvent) (address : Option String) :
    Decidable (Swept events address) :=
  inferInstanceAs (Decidable (∃ event ∈ events, _))

/-! ### What the rule selects -/

section

variable {rt : Runtime} {context : DetectionContext} {event : CanonicalEvent}

/-- The filter on the address is there only where the event has one. -/
theorem sweepFilter_admits {e : CanonicalEvent} : (failuresFrom event).admits e = true ↔
    isFailedAuthentication e ∧ (given event.srcIp = true → e.srcIp = event.srcIp) := by
  by_cases hgiven : given event.srcIp = true
  · rw [failuresFrom_admits hgiven]
    simp [hgiven]
  · have hcategory : passes (some "authentication") (some e.category) = true ↔
        e.category = "authentication" := by
      rw [passes_of_given (by decide), Option.some.injEq]
    have haddress : passes event.srcIp e.srcIp = true := by
      rw [passes, Bool.eq_false_iff.mpr hgiven]
      rfl
    rw [and_iff_left fun h => absurd h hgiven]
    simp only [failuresFrom, Filters.admits, Bool.and_eq_true, haddress, hcategory]
    simp [passes, given, orText, isFailedAuthentication]
    exact fun _ => decide_eq_true_iff

/-- Among comparable events of one tenant the query gives the failures counted together. -/
theorem sweepQuery_eq (htenant : ∀ e ∈ context.window, e.tenantId = event.tenantId)
    (hcomparable : ∀ e ∈ context.window, e.timestamp.Comparable event.timestamp)
    {related : List CanonicalEvent}
    (h : context.eventsInWindow event (24 * 3600) (failuresFrom event) = .ok related) :
    related = sweptWith context.window event := by
  rw [eventsInWindow_eq h]
  refine List.filter_congr fun e he => decide_eq_decide.mpr ?_
  rw [sweepFilter_admits]
  constructor
  · rintro ⟨-, -, hwithin, hfailed, haddress⟩
    exact ⟨hfailed, haddress, hwithin⟩
  · rintro ⟨hfailed, haddress, hwithin⟩
    exact ⟨htenant e he, hcomparable e he, hwithin, hfailed, haddress⟩

theorem sweep_selects_failed (hscheduled : context.scheduled = true)
    (hfailed : isFailedAuthentication event) :
    scheduledAuthFailureSweep.selects rt context event = (do
      let related ← context.eventsInWindow event (24 * 3600) (failuresFrom event)
      if related.length < 8 then pure none
      else
        let src := showText event.srcIp
        let users := usersOf related
        pure (some
          { tail := src
            related := related
            explanation := s!"Scheduled sweep observed {related.length} authentication failures " ++
              s!"from {src} across {users.length} users." })) :=
  if_pos ⟨hscheduled, hfailed⟩

theorem sweep_selects_other (hfailed : ¬ isFailedAuthentication event) :
    scheduledAuthFailureSweep.selects rt context event = .ok none :=
  if_neg fun h => hfailed h.2

/-- If the sweep does not raise, it selects the crowded failures. -/
theorem sweep_selects_eq (hscheduled : context.scheduled = true)
    (htenant : ∀ e ∈ context.window, e.tenantId = event.tenantId)
    (hcomparable : ∀ e ∈ context.window, e.timestamp.Comparable event.timestamp)
    {selected : Option Selection}
    (h : scheduledAuthFailureSweep.selects rt context event = .ok selected) :
    selected = if Crowded context.window event then some (sweepSelection context.window event)
      else none := by
  by_cases hfailed : isFailedAuthentication event
  · rw [sweep_selects_failed hscheduled hfailed] at h
    obtain ⟨related, hrelated, h⟩ := except_of_bind h
    obtain rfl := sweepQuery_eq htenant hcomparable hrelated
    by_cases hfew : (sweptWith context.window event).length < 8
    · have hnot : ¬ Crowded context.window event := by
        rintro ⟨-, henough⟩
        omega
      rw [if_pos hfew] at h
      rw [if_neg hnot]
      exact (Except.ok.inj h).symm
    · have hcrowded : Crowded context.window event := ⟨hfailed, Nat.not_lt.mp hfew⟩
      rw [if_neg hfew] at h
      rw [if_pos hcrowded]
      exact (Except.ok.inj h).symm
  · rw [sweep_selects_other hfailed] at h
    have hnot : ¬ Crowded context.window event := fun hcrowded => hfailed hcrowded.1
    rw [if_neg hnot]
    exact (Except.ok.inj h).symm

/-- It raises only for a failure of the first day of the calendar. -/
theorem sweep_selects_ok_iff (hscheduled : context.scheduled = true)
    (hcomparable : ∀ e ∈ context.window, e.timestamp.Comparable event.timestamp) :
    (∃ selected, scheduledAuthFailureSweep.selects rt context event = .ok selected) ↔
      (isFailedAuthentication event → 24 * 3600 * DateTime.second ≤ event.timestamp.wall) := by
  have hquery := @eventsInWindow_ok_iff (failuresFrom event) event context (24 * 3600)
  by_cases hfailed : isFailedAuthentication event
  · rw [sweep_selects_failed hscheduled hfailed]
    constructor
    · rintro ⟨selected, h⟩ -
      obtain ⟨related, hrelated, -⟩ := except_of_bind h
      exact (hquery.mp ⟨related, hrelated⟩).1
    · intro h
      obtain ⟨related, hrelated⟩ := hquery.mpr ⟨h hfailed, fun e he _ => hcomparable e he⟩
      rw [hrelated]
      by_cases hfew : related.length < 8
      · exact ⟨none, if_pos hfew⟩
      · exact ⟨_, if_neg hfew⟩
  · rw [sweep_selects_other hfailed]
    exact ⟨fun _ h => absurd h hfailed, fun _ => ⟨none, rfl⟩⟩

end

/-! ### What it notices -/

/-- The event is crowded, and its label is neither open nor that of an event before it. -/
theorem sweepOpeners_concat (opened : List String) (window events : List CanonicalEvent)
    (event : CanonicalEvent) : sweepOpeners opened window (events ++ [event]) =
      sweepOpeners opened window events ++
        if Crowded window event ∧
          sweepLabel event ∉ opened ++ (sweepOpeners opened window events).map sweepLabel
        then [event] else [] := by
  have hkeys := mem_keys_firsts sweepLabel opened (events.filter fun e => Crowded window e)
    (sweepLabel event)
  unfold sweepOpeners
  rw [List.filter_append]
  by_cases hcrowded : Crowded window event
  · rw [List.filter_singleton, decide_eq_true hcrowded, cond_true, firsts_concat]
    by_cases hseen : sweepLabel event ∈
        opened ++ (events.filter fun e => Crowded window e).map sweepLabel
    · rw [if_pos hseen, if_neg fun h => h.2 (hkeys.mpr hseen)]
    · rw [if_neg hseen, if_pos ⟨hcrowded, fun h => hseen (hkeys.mp h)⟩]
  · rw [List.filter_singleton, decide_eq_false hcrowded, cond_false, List.append_nil,
      if_neg fun h => hcrowded h.1, List.append_nil]

theorem mem_sweepOpeners {opened : List String} {events : List CanonicalEvent}
    {event : CanonicalEvent} :
    event ∈ sweepOpeners opened events events ↔ sweepLabel event ∉ opened ∧ Leads events event := by
  rw [sweepOpeners, mem_firsts_iff, Leads, List.find?_filter]
  simp only [Bool.decide_and, decide_eq_true_eq]

/-- All crowded failures of the window have their label open afterwards. -/
theorem sweepOpeners_covers (opened : List String) {window : List CanonicalEvent}
    {event : CanonicalEvent} (hevent : event ∈ window) (hcrowded : Crowded window event) :
    sweepLabel event ∈ opened ++ (sweepOpeners opened window window).map sweepLabel := by
  refine (mem_keys_firsts sweepLabel opened _ _).mpr (List.mem_append_right _ ?_)
  exact List.mem_map_of_mem (List.mem_filter.mpr ⟨hevent, decide_eq_true hcrowded⟩)

/-- What the sweep noticed, now or when fewer events had arrived: a failure, and at least eight
that it counted with it. -/
structure Standing (events : List CanonicalEvent) (n : Notice) : Prop where
  arrived : n.trigger ∈ events
  tail : n.selection.tail = sweepLabel n.trigger
  among : n.trigger ∈ n.selection.related
  counted : n.selection.related.Subperm events
  each : ∀ e ∈ n.selection.related,
    isFailedAuthentication e ∧ Within (24 * 3600) n.trigger e
  enough : 8 ≤ n.selection.related.length

section

variable {rt : Runtime} {context : DetectionContext} {event : CanonicalEvent}
  {events : List CanonicalEvent} {n : Notice} {address : Option String}

theorem Standing.mono {more : List CanonicalEvent} (h : Standing events n)
    (hsub : events.Sublist more) : Standing more n where
  arrived := hsub.subset h.arrived
  tail := h.tail
  among := h.among
  counted := h.counted.trans hsub.subperm
  each := h.each
  enough := h.enough

theorem Standing.perm {others : List CanonicalEvent} (h : Standing events n)
    (hperm : events.Perm others) : Standing others n where
  arrived := hperm.mem_iff.mp h.arrived
  tail := h.tail
  among := h.among
  counted := h.counted.trans hperm.subperm
  each := h.each
  enough := h.enough

/-- A crowded failure. -/
theorem standing_sweepNotice (hevent : event ∈ events) (hcrowded : Crowded events event) :
    Standing events (sweepNotice events event) where
  arrived := hevent
  tail := rfl
  among := List.mem_filter.mpr
    ⟨hevent, decide_eq_true ⟨hcrowded.1, fun _ => rfl, within_self _ _⟩⟩
  counted := List.filter_sublist.subperm
  each e he := by
    obtain ⟨hfailed, -, hwithin⟩ := of_decide_eq_true (List.mem_filter.mp he).2
    exact ⟨hfailed, hwithin⟩
  enough := hcrowded.2

theorem standing_of_selects (hwindow : context.window.Perm events) (hevent : event ∈ events)
    (hscheduled : context.scheduled = true) {selection : Selection}
    (h : scheduledAuthFailureSweep.selects rt context event = .ok (some selection)) :
    Standing events ⟨event, selection⟩ := by
  by_cases hfailed : isFailedAuthentication event
  · rw [sweep_selects_failed hscheduled hfailed] at h
    obtain ⟨related, hrelated, h⟩ := except_of_bind h
    by_cases hfew : related.length < 8
    · rw [if_pos hfew] at h
      cases h
    · rw [if_neg hfew] at h
      obtain rfl := Option.some.inj (Except.ok.inj h)
      have hsub : related.Sublist context.window := by
        rw [eventsInWindow_eq hrelated]
        exact List.filter_sublist
      refine ⟨hevent, rfl, ?_, hsub.subperm.trans hwindow.subperm, ?_, Nat.not_lt.mp hfew⟩
      · refine (mem_eventsInWindow hrelated).mpr
          ⟨hwindow.mem_iff.mpr hevent, rfl, rfl, within_self _ _, ?_⟩
        exact sweepFilter_admits.mpr ⟨hfailed, fun _ => rfl⟩
      · intro e he
        obtain ⟨-, -, -, hwithin, hadmits⟩ := (mem_eventsInWindow hrelated).mp he
        exact ⟨(sweepFilter_admits.mp hadmits).1, hwithin⟩
  · rw [sweep_selects_other hfailed] at h
    cases h

/-- Eight failures of one address. -/
theorem Standing.swept (h : Standing events n)
    (hown : ∀ e ∈ n.selection.related, e.srcIp = n.trigger.srcIp) :
    Swept events n.trigger.srcIp := by
  refine ⟨n.trigger, h.arrived, (h.each _ h.among).1, rfl, ?_⟩
  have hall : n.selection.related.countP (fun e => isFailedAuthentication e ∧
      e.srcIp = n.trigger.srcIp ∧ Within (24 * 3600) n.trigger e) =
        n.selection.related.length := by
    refine List.countP_eq_length.mpr fun e he => decide_eq_true ?_
    exact ⟨(h.each e he).1, hown e he, (h.each e he).2⟩
  have hle := h.counted.countP_le (fun e => isFailedAuthentication e ∧
    e.srcIp = n.trigger.srcIp ∧ Within (24 * 3600) n.trigger e)
  have henough := h.enough
  omega

theorem exists_crowded_of_swept (h : Swept events address) :
    ∃ event ∈ events, Crowded events event ∧ event.srcIp = address := by
  obtain ⟨event, hevent, hfailed, rfl, henough⟩ := h
  refine ⟨event, hevent, ⟨hfailed, ?_⟩, rfl⟩
  have hle : (events.countP fun e => isFailedAuthentication e ∧ e.srcIp = event.srcIp ∧
      Within (24 * 3600) event e) ≤ (sweptWith events event).length := by
    rw [sweptWith, ← List.countP_eq_length_filter]
    refine List.countP_mono_left fun e _ he => ?_
    obtain ⟨hfailed, haddress, hwithin⟩ := of_decide_eq_true he
    exact decide_eq_true ⟨hfailed, fun _ => haddress, hwithin⟩
  omega

end

/-! ### What it reports -/

/-- One notice for each address with eight failures in a day, of no others, and all of them about
failures of their own address. -/
structure Reports (events : List CanonicalEvent) (noticed : List Notice) : Prop where
  counted : ∀ address, (noticed.filter fun n => n.trigger.srcIp = address).length =
    if Swept events address then 1 else 0
  own : ∀ n ∈ noticed, ∀ e ∈ n.selection.related, e.srcIp = n.trigger.srcIp

/-- Only a missing address shares its label with another one. -/
theorem eq_of_showText_eq {a b : Option String} (h : showText a = showText b)
    (hclash : ¬ (a = none ∧ b = some "None") ∧ ¬ (b = none ∧ a = some "None")) : a = b := by
  cases a with
  | none =>
      cases b with
      | none => rfl
      | some text =>
          have htext : text = "None" := h.symm
          subst htext
          exact absurd ⟨rfl, rfl⟩ hclash.1
  | some text =>
      cases b with
      | none =>
          have htext : text = "None" := h
          subst htext
          exact absurd ⟨rfl, rfl⟩ hclash.2
      | some other =>
          have htext : text = other := h
          rw [htext]

section

variable {events : List CanonicalEvent} {noticed : List Notice}

theorem exists_of_length_filter {α : Type} {p : α → Bool} {as : List α}
    (h : (as.filter p).length = 1) : ∃ a ∈ as, p a = true := by
  obtain ⟨a, ha⟩ := List.length_eq_one_iff.mp h
  have hmem : a ∈ as.filter p := by
    rw [ha]
    exact List.mem_singleton_self a
  exact ⟨a, List.mem_filter.mp hmem⟩

/-- Where the labels are distinct and all crowded failures have theirs, the report is exact if every
notice keeps to its address, and not both a missing address and the one that reads the same have
eight failures in a day. -/
theorem reports_iff (hstanding : ∀ n ∈ noticed, Standing events n)
    (hlabels : (noticed.map fun n => sweepLabel n.trigger).Nodup)
    (hcovers : ∀ event ∈ events, Crowded events event →
      sweepLabel event ∈ noticed.map fun n => sweepLabel n.trigger) :
    Reports events noticed ↔
      (∀ n ∈ noticed, ∀ e ∈ n.selection.related, e.srcIp = n.trigger.srcIp) ∧
        ¬ (Swept events none ∧ Swept events (some "None")) := by
  constructor
  · intro h
    refine ⟨h.own, ?_⟩
    rintro ⟨hnone, hnamed⟩
    obtain ⟨n, hn, haddress⟩ := exists_of_length_filter ((h.counted none).trans (if_pos hnone))
    obtain ⟨n', hn', haddress'⟩ :=
      exists_of_length_filter ((h.counted (some "None")).trans (if_pos hnamed))
    have hmissing : n.trigger.srcIp = none := of_decide_eq_true haddress
    have htext : n'.trigger.srcIp = some "None" := of_decide_eq_true haddress'
    have hsame : sweepLabel n.trigger = sweepLabel n'.trigger := by
      rw [sweepLabel, sweepLabel, hmissing, htext]
      rfl
    rw [List.inj_on_of_nodup_map hlabels hn hn' hsame, htext] at hmissing
    cases hmissing
  · rintro ⟨hown, hclash⟩
    have hswept : ∀ n ∈ noticed, Swept events n.trigger.srcIp :=
      fun n hn => (hstanding n hn).swept (hown n hn)
    refine ⟨fun address => ?_, hown⟩
    by_cases haddress : Swept events address
    · rw [if_pos haddress]
      obtain ⟨event, hevent, hcrowded, rfl⟩ := exists_crowded_of_swept haddress
      obtain ⟨n, hn, hsame⟩ := List.mem_map.mp (hcovers event hevent hcrowded)
      have hmine : n.trigger.srcIp = event.srcIp := by
        refine eq_of_showText_eq hsame ⟨?_, ?_⟩
        · rintro ⟨hnone, hnamed⟩
          refine hclash ⟨?_, ?_⟩
          · rw [← hnone]
            exact hswept n hn
          · rw [← hnamed]
            exact haddress
        · rintro ⟨hnone, hnamed⟩
          refine hclash ⟨?_, ?_⟩
          · rw [← hnone]
            exact haddress
          · rw [← hnamed]
            exact hswept n hn
      have hone := Schema.filter_eq_singleton (p := fun n => n.trigger.srcIp = event.srcIp)
        (List.pairwise_map.mp hlabels) hn (decide_eq_true hmine) ?_
      · rw [hone]
        rfl
      · intro other _ hother
        have hlabel : sweepLabel other.trigger = sweepLabel n.trigger := by
          rw [sweepLabel, sweepLabel, of_decide_eq_true hother, hmine]
        exact ⟨fun h => h hlabel, fun h => h hlabel.symm⟩
    · rw [if_neg haddress, List.length_eq_zero_iff]
      refine List.filter_eq_nil_iff.mpr fun n hn hsame => haddress ?_
      rw [← of_decide_eq_true hsame]
      exact hswept n hn

end

end BlueTeam.Detection
