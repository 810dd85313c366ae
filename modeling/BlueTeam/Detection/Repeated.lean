/- GID: BlueTeam/Detection/Repeated
   generality: I
   source: detections/python/identity/repeated_failures.py, _common.py
   digest: The logins that were the fifth failure when they arrived. -/

import BlueTeam.Detection.Notices
import BlueTeam.Detection.Windows
import BlueTeam.Lib.Firsts

set_option autoImplicit false
set_option relaxedAutoImplicit false

namespace BlueTeam.Detection

open BlueTeam.Python BlueTeam.Schema BlueTeam.Lib

instance (event : CanonicalEvent) : Decidable (isFailedAuthentication event) :=
  inferInstanceAs (Decidable (_ ∧ _))

/-- Events of one account of a tenant. -/
structure AccountEvents (tenantId account : String) (events : List CanonicalEvent) : Prop where
  named : account ≠ ""
  tenant : ∀ e ∈ events, e.tenantId = tenantId
  user : ∀ e ∈ events, eventUser e = some account

/-- How many authentication failures of the event's user there are in the 900 seconds up to it. -/
def failureCount (events : List CanonicalEvent) (event : CanonicalEvent) : Nat :=
  events.countP fun e => isFailedAuthentication e ∧ eventUser e = eventUser event ∧
    Within 900 event e

/-- A failed login with exactly five failures in its window when it arrives. -/
def Fifth (arrived : List CanonicalEvent) (event : CanonicalEvent) : Prop :=
  isAuthFailure event = true ∧ failureCount (arrived ++ [event]) event = 5

instance (arrived : List CanonicalEvent) (event : CanonicalEvent) :
    Decidable (Fifth arrived event) :=
  inferInstanceAs (Decidable (_ ∧ _))

/-- Those of some events that are fifth failures, each when it arrives after the others. -/
def fifthsFrom (arrived : List CanonicalEvent) : List CanonicalEvent → List CanonicalEvent
  | [] => []
  | event :: events =>
      (if Fifth arrived event then [event] else []) ++ fifthsFrom (arrived ++ [event]) events

def fifths (events : List CanonicalEvent) : List CanonicalEvent :=
  fifthsFrom [] events

/-- The hour of the fingerprint. -/
def hourBucket (event : CanonicalEvent) : String :=
  event.timestamp.toHour.isoformat

theorem fifthsFrom_concat (arrived events : List CanonicalEvent) (event : CanonicalEvent) :
    fifthsFrom arrived (events ++ [event]) = fifthsFrom arrived events ++
      if Fifth (arrived ++ events) event then [event] else [] := by
  induction events generalizing arrived with
  | nil => simp [fifthsFrom]
  | cons first events ih =>
      have hassoc : arrived ++ [first] ++ events = arrived ++ first :: events := by simp
      rw [List.cons_append, fifthsFrom, fifthsFrom, ih, hassoc, List.append_assoc]

theorem fifths_concat (events : List CanonicalEvent) (event : CanonicalEvent) :
    fifths (events ++ [event]) = fifths events ++ if Fifth events event then [event] else [] :=
  fifthsFrom_concat [] events event

theorem fifthsFrom_subset (arrived events : List CanonicalEvent) :
    fifthsFrom arrived events ⊆ events := by
  induction events generalizing arrived with
  | nil => exact List.Subset.refl _
  | cons event events ih =>
      rw [fifthsFrom]
      refine List.append_subset.mpr ⟨?_, List.Subset.trans (ih _) (List.subset_cons_self _ _)⟩
      split_ifs <;> simp

/-- The fifth failures under which the rule opens a fingerprint: the first ones of their hours. -/
def openers (events : List CanonicalEvent) : List CanonicalEvent :=
  firsts hourBucket [] (fifths events)

theorem openers_concat (events : List CanonicalEvent) (event : CanonicalEvent) :
    openers (events ++ [event]) = openers events ++
      if Fifth events event ∧ hourBucket event ∉ (openers events).map hourBucket then [event]
      else [] := by
  have hkeys := mem_keys_firsts hourBucket [] (fifths events) (hourBucket event)
  rw [List.nil_append, List.nil_append] at hkeys
  unfold openers
  rw [fifths_concat]
  by_cases hfifth : Fifth events event
  · rw [if_pos hfifth, firsts_concat, List.nil_append]
    by_cases hknown : hourBucket event ∈ (fifths events).map hourBucket
    · rw [if_pos hknown, if_neg fun h => h.2 (hkeys.mpr hknown)]
    · rw [if_neg hknown, if_pos ⟨hfifth, fun h => hknown (hkeys.mp h)⟩]
  · rw [if_neg hfifth, if_neg fun h => hfifth h.1, List.append_nil, List.append_nil]

theorem mem_openers_hour {events : List CanonicalEvent} {hour : String} :
    hour ∈ (openers events).map hourBucket ↔ ∃ t ∈ fifths events, hourBucket t = hour := by
  have hkeys := mem_keys_firsts hourBucket [] (fifths events) hour
  rw [List.nil_append, List.nil_append] at hkeys
  exact hkeys.trans List.mem_map

theorem openers_subset (events : List CanonicalEvent) : openers events ⊆ events :=
  fun _ h => fifthsFrom_subset [] events (mem_of_mem_firsts h).1

/-! ### What the rule selects -/

section

variable {rt : Runtime} {tenantId account : String} {events : List CanonicalEvent}
  {event : CanonicalEvent} {context : DetectionContext}

theorem AccountEvents.mono {more : List CanonicalEvent} (h : AccountEvents tenantId account more)
    (hsub : events ⊆ more) : AccountEvents tenantId account events :=
  ⟨h.named, fun e he => h.tenant e (hsub he), fun e he => h.user e (hsub he)⟩

theorem AccountEvents.user_given (h : AccountEvents tenantId account events) (hevent : event ∈ events) :
    given (eventUser event) = true := by
  rw [h.user event hevent]
  simp [Python.given, orText, h.named]

/-- The query of the rule gives the failures of the window. -/
theorem AccountEvents.window (h : AccountEvents tenantId account events) (hevent : event ∈ events)
    (hwindow : context.window.Perm events) {related : List CanonicalEvent}
    (hrun : context.eventsInWindow event 900 (failuresOf event) = .ok related) :
    related.length = failureCount events event := by
  obtain ⟨-, hcomparable⟩ := eventsInWindow_ok_iff.mp ⟨related, hrun⟩
  rw [eventsInWindow_eq hrun, failureCount, ← hwindow.countP_eq, List.countP_eq_length_filter]
  congr 1
  refine List.filter_congr fun e he => decide_eq_decide.mpr ?_
  have hmem := hwindow.subset he
  have htenant : e.tenantId = event.tenantId :=
    (h.tenant e hmem).trans (h.tenant event hevent).symm
  rw [failuresOf_admits (h.user_given hevent)]
  constructor
  · rintro ⟨-, -, hwithin, hfailed, huser⟩
    exact ⟨hfailed, huser, hwithin⟩
  · rintro ⟨hfailed, huser, hwithin⟩
    exact ⟨htenant, hcomparable e he htenant, hwithin, hfailed, huser⟩

/-- The rule selects a failed login with five failures in its window. -/
theorem AccountEvents.selects (h : AccountEvents tenantId account events) (hevent : event ∈ events)
    (hwindow : context.window.Perm events) {selected : Option Selection}
    (hrun : repeatedFailuresRule.selects rt context event = .ok selected) :
    (selected.isSome = true ↔ isAuthFailure event = true ∧ failureCount events event = 5) ∧
      ∀ selection, selected = some selection →
        selection.tail = account ++ ":" ++ hourBucket event ∧ event ∈ selection.related := by
  change (if isAuthFailure event ∧ given (eventUser event) then _ else _) = _ at hrun
  by_cases hfailure : isAuthFailure event = true
  · rw [if_pos ⟨hfailure, h.user_given hevent⟩] at hrun
    obtain ⟨related, hrelated, hrun⟩ := except_of_bind hrun
    have hcount := h.window hevent hwindow hrelated
    split at hrun
    · rename_i hnot
      obtain rfl := Except.ok.inj hrun
      rw [hcount] at hnot
      simp [hnot]
    · rename_i hfive
      obtain rfl := Except.ok.inj hrun
      rw [not_not, hcount] at hfive
      refine ⟨by simp [hfailure, hfive], ?_⟩
      rintro _ ⟨⟩
      refine ⟨?_, ?_⟩
      · show showText (eventUser event) ++ ":" ++ _ = _
        rw [h.user event hevent]
        rfl
      · refine (mem_eventsInWindow hrelated).mpr ⟨hwindow.mem_iff.mpr hevent, rfl, rfl,
          within_self _ _, (failuresOf_admits (h.user_given hevent)).mpr ⟨?_, rfl⟩⟩
        exact (isAuthFailure_iff.mp hfailure).1
  · rw [if_neg fun hboth => hfailure hboth.1] at hrun
    obtain rfl := Except.ok.inj hrun
    simp [hfailure]

end

end BlueTeam.Detection
