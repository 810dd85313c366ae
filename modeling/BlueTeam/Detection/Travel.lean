/- GID: BlueTeam/Detection/Travel
   generality: I
   source: detections/python/identity/impossible_travel.py
   digest: Which logins from another country the impossible travel rule reports. -/

import BlueTeam.Detection.Windows

set_option autoImplicit false
set_option relaxedAutoImplicit false

namespace BlueTeam.Detection

open BlueTeam.Python BlueTeam.Schema BlueTeam.Lib

/-! ### The loop over the earlier logins -/

/-- The country of the event is known, and it is not the given one. -/
def Elsewhere (rt : Runtime) (current : String) (event : CanonicalEvent) (other : String) : Prop :=
  countryOf rt event = .ok (some other) ∧ other ≠ "" ∧ other ≠ current

/-- The look at the country of the event finds none, or the given one. -/
def NotElsewhere (rt : Runtime) (current : String) (event : CanonicalEvent) : Prop :=
  ∃ country, countryOf rt event = .ok country ∧ ¬ (given country = true ∧ country ≠ some current)

section

variable {rt : Runtime} {current other : String} {item : CanonicalEvent}
  {items : List CanonicalEvent}

theorem NotElsewhere.not_elsewhere (h : NotElsewhere rt current item) :
    ¬ Elsewhere rt current item other := by
  rintro ⟨hcountry, hother, hdiffers⟩
  obtain ⟨country, hlooked, hnot⟩ := h
  obtain rfl := Except.ok.inj (hlooked.symm.trans hcountry)
  refine hnot ⟨?_, fun hsame => hdiffers (Option.some.inj hsame)⟩
  simpa [given, orText] using hother

theorem otherCountry_skip (h : NotElsewhere rt current item) :
    otherCountry rt current (item :: items) = otherCountry rt current items := by
  obtain ⟨country, hlooked, hnot⟩ := h
  rw [otherCountry, hlooked]
  exact if_neg hnot

theorem otherCountry_stop (h : Elsewhere rt current item other) :
    otherCountry rt current (item :: items) = .ok (some (item, other)) := by
  obtain ⟨hcountry, hother, hdiffers⟩ := h
  have hgiven : given (some other) = true := by simpa [given, orText] using hother
  rw [otherCountry, hcountry]
  exact if_pos ⟨hgiven, fun hsame => hdiffers (Option.some.inj hsame)⟩

/-- One look: at a login from elsewhere, at another one, or it raises. -/
theorem countryOf_cases (rt : Runtime) (current : String) (item : CanonicalEvent) :
    (∃ other, Elsewhere rt current item other) ∨ NotElsewhere rt current item ∨
      ∃ e, countryOf rt item = .error e := by
  cases hlooked : countryOf rt item with
  | error e => exact .inr (.inr ⟨e, rfl⟩)
  | ok country =>
      by_cases hdiffers : given country = true ∧ country ≠ some current
      · left
        cases country with
        | none => exact absurd hdiffers.1 (by simp [given, orText])
        | some other =>
            refine ⟨other, hlooked, ?_, fun hsame => hdiffers.2 (congrArg some hsame)⟩
            simpa [given, orText] using hdiffers.1
      · exact .inr (.inl ⟨country, hlooked, hdiffers⟩)

/-- The loop runs through exactly if no login is from elsewhere. -/
theorem otherCountry_none_iff : otherCountry rt current items = .ok none ↔
    ∀ e ∈ items, NotElsewhere rt current e := by
  induction items with
  | nil => exact ⟨fun _ e he => absurd he List.not_mem_nil, fun _ => rfl⟩
  | cons item items ih =>
      rw [List.forall_mem_cons, ← ih]
      rcases countryOf_cases rt current item with ⟨other, helse⟩ | hnot | ⟨e, hraises⟩
      · rw [otherCountry_stop helse]
        constructor
        · intro h
          cases h
        · exact fun h => absurd helse h.1.not_elsewhere
      · rw [otherCountry_skip hnot, and_iff_right hnot]
      · rw [otherCountry, hraises]
        constructor
        · intro h
          cases h
        · rintro ⟨⟨country, hlooked, -⟩, -⟩
          rw [hraises] at hlooked
          cases hlooked

/-- The loop stops at the first login from elsewhere, if it gets there. -/
theorem otherCountry_some_iff : otherCountry rt current items = .ok (some (item, other)) ↔
    ∃ passed rest, items = passed ++ item :: rest ∧ (∀ e ∈ passed, NotElsewhere rt current e) ∧
      Elsewhere rt current item other := by
  induction items with
  | nil =>
      constructor
      · intro h
        cases h
      · rintro ⟨passed, rest, hsplit, -⟩
        simp at hsplit
  | cons first items ih =>
      rcases countryOf_cases rt current first with ⟨there, helse⟩ | hnot | ⟨e, hraises⟩
      · rw [otherCountry_stop helse]
        constructor
        · intro h
          obtain ⟨rfl, rfl⟩ := Prod.mk.inj (Option.some.inj (Except.ok.inj h))
          exact ⟨[], items, rfl, by simp, helse⟩
        · rintro ⟨passed, rest, hsplit, hpassed, hitem⟩
          cases passed with
          | nil =>
              obtain ⟨rfl, -⟩ := List.cons.inj hsplit
              obtain rfl := Option.some.inj (Except.ok.inj (helse.1.symm.trans hitem.1))
              rfl
          | cons skipped passed =>
              obtain ⟨rfl, -⟩ := List.cons.inj hsplit
              exact absurd helse (hpassed first List.mem_cons_self).not_elsewhere
      · rw [otherCountry_skip hnot, ih]
        constructor
        · rintro ⟨passed, rest, rfl, hpassed, hitem⟩
          exact ⟨first :: passed, rest, rfl, List.forall_mem_cons.mpr ⟨hnot, hpassed⟩, hitem⟩
        · rintro ⟨passed, rest, hsplit, hpassed, hitem⟩
          cases passed with
          | nil =>
              obtain ⟨rfl, -⟩ := List.cons.inj hsplit
              exact absurd hitem hnot.not_elsewhere
          | cons skipped passed =>
              obtain ⟨-, rfl⟩ := List.cons.inj hsplit
              exact ⟨passed, rest, rfl, (List.forall_mem_cons.mp hpassed).2, hitem⟩
      · rw [otherCountry, hraises]
        constructor
        · intro h
          cases h
        · rintro ⟨passed, rest, hsplit, hpassed, hitem⟩
          cases passed with
          | nil =>
              obtain ⟨rfl, -⟩ := List.cons.inj hsplit
              obtain ⟨hlooked, -⟩ := hitem
              rw [hraises] at hlooked
              cases hlooked
          | cons skipped passed =>
              obtain ⟨rfl, -⟩ := List.cons.inj hsplit
              obtain ⟨country, hlooked, -⟩ := hpassed first List.mem_cons_self
              rw [hraises] at hlooked
              cases hlooked

end

/-! ### What the rule returns -/

/-- A success of the same account in the two hours up to the event. -/
def PriorSuccess (event e : CanonicalEvent) : Prop :=
  e.tenantId = event.tenantId ∧ Within 7200 event e ∧
    (given (eventUser event) = true ∧ eventUser e = eventUser event) ∧
      e.id ≠ event.id ∧ isAuthSuccess e = true

instance (event e : CanonicalEvent) : Decidable (PriorSuccess event e) :=
  inferInstanceAs (Decidable (_ ∧ _))

def priorSuccesses (context : DetectionContext) (event : CanonicalEvent) : List CanonicalEvent :=
  context.window.filter fun e => PriorSuccess event e

/-- The fingerprint of a pair of countries, for the account on the day of the event. -/
def pairFingerprint (event : CanonicalEvent) (other current : String) : String :=
  impossibleTravelRule.fingerprint event.tenantId (showText (eventUser event) ++ ":" ++ other ++
    "->" ++ current ++ ":" ++ event.timestamp.dateIso)

section

variable {rt : Runtime} {context : DetectionContext} {event : CanonicalEvent} {current : String}

theorem successesOf_admits (hgiven : given (eventUser event) = true) {e : CanonicalEvent} :
    (Filters.admits
      { category := some "authentication", outcome := some .success
        userName := eventUser event } e = true ∧ isAuthSuccess e = true) ↔
      eventUser e = eventUser event ∧ isAuthSuccess e = true := by
  have huser := @passes_of_given (eventUser event) (eventUser e) hgiven
  refine and_congr_left fun hsuccess => ?_
  unfold isAuthSuccess at hsuccess
  rw [decide_eq_true_eq] at hsuccess
  obtain ⟨hcategory, -, houtcome⟩ := hsuccess
  simp only [Filters.admits, Bool.and_eq_true, huser]
  simp [passes, given, orText, hcategory, houtcome]

/-- The earlier logins the loop runs over. -/
theorem prior_eq {window : List CanonicalEvent} (hgiven : given (eventUser event) = true)
    (hwindow : context.eventsInWindow event 7200
      { category := some "authentication", outcome := some .success
        userName := eventUser event } = .ok window) :
    (window.filter fun item => item.id ≠ event.id ∧ isAuthSuccess item) =
      priorSuccesses context event := by
  obtain ⟨-, hcomparable⟩ := eventsInWindow_ok_iff.mp ⟨window, hwindow⟩
  rw [eventsInWindow_eq hwindow, List.filter_filter]
  refine List.filter_congr fun e he => ?_
  rw [← Bool.decide_and]
  refine decide_eq_decide.mpr ?_
  have hadmits := @successesOf_admits event hgiven e
  unfold PriorSuccess
  constructor
  · rintro ⟨⟨hid, hsuccess⟩, htenant, -, hwithin, hpasses⟩
    exact ⟨htenant, hwithin, ⟨hgiven, (hadmits.mp ⟨hpasses, hsuccess⟩).1⟩, hid, hsuccess⟩
  · rintro ⟨htenant, hwithin, ⟨-, huser⟩, hid, hsuccess⟩
    exact ⟨⟨hid, hsuccess⟩, htenant, hcomparable e he htenant, hwithin,
      (hadmits.mpr ⟨huser, hsuccess⟩).1⟩

/-- What the rule selects for a pair. -/
def pairSelection (event : CanonicalEvent) (current : String) (found : CanonicalEvent × String) :
    Selection where
  tail := showText (eventUser event) ++ ":" ++ found.2 ++ "->" ++ current ++ ":" ++
    event.timestamp.dateIso
  related := [found.1, event]
  explanation := s!"Account {showText (eventUser event)} authenticated from {found.2} then {current} " ++
    "within 7200s (GeoIP fixture abstraction)."

/-- The event is a success with a known country. -/
structure Located (rt : Runtime) (event : CanonicalEvent) (current : String) : Prop where
  success : isAuthSuccess event = true
  country : countryOf rt event = .ok (some current)
  known : current ≠ ""

theorem Located.selects_anonymous (h : given (eventUser event) = false) :
    impossibleTravelRule.selects rt context event = .ok none := by
  change (if isAuthSuccess event ∧ given (eventUser event) then _ else _) = _
  rw [if_neg (by simp [h])]
  rfl

theorem Located.selects_eq (h : Located rt event current)
    (hgiven : given (eventUser event) = true) :
    impossibleTravelRule.selects rt context event = (do
      let _ ← context.eventsInWindow event 7200
        { category := some "authentication", outcome := some .success
          userName := eventUser event }
      let found ← otherCountry rt current (priorSuccesses context event)
      pure (found.map (pairSelection event current))) := by
  have hcurrent : given (some current) = true := by simpa [given, orText] using h.known
  change (if isAuthSuccess event ∧ given (eventUser event) then _ else _) = _
  rw [if_pos ⟨h.success, hgiven⟩, h.country]
  change (if given (some current) then _ else _) = _
  rw [if_pos hcurrent]
  cases hwindow : context.eventsInWindow event 7200
      { category := some "authentication", outcome := some .success
        userName := eventUser event } with
  | error e => rfl
  | ok window =>
      have hprior := prior_eq hgiven hwindow
      change (otherCountry rt current (window.filter fun item =>
        item.id ≠ event.id ∧ isAuthSuccess item) >>= _) = otherCountry rt current _ >>= _
      rw [hprior]
      rfl

theorem priorSuccesses_anonymous (h : given (eventUser event) = false) :
    priorSuccesses context event = [] := by
  refine List.filter_eq_nil_iff.mpr fun e _ => ?_
  rw [decide_eq_true_eq]
  rintro ⟨-, -, ⟨hgiven, -⟩, -⟩
  rw [h] at hgiven
  cases hgiven

theorem identityAttributes_ok (h : given (eventUser event) = true) :
    ∃ attributes, identityAttributes event = .ok attributes := by
  unfold identityAttributes
  cases huser : event.user with
  | none => exact ⟨_, rfl⟩
  | some user =>
      dsimp only
      cases hname : user.name with
      | some name => exact ⟨_, rfl⟩
      | none =>
          simp [eventUser, huser, hname, given, orText] at h

theorem Elsewhere.unique {other there : String} {item : CanonicalEvent}
    (h : Elsewhere rt current item other) (h' : Elsewhere rt current item there) : other = there :=
  Option.some.inj (Except.ok.inj (h.1.symm.trans h'.1))

/-- Some earlier success is from another country, and the pair is not open. -/
def Unreported (rt : Runtime) (context : DetectionContext) (event : CanonicalEvent)
    (current : String) (items : List CanonicalEvent) : Prop :=
  ∃ item ∈ items, ∃ other, Elsewhere rt current item other ∧
    pairFingerprint event other current ∉ context.openFingerprints

/-- The rule finds a pair that is not open if there is one, and nothing else. -/
structure Complete (rt : Runtime) (context : DetectionContext) (event : CanonicalEvent)
    (current : String) (result : Except Exn (List Finding)) : Prop where
  found : Unreported rt context event current (priorSuccesses context event) →
    ∃ findings, result = .ok findings ∧
      ∃ finding ∈ findings, finding.fingerprint ∉ context.openFingerprints
  silent : ¬ Unreported rt context event current (priorSuccesses context event) → result = .ok []

/-- The window can be read, and the loop over the earlier successes raises nothing before the first
one from another country; the pair of that one is not open, or all pairs are. -/
structure Unobstructed (rt : Runtime) (context : DetectionContext) (event : CanonicalEvent)
    (current : String) : Prop where
  window : given (eventUser event) = true →
    7200 * DateTime.second ≤ event.timestamp.wall ∧
      ∀ e ∈ context.window, e.tenantId = event.tenantId → e.timestamp.Comparable event.timestamp
  loop : (∀ e ∈ priorSuccesses context event, NotElsewhere rt current e) ∨
    ∃ passed item rest other, priorSuccesses context event = passed ++ item :: rest ∧
      (∀ e ∈ passed, NotElsewhere rt current e) ∧ Elsewhere rt current item other ∧
      (pairFingerprint event other current ∉ context.openFingerprints ∨
        ¬ Unreported rt context event current (priorSuccesses context event))

theorem not_unreported {items : List CanonicalEvent}
    (h : ∀ e ∈ items, NotElsewhere rt current e) :
    ¬ Unreported rt context event current items := by
  rintro ⟨item, hitem, other, helse, -⟩
  exact (h item hitem).not_elsewhere helse

theorem not_complete_of_error {e : Exn} :
    ¬ Complete rt context event current (.error e) := by
  intro h
  by_cases hunreported : Unreported rt context event current (priorSuccesses context event)
  · obtain ⟨findings, hfindings, -⟩ := h.found hunreported
    cases hfindings
  · cases h.silent hunreported

theorem complete_nil_iff : Complete rt context event current (.ok []) ↔
    ¬ Unreported rt context event current (priorSuccesses context event) := by
  constructor
  · intro h hunreported
    obtain ⟨findings, hfindings, finding, hfinding, -⟩ := h.found hunreported
    obtain rfl := Except.ok.inj hfindings
    exact List.not_mem_nil hfinding
  · exact fun h => ⟨fun hunreported => absurd hunreported h, fun _ => rfl⟩

end

/-- A success from a known country: the rule is complete for it exactly if nothing obstructs the loop
over the earlier ones. -/
theorem impossibleTravel_complete_iff (rt : Runtime) (context : DetectionContext)
    {event : CanonicalEvent} {current : String} (located : Located rt event current) (t : Ticks) :
    Complete rt context event current (impossibleTravelRule.evaluate rt event context t).1 ↔
      Unobstructed rt context event current := by
  cases hgiven : given (eventUser event) with
  | false =>
      have hprior := @priorSuccesses_anonymous context event hgiven
      rw [evaluate_none (Located.selects_anonymous hgiven), complete_nil_iff, hprior]
      constructor
      · intro _
        refine ⟨fun h => ?_, .inl ?_⟩
        · rw [hgiven] at h
          cases h
        · rw [hprior]
          simp
      · exact fun _ => not_unreported (by simp)
  | true =>
      have hselects := @Located.selects_eq rt context event current located hgiven
      cases hwindow : context.eventsInWindow event 7200
          { category := some "authentication", outcome := some .success
            userName := eventUser event } with
      | error e =>
          rw [hwindow] at hselects
          rw [evaluate_raises hselects]
          refine ⟨fun h => absurd h not_complete_of_error, fun h => ?_⟩
          obtain ⟨window, hruns⟩ := eventsInWindow_ok_iff.mpr (h.window hgiven)
          rw [hwindow] at hruns
          cases hruns
      | ok window =>
          have hruns := eventsInWindow_ok_iff.mp ⟨window, hwindow⟩
          rw [hwindow] at hselects
          change _ = otherCountry rt current _ >>= _ at hselects
          cases hother : otherCountry rt current (priorSuccesses context event) with
          | error e =>
              rw [hother] at hselects
              rw [evaluate_raises hselects]
              refine ⟨fun h => absurd h not_complete_of_error, fun h => ?_⟩
              rcases h.loop with hnone | ⟨passed, item, rest, other, hsplit, hpassed, hitem, -⟩
              · rw [otherCountry_none_iff.mpr hnone] at hother
                cases hother
              · rw [otherCountry_some_iff.mpr ⟨passed, rest, hsplit, hpassed, hitem⟩] at hother
                cases hother
          | ok found =>
              rw [hother] at hselects
              cases found with
              | none =>
                  have hnone := otherCountry_none_iff.mp hother
                  rw [evaluate_none hselects, complete_nil_iff]
                  exact ⟨fun _ => ⟨fun _ => hruns, .inl hnone⟩, fun _ => not_unreported hnone⟩
              | some found =>
                  obtain ⟨item, other⟩ := found
                  obtain ⟨passed, rest, hsplit, hpassed, hitem⟩ := otherCountry_some_iff.mp hother
                  by_cases hclosed : pairFingerprint event other current ∉ context.openFingerprints
                  · obtain ⟨attributes, hattributes⟩ := identityAttributes_ok hgiven
                    obtain ⟨finding, hrun, hdrawn, -⟩ :=
                      @evaluate_closed _ _ _ _ _ t _ hselects hclosed hattributes
                    rw [hrun]
                    refine ⟨fun _ => ⟨fun _ => hruns, .inr ⟨passed, item, rest, other, hsplit, hpassed,
                      hitem, .inl hclosed⟩⟩, fun _ => ⟨fun _ => ⟨[finding], rfl, finding,
                        List.mem_singleton_self _, hdrawn.closed⟩, fun hnone => ?_⟩⟩
                    exact absurd ⟨item, by rw [hsplit]; simp, other, hitem, hclosed⟩ hnone
                  · rw [evaluate_open hselects (not_not.mp hclosed), complete_nil_iff]
                    constructor
                    · exact fun hnone => ⟨fun _ => hruns, .inr ⟨passed, item, rest, other, hsplit,
                        hpassed, hitem, .inr hnone⟩⟩
                    · rintro ⟨-, hnone | ⟨passed', item', rest', other', hsplit', hpassed', hitem',
                        hclosed' | hnone⟩⟩
                      · exact not_unreported hnone
                      · rw [otherCountry_some_iff.mpr ⟨passed', rest', hsplit', hpassed', hitem'⟩]
                          at hother
                        obtain ⟨rfl, rfl⟩ := Prod.mk.inj (Option.some.inj (Except.ok.inj hother))
                        exact absurd hclosed' hclosed
                      · exact hnone

/-- A success of alice, from a country. -/
def loginFrom (id country : String) (seconds : Int) : CanonicalEvent where
  id := id
  tenantId := "acme"
  timestamp := ⟨63839761325000000 + seconds * DateTime.second, some 0⟩
  ingestedAt := ⟨63839761325000000, some 0⟩
  source := "idp"
  sourceType := "idp"
  eventType := "login"
  category := "authentication"
  outcome := some .success
  user := some { name := some "alice" }
  attributes := [("geoip", .obj [("country", .str country)])]

/-- Logins from two countries in the two hours before one from a third. -/
def travels : List CanonicalEvent :=
  [loginFrom "e1" "FR" 0, loginFrom "e2" "US" 600, loginFrom "e3" "DE" 1200]

theorem located_travels : Located sampleRuntime (loginFrom "e3" "DE" 1200) "DE" where
  success := by decide
  country := rfl
  known := by decide

theorem impossibleTravel_complete_travels :
    Complete sampleRuntime { window := travels, openFingerprints := [] }
      (loginFrom "e3" "DE" 1200) "DE"
      (impossibleTravelRule.evaluate sampleRuntime (loginFrom "e3" "DE" 1200)
        { window := travels, openFingerprints := [] } {}).1 := by
  refine (impossibleTravel_complete_iff sampleRuntime _ located_travels {}).mpr ⟨fun _ => ?_, .inr ?_⟩
  · decide
  · exact ⟨[], loginFrom "e1" "FR" 0, [loginFrom "e2" "US" 600], "FR", by decide, by simp,
      ⟨rfl, by decide, by decide⟩, .inl (by simp)⟩

/-- The pair of the first login is open: nothing is found, although the pair of the second is not. -/
theorem impossibleTravel_not_complete :
    Elsewhere sampleRuntime "DE" (loginFrom "e2" "US" 600) "US" ∧
      pairFingerprint (loginFrom "e3" "DE" 1200) "US" "DE" =
        "identity.impossible_travel:acme:alice:US->DE:2024-01-02" ∧
      ¬ Complete sampleRuntime
        { window := travels
          openFingerprints := ["identity.impossible_travel:acme:alice:FR->DE:2024-01-02"] }
        (loginFrom "e3" "DE" 1200) "DE"
        (impossibleTravelRule.evaluate sampleRuntime (loginFrom "e3" "DE" 1200)
          { window := travels
            openFingerprints := ["identity.impossible_travel:acme:alice:FR->DE:2024-01-02"] }
          {}).1 := by
  have helse : Elsewhere sampleRuntime "DE" (loginFrom "e2" "US" 600) "US" :=
    ⟨rfl, by decide, by decide⟩
  refine ⟨helse, by decide, fun complete => ?_⟩
  obtain ⟨findings, hrun, finding, hfinding, -⟩ := complete.found
    ⟨loginFrom "e2" "US" 600, by decide, "US", helse, by decide⟩
  have hnone : findings = [] := Except.ok.inj (hrun.symm.trans rfl)
  rw [hnone] at hfinding
  exact List.not_mem_nil hfinding

end BlueTeam.Detection
