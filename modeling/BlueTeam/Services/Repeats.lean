/- GID: BlueTeam/Services/Repeats
   generality: I
   source: detections/python/identity/repeated_failures.py, services/api/app/services/detection.py
   digest: Which failed logins of an account the rule for repeated failures misses. -/

import BlueTeam.Detection.Repeated
import BlueTeam.Services.Notices
import BlueTeam.Services.Replay

set_option autoImplicit false
set_option relaxedAutoImplicit false

namespace BlueTeam.Services

open BlueTeam.Python BlueTeam.Schema BlueTeam.Lib BlueTeam.Lib.Exec BlueTeam.Detection

/-- The fingerprint of the hour of an event. -/
def hourFingerprint (tenantId account : String) (event : CanonicalEvent) : String :=
  repeatedFailuresRule.fingerprint tenantId (account ++ ":" ++ hourBucket event)

/-- The evidence of the finding names the event as the one that triggered it. -/
def HasTrigger (f : FindingRecord) (event : CanonicalEvent) : Prop :=
  ∃ v ∈ f.payload.evidence, v.role = .trigger ∧ v.eventId = some event.id

section

variable {rt : Runtime} {tenantId account : String} {arrived : List CanonicalEvent}
  {noticed : List Notice}

theorem hourFingerprint_inj {event event' : CanonicalEvent} :
    hourFingerprint tenantId account event = hourFingerprint tenantId account event' ↔
      hourBucket event = hourBucket event' := by
  unfold hourFingerprint
  rw [DetectionRule.fingerprint_inj]
  constructor
  · intro h
    have hchars := congrArg String.toList h
    rw [String.toList_append, String.toList_append (t := hourBucket event')] at hchars
    exact String.toList_injective (List.append_cancel_left hchars)
  · intro h
    rw [h]

/-- The rule has noticed the openers, each under the fingerprint of its hour. -/
theorem Chronicle.triggers (h : Chronicle rt repeatedFailuresRule arrived noticed)
    (haccount : AccountEvents tenantId account arrived) :
    noticed.map Notice.trigger = openers arrived ∧ ∀ n ∈ noticed,
      n.fingerprint repeatedFailuresRule = hourFingerprint tenantId account n.trigger ∧
        n.trigger ∈ n.selection.related := by
  induction h with
  | nil => exact ⟨rfl, fun n hn => by cases hn⟩
  | @arrive arrived noticed noted event before notices ih =>
      obtain ⟨htriggers, hnotices⟩ := ih (haccount.mono (List.subset_append_left _ _))
      obtain ⟨context, hwindow, hrealtime, hopens, hnoted⟩ := notices
      have hevent : event ∈ arrived ++ [event] := List.mem_append_right _ (List.mem_singleton_self _)
      have hruns : repeatedFailuresRule.runsIn context = true := by
        show (!context.scheduled) = true
        rw [hrealtime]
        rfl
      rw [DetectionRule.Notices, if_pos hruns] at hnoted
      obtain ⟨selected, hselects, rfl⟩ := hnoted
      obtain ⟨hfifth, htail⟩ := haccount.selects hevent hwindow hselects
      -- an open fingerprint is that of the hour of something noticed before
      have hknown : hourFingerprint tenantId account event ∈ context.openFingerprints ↔
          hourBucket event ∈ (openers arrived).map hourBucket := by
        refine (hopens (hourFingerprint tenantId account event)
          (ruleOf_fingerprint (by decide) _ _)).trans ?_
        rw [← htriggers, List.map_map]
        constructor
        · intro hmem
          obtain ⟨n, hn, hsame⟩ := List.mem_map.mp hmem
          rw [(hnotices n hn).1, hourFingerprint_inj] at hsame
          exact List.mem_map.mpr ⟨n, hn, hsame⟩
        · intro hmem
          obtain ⟨n, hn, hsame⟩ := List.mem_map.mp hmem
          refine List.mem_map.mpr ⟨n, hn, ?_⟩
          rw [(hnotices n hn).1, hourFingerprint_inj]
          exact hsame
      rw [openers_concat, List.map_append, htriggers]
      cases selected with
      | none =>
          have hnot : ¬ Fifth arrived event := fun h => by cases hfifth.mpr h
          rw [if_neg fun h => hnot h.1]
          exact ⟨rfl, fun n hn => hnotices n (by simpa [DetectionRule.newly] using hn)⟩
      | some selection =>
          obtain ⟨htail, hmem⟩ := htail selection rfl
          have hfifth : Fifth arrived event := hfifth.mp rfl
          have htenant : event.tenantId = tenantId := haccount.tenant event hevent
          have hnewly : repeatedFailuresRule.newly context.openFingerprints event (some selection) =
              if hourFingerprint tenantId account event ∈ context.openFingerprints then []
              else [⟨event, selection⟩] := by
            rw [newly_some, htenant, htail]
            rfl
          rw [hnewly]
          by_cases hold : hourBucket event ∈ (openers arrived).map hourBucket
          · have hboth : ¬ (Fifth arrived event ∧
              hourBucket event ∉ (openers arrived).map hourBucket) := fun h => h.2 hold
            rw [if_neg hboth, if_pos (hknown.mpr hold), List.map_nil, List.append_nil,
              List.append_nil]
            exact ⟨rfl, hnotices⟩
          · have hnew : Fifth arrived event ∧
              hourBucket event ∉ (openers arrived).map hourBucket := ⟨hfifth, hold⟩
            rw [if_pos hnew, if_neg (mt hknown.mp hold)]
            refine ⟨rfl, fun n hn => ?_⟩
            rcases List.mem_append.mp hn with hn | hn
            · exact hnotices n hn
            · rw [List.mem_singleton.mp hn]
              refine ⟨?_, hmem⟩
              show repeatedFailuresRule.fingerprint event.tenantId selection.tail = _
              rw [htenant, htail]
              rfl

theorem repeatedFailures_registered : repeatedFailuresRule ∈ defaultRegistry := by
  simp [defaultRegistry]

theorem identityAttributes_user {attributes : List (String × String)} {event : CanonicalEvent}
    (h : identityAttributes event = .ok attributes) (huser : eventUser event = some account) :
    attributes.lookup "user" = some account := by
  obtain ⟨user, huser', hname⟩ := Option.bind_eq_some_iff.mp huser
  unfold identityAttributes at h
  rw [huser'] at h
  dsimp only at h
  rw [hname] at h
  obtain rfl := Except.ok.inj h
  rfl

/-- A trigger of a finding that has arrived is the event that the rule noticed. -/
theorem RowOfNotice.trigger {rule : DetectionRule} {n : Notice} {f : FindingRecord}
    (h : RowOfNotice rule tenantId n f) (hmem : n.trigger ∈ n.selection.related)
    (hids : (arrived.map (·.id)).Nodup) (hn : n.trigger ∈ arrived) {event : CanonicalEvent}
    (hevent : event ∈ arrived) : HasTrigger f event ↔ event = n.trigger := by
  obtain ⟨finding, evidenceIds, hbuilt, rfl⟩ := h
  show (∃ v ∈ finding.evidence, v.role = .trigger ∧ v.eventId = some event.id) ↔ _
  rw [hbuilt.evidence]
  constructor
  · rintro ⟨v, hv, hrole, hid⟩
    obtain ⟨e, -, rfl⟩ := List.mem_map.mp hv
    have hsame : e.id = n.trigger.id := by
      by_contra hne
      dsimp only at hrole
      rw [if_neg hne] at hrole
      cases hrole
    exact List.inj_on_of_nodup_map hids hevent hn ((Option.some.inj hid).symm.trans hsame)
  · rintro rfl
    exact ⟨_, List.mem_map_of_mem hmem, if_pos rfl, rfl⟩

end

/-! ### Which failures are missed -/

/-- There is a finding for the account whose trigger lies in the window of the event, or the
fingerprint of the hour of the event was open before. -/
def NoticedAfter (tenantId account : String) (before after : World) (event : CanonicalEvent) :
    Prop :=
  (∃ f ∈ after.rowsOf .findings tenantId,
      FindingRecord.ruleId f = "identity.repeated_failures" ∧
      f.payload.attributes.lookup "user" = some account ∧
      ∃ t ∈ after.arrivals tenantId, HasTrigger f t ∧ Within 900 event t) ∨
    ∃ f ∈ before.rowsOf .findings tenantId,
      FindingRecord.fingerprint f = hourFingerprint tenantId account event

/-- The event is a fifth failure when it arrives, or one before it was, of its hour, or the first
one of another hour in its window. -/
def FifthNear (arrived : List CanonicalEvent) (event : CanonicalEvent) : Prop :=
  Fifth arrived event ∨ (∃ t ∈ fifths arrived, hourBucket t = hourBucket event) ∨
    ∃ t ∈ openers arrived, Within 900 event t

instance (arrived : List CanonicalEvent) (event : CanonicalEvent) :
    Decidable (FifthNear arrived event) :=
  inferInstanceAs (Decidable (_ ∨ _ ∨ _))

/-- A failed login with five to seven failures in its window. -/
def RepeatedFailure (events : List CanonicalEvent) (event : CanonicalEvent) : Prop :=
  isAuthFailure event = true ∧ 5 ≤ failureCount events event ∧ failureCount events event ≤ 7

instance (events : List CanonicalEvent) (event : CanonicalEvent) :
    Decidable (RepeatedFailure events event) :=
  inferInstanceAs (Decidable (_ ∧ _ ∧ _))

section

variable {rt : Runtime} {tenantId account : String} {arrived : List CanonicalEvent}
  {noticed : List Notice} {event : CanonicalEvent}

/-- The findings of the rule have their triggers among the openers, and each opener has one. -/
theorem Chronicle.found (h : Chronicle rt repeatedFailuresRule arrived noticed)
    (haccount : AccountEvents tenantId account arrived) (hids : (arrived.map (·.id)).Nodup)
    {rows : List FindingRecord}
    (hrows : List.Forall₂ (RowOfNotice repeatedFailuresRule tenantId) noticed
      (rows.filter fun f => FindingRecord.ruleId f = repeatedFailuresRule.info.ruleId)) :
    (∃ f ∈ rows, FindingRecord.ruleId f = "identity.repeated_failures" ∧
      f.payload.attributes.lookup "user" = some account ∧
      ∃ t ∈ arrived, HasTrigger f t ∧ Within 900 event t) ↔
        ∃ t ∈ openers arrived, Within 900 event t := by
  obtain ⟨htriggers, hnotices⟩ := h.triggers haccount
  have harrived : ∀ n ∈ noticed, n.trigger ∈ arrived := by
    intro n hn
    refine openers_subset arrived ?_
    rw [← htriggers]
    exact List.mem_map_of_mem hn
  constructor
  · rintro ⟨f, hf, hrule, -, t, ht, htrigger, hwithin⟩
    obtain ⟨n, hn, hrow⟩ := exists_of_forall₂ hrows
      (List.mem_filter.mpr ⟨hf, decide_eq_true hrule⟩)
    rw [hrow.trigger (hnotices n hn).2 hids (harrived n hn) ht] at htrigger
    refine ⟨t, ?_, hwithin⟩
    rw [← htriggers, htrigger]
    exact List.mem_map_of_mem hn
  · rintro ⟨t, ht, hwithin⟩
    rw [← htriggers] at ht
    obtain ⟨n, hn, rfl⟩ := List.mem_map.mp ht
    obtain ⟨f, hf, hrow⟩ := forall₂_exists hrows hn
    obtain ⟨hf, hrule⟩ := List.mem_filter.mp hf
    refine ⟨f, hf, of_decide_eq_true hrule, ?_, n.trigger, harrived n hn,
      (hrow.trigger (hnotices n hn).2 hids (harrived n hn) (harrived n hn)).mpr rfl, hwithin⟩
    obtain ⟨finding, evidenceIds, hbuilt, rfl⟩ := hrow
    exact identityAttributes_user hbuilt.attributes (haccount.user _ (harrived n hn))

/-- The fingerprint of the hour is open if a fifth failure of the hour has arrived. -/
theorem Chronicle.open_iff (h : Chronicle rt repeatedFailuresRule arrived noticed)
    (haccount : AccountEvents tenantId account arrived) {rows : List FindingRecord}
    (hopens : Opens repeatedFailuresRule (rows.map FindingRecord.fingerprint) noticed) :
    (∃ f ∈ rows, FindingRecord.fingerprint f = hourFingerprint tenantId account event) ↔
      ∃ t ∈ fifths arrived, hourBucket t = hourBucket event := by
  obtain ⟨htriggers, hnotices⟩ := h.triggers haccount
  have hopen := hopens (hourFingerprint tenantId account event)
    (ruleOf_fingerprint (by decide) _ _)
  rw [← mem_openers_hour, ← List.mem_map, hopen, ← htriggers, List.map_map, List.mem_map,
    List.mem_map]
  constructor
  · rintro ⟨n, hn, hsame⟩
    rw [(hnotices n hn).1, hourFingerprint_inj] at hsame
    exact ⟨n, hn, hsame⟩
  · rintro ⟨n, hn, hsame⟩
    refine ⟨n, hn, ?_⟩
    rw [(hnotices n hn).1, hourFingerprint_inj]
    exact hsame

/-- Once the event has arrived too. -/
theorem fifthNear_iff : FifthNear arrived event ↔
    (∃ t ∈ openers (arrived ++ [event]), Within 900 event t) ∨
      ∃ t ∈ fifths arrived, hourBucket t = hourBucket event := by
  rw [openers_concat]
  constructor
  · rintro (hfifth | hhour | ⟨t, ht, hwithin⟩)
    · by_cases hold : hourBucket event ∈ (openers arrived).map hourBucket
      · exact .inr (mem_openers_hour.mp hold)
      · refine .inl ⟨event, ?_, within_self _ _⟩
        rw [if_pos ⟨hfifth, hold⟩]
        exact List.mem_append_right _ (List.mem_singleton_self _)
    · exact .inr hhour
    · exact .inl ⟨t, List.mem_append_left _ ht, hwithin⟩
  · rintro (⟨t, ht, hwithin⟩ | hhour)
    · rcases List.mem_append.mp ht with ht | ht
      · exact .inr (.inr ⟨t, ht, hwithin⟩)
      · split at ht
        · rename_i hboth
          exact .inl hboth.1
        · cases ht
    · exact .inr (.inl hhour)

end

section

variable (rt : Runtime) (tenantId account : String) {w₀ : World} (hw₀ : Vacant tenantId w₀)
  (hcommitted : Committed w₀) (calls : List Call) (call : Call) (event : CanonicalEvent)
  (hingested : (runCalls rt tenantId w₀ (calls ++ [call])).arrivals tenantId =
    (runCalls rt tenantId w₀ calls).arrivals tenantId ++ [event])
  (haccount : AccountEvents tenantId account
    ((runCalls rt tenantId w₀ (calls ++ [call])).arrivals tenantId))

include hw₀ hcommitted hingested haccount

theorem noticedAfter_iff :
    NoticedAfter tenantId account (runCalls rt tenantId w₀ calls)
        (runCalls rt tenantId w₀ (calls ++ [call])) event ↔
      FifthNear ((runCalls rt tenantId w₀ calls).arrivals tenantId) event := by
  obtain ⟨noticed, hbefore, -, hopens⟩ :=
    runCalls_chronicle rt repeatedFailures_registered tenantId hw₀ rfl calls
  obtain ⟨noticed', hafter, hrows, -⟩ :=
    runCalls_chronicle rt repeatedFailures_registered tenantId hw₀ rfl (calls ++ [call])
  have hids := @nodup_arrivals rt tenantId w₀ hcommitted hw₀.events (calls ++ [call])
  have hold : AccountEvents tenantId account ((runCalls rt tenantId w₀ calls).arrivals tenantId) := by
    refine haccount.mono ?_
    rw [hingested]
    exact List.subset_append_left _ _
  unfold NoticedAfter
  rw [hafter.found haccount hids hrows, hbefore.open_iff hold hopens, fifthNear_iff, hingested]

/-- Repeated failures are noticed exactly where there is a fifth failure near. -/
theorem repeated_failures_noticed_iff :
    (RepeatedFailure ((runCalls rt tenantId w₀ (calls ++ [call])).arrivals tenantId) event →
        NoticedAfter tenantId account (runCalls rt tenantId w₀ calls)
          (runCalls rt tenantId w₀ (calls ++ [call])) event) ↔
      (RepeatedFailure ((runCalls rt tenantId w₀ (calls ++ [call])).arrivals tenantId) event →
        FifthNear ((runCalls rt tenantId w₀ calls).arrivals tenantId) event) := by
  rw [noticedAfter_iff rt tenantId account hw₀ hcommitted calls call event hingested haccount]

end

/-! ### Samples -/

/-- An authentication failure of one account, a minute after the one before. -/
def accountFailure (n : Nat) (eventType : String) : JsonObject :=
  [("schema_version", .str "1.0.0"), ("id", .str ("evt_" ++ toString n)), ("source", .str "idp"),
   ("source_type", .str "identity"), ("event_type", .str eventType),
   ("category", .str "authentication"), ("outcome", .str "failure"),
   ("timestamp", .int (1700000000 + 60 * n)), ("ingested_at", .int 1700000000),
   ("raw_hash", .str "00"), ("src_ip", .str "203.0.113.7"),
   ("user", .obj [("name", .str "alice")])]

/-- The call that ingests a failure. -/
def failing (n : Nat) (eventType : String) : Call :=
  .ingest "usr_1" [accountFailure n eventType]

def fourLogins : List Call :=
  [failing 1 "login", failing 2 "login", failing 3 "login", failing 4 "login"]

/-- The state after four failed logins and more failures. -/
def failedWorld (more : List Call) : World :=
  runCalls sampleRuntime "ten_a" emptyWorld (fourLogins ++ more)

instance (f : FindingRecord) (event : CanonicalEvent) : Decidable (HasTrigger f event) :=
  inferInstanceAs (Decidable (∃ v ∈ f.payload.evidence, _ ∧ _))

instance (tenantId account : String) (before after : World) (event : CanonicalEvent) :
    Decidable (NoticedAfter tenantId account before after event) :=
  inferInstanceAs (Decidable ((∃ f ∈ after.rowsOf .findings tenantId, _ ∧ _ ∧
    ∃ t ∈ after.arrivals tenantId, _ ∧ _) ∨ ∃ f ∈ before.rowsOf .findings tenantId, _))

instance (tenantId account : String) (events : List CanonicalEvent) :
    Decidable (AccountEvents tenantId account events) :=
  decidable_of_iff (account ≠ "" ∧ (∀ e ∈ events, e.tenantId = tenantId) ∧
      ∀ e ∈ events, eventUser e = some account)
    ⟨fun h => ⟨h.1, h.2.1, h.2.2⟩, fun h => ⟨h.named, h.tenant, h.user⟩⟩

/-- What happens after four failed logins: a fifth is noticed, but not the login after a fifth
failure of another type. -/
theorem after_four_logins :
    (∃ event ∈ (failedWorld [failing 5 "login"]).arrivals "ten_a",
      (failedWorld [failing 5 "login"]).arrivals "ten_a" =
        (failedWorld []).arrivals "ten_a" ++ [event] ∧
      AccountEvents "ten_a" "alice" ((failedWorld [failing 5 "login"]).arrivals "ten_a") ∧
      RepeatedFailure ((failedWorld [failing 5 "login"]).arrivals "ten_a") event ∧
      FifthNear ((failedWorld []).arrivals "ten_a") event) ∧
    ∃ event ∈ (failedWorld [failing 5 "mfa", failing 6 "login"]).arrivals "ten_a",
      (failedWorld [failing 5 "mfa", failing 6 "login"]).arrivals "ten_a" =
        (failedWorld [failing 5 "mfa"]).arrivals "ten_a" ++ [event] ∧
      (((failedWorld [failing 5 "mfa", failing 6 "login"]).arrivals "ten_a").map
        (·.timestamp.instant)).Pairwise (· ≤ ·) ∧
      AccountEvents "ten_a" "alice"
        ((failedWorld [failing 5 "mfa", failing 6 "login"]).arrivals "ten_a") ∧
      RepeatedFailure ((failedWorld [failing 5 "mfa", failing 6 "login"]).arrivals "ten_a") event ∧
      ¬ NoticedAfter "ten_a" "alice" (failedWorld [failing 5 "mfa"])
        (failedWorld [failing 5 "mfa", failing 6 "login"]) event := by
  decide +kernel

theorem repeated_failures_noticed_fifth : ∃ event,
    AccountEvents "ten_a" "alice" ((failedWorld [failing 5 "login"]).arrivals "ten_a") ∧
      RepeatedFailure ((failedWorld [failing 5 "login"]).arrivals "ten_a") event ∧
      NoticedAfter "ten_a" "alice" (failedWorld []) (failedWorld [failing 5 "login"]) event := by
  obtain ⟨event, -, hingested, haccount, hrepeated, hfifth⟩ := after_four_logins.1
  refine ⟨event, haccount, hrepeated, ?_⟩
  exact (repeated_failures_noticed_iff sampleRuntime "ten_a" "alice" vacant_emptyWorld
    committed_emptyWorld fourLogins (failing 5 "login") event hingested haccount).mpr
      (fun _ => hfifth) hrepeated

/-- The fifth failure is not a login, so the login after it is the sixth, and not noticed. -/
theorem repeated_failures_missed : ∃ event,
    (failedWorld [failing 5 "mfa", failing 6 "login"]).arrivals "ten_a" =
      (failedWorld [failing 5 "mfa"]).arrivals "ten_a" ++ [event] ∧
    (((failedWorld [failing 5 "mfa", failing 6 "login"]).arrivals "ten_a").map
      (·.timestamp.instant)).Pairwise (· ≤ ·) ∧
    AccountEvents "ten_a" "alice"
      ((failedWorld [failing 5 "mfa", failing 6 "login"]).arrivals "ten_a") ∧
    RepeatedFailure ((failedWorld [failing 5 "mfa", failing 6 "login"]).arrivals "ten_a") event ∧
    ¬ NoticedAfter "ten_a" "alice" (failedWorld [failing 5 "mfa"])
      (failedWorld [failing 5 "mfa", failing 6 "login"]) event := by
  obtain ⟨event, -, h⟩ := after_four_logins.2
  exact ⟨event, h⟩

end BlueTeam.Services
