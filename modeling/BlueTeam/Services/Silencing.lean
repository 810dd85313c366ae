/- GID: BlueTeam/Services/Silencing
   generality: I
   source: services/api/app/services/suppression.py, detection.py
   digest: What a suppression without an end or an exception names is never stored again. -/

import BlueTeam.Lib.Succession
import BlueTeam.Rules.Silence
import BlueTeam.Services.Upkeep

set_option autoImplicit false
set_option relaxedAutoImplicit false

namespace BlueTeam.Services

open BlueTeam.Python BlueTeam.Schema BlueTeam.Lib BlueTeam.Lib.Exec BlueTeam.Detection
  BlueTeam.Rules

/-- The tenant has a suppression without an end, or an exception, of the rule for the value. -/
def Silences (db : Database schema) (tenantId ruleId entityKey entityValue : String) : Prop :=
  (∃ row ∈ db .suppressions, Suppression.tenantId row = tenantId ∧ row.ruleId = ruleId ∧
      row.entityKey = entityKey ∧ row.entityValue = entityValue ∧ row.expiresAt = none) ∨
    ∃ row ∈ db .exceptions, DetectionException.tenantId row = tenantId ∧ row.ruleId = ruleId ∧
      row.entityKey = entityKey ∧ row.entityValue = entityValue

theorem Silences.flush {s s' : Session schema} {tenantId ruleId entityKey entityValue : String}
    (h : Silences s.stored tenantId ruleId entityKey entityValue) (hflush : s.flush = .ok s') :
    Silences s'.stored tenantId ruleId entityKey entityValue := by
  have hkept : ∀ t, s.stored t ⊆ s'.stored t := by
    intro t
    rw [(Session.flush_ok hflush).2 t]
    exact List.subset_append_left _ _
  rcases h with ⟨row, hrow, hrest⟩ | ⟨row, hrow, hrest⟩
  · exact .inl ⟨row, hkept _ hrow, hrest⟩
  · exact .inr ⟨row, hkept _ hrow, hrest⟩

/-- The tenant's finding has a value that is silenced for its rule. -/
def Silenced (db : Database schema) (tenantId : String) (finding : Finding) : Prop :=
  ∃ entityKey entityValue, Silences db tenantId finding.ruleId entityKey entityValue ∧
    names finding entityKey entityValue = true

/-- The suppressions and exceptions have stayed, and what they silence has not been stored since. -/
structure Quieted (base : Database schema) (s : Session schema) : Prop where
  suppressions : Succeeded (S := schema) (t := .suppressions) Eq (base .suppressions) s
  exceptions : Succeeded (S := schema) (t := .exceptions) Eq (base .exceptions) s
  findings : ∀ row ∈ s.all .findings, row ∈ base .findings ∨
    FindingRecord.ruleId row = row.payload.ruleId ∧ ¬ Silenced base row.tenantId row.payload

theorem Quieted.start {s : Session schema} (h : s.pending = []) : Quieted s.stored s where
  suppressions := .start (fun _ => rfl) s
  exceptions := .start (fun _ => rfl) s
  findings row hrow := by
    unfold Session.all Session.pendingOf at hrow
    rw [h, List.filterMap_nil, List.append_nil] at hrow
    exact .inl hrow

section

variable {base : Database schema} {s s' : Session schema}

theorem Quieted.flush (h : Quieted base s) (hflush : s.flush = .ok s') : Quieted base s' where
  suppressions := h.suppressions.flush hflush
  exceptions := h.exceptions.flush hflush
  findings row hrow := by
    rw [Session.flush_all hflush] at hrow
    exact h.findings row hrow

theorem quieted_add {t : Table} (ht : t ≠ .findings) (r : t.Row) (s : Session schema)
    (h : Quieted base s) : Quieted base (s.add (S := schema) r) where
  suppressions := h.suppressions.add r
  exceptions := h.exceptions.add r
  findings row hrow := by
    rw [Session.add_all_of_ne (S := schema) s ht] at hrow
    exact h.findings row hrow

theorem Quieted.add_finding (h : Quieted base s) {tenantId : String} {finding : Finding}
    (hfinding : ¬ Silenced base tenantId finding) (evidenceIds : List String) :
    Quieted base
      (s.add (S := schema) (t := .findings) (findingRecord tenantId finding evidenceIds)) where
  suppressions := h.suppressions.add (u := .findings) _
  exceptions := h.exceptions.add (u := .findings) _
  findings r hr := by
    rw [Session.add_all_self (S := schema)] at hr
    rcases List.mem_append.mp hr with hr | hr
    · exact h.findings r hr
    · obtain rfl := List.mem_singleton.mp hr
      exact .inr ⟨rfl, hfinding⟩

theorem ne_silencing_of_mem {t : Table} (h : t ∈ besideFindings) :
    t ≠ .suppressions ∧ t ≠ .exceptions := by
  revert h
  cases t <;> decide

theorem quieted_stable (base : Database schema) :
    Stable (Quieted base) (fun _ _ => True) besideFindings where
  add r s ht hs := quieted_add (ne_findings_of_mem ht) r s hs
  update f s ht _ hs :=
    ⟨hs.suppressions.update_of_ne (ne_silencing_of_mem ht).1 f,
      hs.exceptions.update_of_ne (ne_silencing_of_mem ht).2 f, by
        rw [Session.update_all_of_ne (S := schema) s (ne_findings_of_mem ht)]
        exact hs.findings⟩
  delete p s ht _ hs :=
    ⟨hs.suppressions.delete_of_ne (ne_silencing_of_mem ht).1 p,
      hs.exceptions.delete_of_ne (ne_silencing_of_mem ht).2 p, by
        rw [Session.delete_all_of_ne (S := schema) s (ne_findings_of_mem ht)]
        exact hs.findings⟩
  flush := keeps_flush (fun _ _ hs hflush => hs.flush hflush) (fun _ _ _ _ => trivial)
  python _ _ _ := trivial
  multiple _ _ _ _ := trivial
  missing _ _ _ _ _ := trivial

end

/-! ### The check before a finding is stored -/

/-- Where the check goes through all rows, none without an end names a value of the finding. -/
theorem suppressedBy_false {finding : Finding} {now : DateTime} {rows : List Suppression}
    (h : suppressedBy finding now rows = .ok false) :
    ∀ row ∈ rows, row.expiresAt = none → names finding row.entityKey row.entityValue = false := by
  induction rows with
  | nil => simp
  | cons first rows ih =>
      obtain ⟨ended, hended, hrest⟩ := except_of_bind h
      intro row hrow hnone
      by_cases hnames : (!ended && names finding first.entityKey first.entityValue) = true
      · rw [if_pos hnames] at hrest
        cases hrest
      · rw [if_neg hnames] at hrest
        rcases List.mem_cons.mp hrow with rfl | hrow
        · unfold expired at hended
          rw [hnone] at hended
          obtain rfl := Except.ok.inj hended
          simpa using hnames
        · exact ih hrest row hrow hnone

section

variable {base : Database schema} (rt : Runtime) (tenantId actorId : String)

/-- A finding that the check lets through is not silenced. -/
theorem isSuppressed_quieted (finding : Finding) :
    Triple (fun w => Quieted base w.session) (isSuppressed rt tenantId finding)
      (fun suppressed w => (suppressed = false → ¬ Silenced base tenantId finding) ∧
        Quieted base w.session) (fun _ _ => True) := by
  unfold isSuppressed
  refine triple_bind (upkeeps_draw _) fun now => ?_
  refine triple_bind (Q := fun rows w => (∀ row ∈ base .suppressions,
      Suppression.tenantId row = tenantId → row.ruleId = finding.ruleId → row ∈ rows) ∧
    Quieted base w.session) (triple_gets fun w hw => ⟨?_, hw⟩) fun rows => ?_
  · intro row hrow htenant hrule
    exact List.mem_filter.mpr ⟨hw.suppressions.subset hrow,
      Bool.and_eq_true_iff.mpr ⟨decide_eq_true htenant, decide_eq_true hrule⟩⟩
  apply triple_given
  intro hrows
  refine triple_bind (Q := fun suppressed w => suppressedBy finding now rows = .ok suppressed ∧
    Quieted base w.session) (triple_compute (fun _ _ hrun hw => ⟨hrun, hw⟩)
      fun _ _ _ _ => trivial) fun suppressed => ?_
  apply triple_given
  intro hrun
  split
  · exact triple_pure fun _ hw => ⟨fun hfalse => (by cases hfalse), hw⟩
  · rename_i hsuppressed
    obtain rfl := Bool.eq_false_of_not_eq_true hsuppressed
    refine triple_bind (Q := fun exceptions w => (∀ row ∈ base .exceptions,
        DetectionException.tenantId row = tenantId → row.ruleId = finding.ruleId →
          row ∈ exceptions) ∧ Quieted base w.session)
      (triple_gets fun w hw => ⟨?_, hw⟩) fun exceptions => ?_
    · intro row hrow htenant hrule
      exact List.mem_filter.mpr ⟨hw.exceptions.subset hrow,
        Bool.and_eq_true_iff.mpr ⟨decide_eq_true htenant, decide_eq_true hrule⟩⟩
    refine triple_pure fun w hw => ⟨fun hnone => ?_, hw.2⟩
    rintro ⟨_, _, ⟨row, hrow, htenant, hrule, rfl, rfl, hend⟩ | ⟨row, hrow, htenant, hrule, rfl, rfl⟩,
      hnames⟩
    · rw [suppressedBy_false hrun row (hrows row hrow htenant hrule) hend] at hnames
      cases hnames
    · have hany := List.any_eq_false.mp hnone row (hw.1 row hrow htenant hrule)
      exact hany hnames

theorem storeFinding_quieted (acc : Created) (finding : Finding) :
    Upkeeps (Quieted base) (storeFinding rt tenantId actorId acc finding) := by
  have hstable := quieted_stable base
  unfold storeFinding
  refine triple_bind (isSuppressed_quieted rt tenantId finding) fun suppressed => ?_
  apply triple_given
  intro hsilenced
  split
  · exact keeps_pure _
  · rename_i hsuppressed
    refine keeps_bind (keeps_selectOne fun _ _ => trivial) fun existing => ?_
    cases existing with
    | some _ => exact keeps_pure _
    | none =>
        refine keeps_bind (keeps_loop (fun ids eventId _ => ?_) _) fun ids => ?_
        · exact keeps_bind (registerEventEvidence_keeps rt tenantId hstable
            (fun r s hs => hstable.add (t := .evidence) r s (by decide) hs) eventId actorId)
              fun _ => keeps_pure _
        · refine keeps_bind (keeps_add fun s hs => ?_) fun _ => ?_
          · have hfinding := hsilenced (Bool.eq_false_of_not_eq_true hsuppressed)
            exact Quieted.add_finding hs hfinding ids
          · exact keeps_bind (keeps_add fun s hs => hstable.add (t := .alerts) _ s (by decide) hs)
              fun _ => keeps_pure _

theorem evaluateAndStoreFindings_quieted (context : DetectionContext) (event : CanonicalEvent) :
    Upkeeps (Quieted base) (evaluateAndStoreFindings rt tenantId actorId context event) := by
  unfold evaluateAndStoreFindings
  refine keeps_bind (upkeeps_draw _) fun findings => ?_
  refine keeps_bind (keeps_loop (fun acc finding _ =>
    storeFinding_quieted rt tenantId actorId acc finding) _) fun acc => ?_
  exact keeps_bind (quieted_stable base).flush fun _ => keeps_pure _

/-- No service stores what is silenced, and none takes back a suppression or an exception. -/
theorem quieted_upheld (base : Database schema) : Upheld rt tenantId (Quieted base) := by
  have hstable := quieted_stable base
  refine upheld_of_stable rt tenantId (hstable.subset (by decide))
    (fun row s hs => quieted_add (t := .suppressions) (by decide) row s hs)
    (fun row s hs => quieted_add (t := .exceptions) (by decide) row s hs)
    (evaluateAndStoreFindings_quieted rt tenantId) ?_ ?_ ?_ ?_
  · exact persistStorylinesAndIncidents_keeps rt tenantId hstable (by decide) (by decide)
      fun _ _ => trivial
  · exact createFromAlert_upkeeps rt tenantId hstable (by decide) (by decide)
  · exact fun request _ => .of_upkeeps (load_upkeeps rt request)
      (save_upkeeps hstable (by decide) (by decide))
  · exact appendCustody_upkeeps rt tenantId hstable (by decide)

end

/-! ### Silencing -/

section

variable (rt : Runtime) (tenantId ruleId entityKey entityValue reason actorId : String)

theorem createSuppression_silences :
    Triple (fun _ => True)
      (createSuppression rt tenantId ruleId entityKey entityValue reason actorId)
      (fun _ w => Silences w.session.stored tenantId ruleId entityKey entityValue)
      (fun _ _ => True) := by
  unfold createSuppression
  refine triple_bind (upkeeps_draw (I := fun _ => True) _) fun id => ?_
  refine triple_bind (upkeeps_draw (I := fun _ => True) _) fun createdAt => ?_
  refine triple_addFlush (fun w s _ hflush => ?_) fun _ _ _ _ => trivial
  exact .inl ⟨_, Session.mem_of_add_flush hflush, rfl, rfl, rfl, rfl, rfl⟩

theorem createException_silences :
    Triple (fun _ => True) (createException rt tenantId ruleId entityKey entityValue reason actorId)
      (fun _ w => Silences w.session.stored tenantId ruleId entityKey entityValue)
      (fun _ _ => True) := by
  unfold createException
  refine triple_bind (upkeeps_draw (I := fun _ => True) _) fun id => ?_
  refine triple_bind (upkeeps_draw (I := fun _ => True) _) fun createdAt => ?_
  refine triple_addFlush (fun w s _ hflush => ?_) fun _ _ _ _ => trivial
  exact .inr ⟨_, Session.mem_of_add_flush hflush, rfl, rfl, rfl, rfl⟩

end

end BlueTeam.Services
