/- GID: BlueTeam/Sigma/Faithful
   generality: I
   source: packages/sigma-compiler/blueteam_sigma/compiler.py
   digest: Which rules are compiled to what they say, and which are refused. -/

import BlueTeam.Sigma.Semantics

set_option autoImplicit false
set_option relaxedAutoImplicit false

namespace BlueTeam.Sigma

open BlueTeam.Python BlueTeam.Schema BlueTeam.Lib BlueTeam.Detection

section

variable {rt : Runtime} {repr : Yaml → String} {upper : String → String}
  {raw : List (Yaml × Yaml)}

/-! ### The fields that describe the rule -/

theorem inSet_ok_iff {texts : List String} {v : Yaml} :
    (∃ b, v.inSet texts = .ok b) ↔ v.isPlain = true := by
  cases v <;> simp [Yaml.inSet, Yaml.isPlain]

theorem elements_orElse_ok_iff {v : Yaml} :
    (∃ items, (v.orElse (.seq [])).elements = .ok items) ↔
      (v.truthy = true → ∃ items, v.elements = .ok items) := by
  unfold Yaml.orElse
  split
  · rename_i h
    exact ⟨fun helements _ => helements, fun himp => himp h⟩
  · rename_i h
    exact ⟨fun _ htruthy => absurd htruthy h, fun _ => ⟨[], rfl⟩⟩

theorem productOf_ok_iff :
    (∃ product, productOf raw = .ok product) ↔
      (((Yaml.get raw "logsource").getD .null).truthy = true →
        ∃ fields, (Yaml.get raw "logsource").getD .null = .map fields) := by
  unfold productOf
  generalize (Yaml.get raw "logsource").getD .null = v
  cases v with
  | map fields => exact ⟨fun _ _ => ⟨fields, rfl⟩, fun _ => ⟨_, rfl⟩⟩
  | _ =>
    dsimp only
    split
    · rename_i h
      exact ⟨fun hok => (by obtain ⟨_, hok⟩ := hok; cases hok),
        fun himp => (by obtain ⟨_, hmap⟩ := himp h; cases hmap)⟩
    · rename_i h
      exact ⟨fun _ htruthy => absurd htruthy h, fun _ => ⟨_, rfl⟩⟩

theorem metaOf_ok_iff : (∃ info, metaOf rt repr upper raw = .ok info) ↔ Described raw := by
  have hgiven : ∀ (key : String) (P : Yaml → Prop),
      (((Yaml.get raw key).getD .null).truthy = true → P ((Yaml.get raw key).getD .null)) ↔
        ∀ v, Yaml.get raw key = some v → v.truthy = true → P v := by
    intro key P
    cases Yaml.get raw key with
    | none => exact ⟨fun _ => nofun, fun _ h => (by cases h)⟩
    | some v => exact ⟨fun h v' hv' => Option.some.inj hv' ▸ h, fun h => h v rfl⟩
  have hstatus : ((Yaml.get raw "status").getD .null).isPlain = true ↔
      ∀ v, Yaml.get raw "status" = some v → v.isPlain = true := by
    cases Yaml.get raw "status" with
    | none => exact ⟨fun _ => nofun, fun _ => rfl⟩
    | some v => exact ⟨fun h v' hv' => Option.some.inj hv' ▸ h, fun h => h v rfl⟩
  have htags := (elements_orElse_ok_iff (v := (Yaml.get raw "tags").getD .null)).trans
    (hgiven "tags" fun v => ∃ items, v.elements = .ok items)
  have hproduct := (@productOf_ok_iff raw).trans
    (hgiven "logsource" fun v => ∃ fields, v = .map fields)
  have htested := (@inSet_ok_iff ["test", "stable", "tested"]
    ((Yaml.get raw "status").getD .null)).trans hstatus
  constructor
  · rintro ⟨info, h⟩
    obtain ⟨tags, htagsOk, h⟩ := except_of_bind h
    obtain ⟨product, hproductOk, h⟩ := except_of_bind h
    obtain ⟨tested, htestedOk, -⟩ := except_of_bind h
    exact ⟨htags.mp ⟨tags, htagsOk⟩, hproduct.mp ⟨product, hproductOk⟩,
      htested.mp ⟨tested, htestedOk⟩⟩
  · rintro ⟨h₁, h₂, h₃⟩
    obtain ⟨tags, htagsOk⟩ := htags.mpr h₁
    obtain ⟨product, hproductOk⟩ := hproduct.mpr h₂
    obtain ⟨tested, htestedOk⟩ := htested.mpr h₃
    unfold metaOf
    simp only [htagsOk, hproductOk, htestedOk]
    exact ⟨_, rfl⟩

theorem elements_error {v : Yaml} {e : CompileError} (h : v.elements = .error e) :
    e = .typeError := by
  cases v <;> cases h <;> rfl

theorem inSet_error {texts : List String} {v : Yaml} {e : CompileError}
    (h : v.inSet texts = .error e) : e = .typeError := by
  cases v <;> cases h <;> rfl

theorem productOf_error {e : CompileError} (h : productOf raw = .error e) :
    e = .attributeError := by
  unfold productOf at h
  split at h
  · cases h
  · split at h <;> cases h
    rfl

/-- What goes wrong there is no `SigmaCompileError`. -/
theorem metaOf_error {e : CompileError} (h : metaOf rt repr upper raw = .error e) :
    e = .typeError ∨ e = .attributeError := by
  rcases except_error_of_bind h with helements | ⟨tags, -, h⟩
  · exact .inl (elements_error helements)
  · rcases except_error_of_bind h with hproduct | ⟨product, -, h⟩
    · exact .inr (productOf_error hproduct)
    · rcases except_error_of_bind h with htested | ⟨tested, -, h⟩
      · exact .inl (inSet_error htested)
      · cases h

/-! ### Compilation -/

theorem requireFields_cases (name : String) (raw : List (Yaml × Yaml)) (keys : List String) :
    (requireFields name raw keys = .ok () ∧ ∀ key ∈ keys, (Yaml.get raw key).isSome = true) ∨
      ∃ key ∈ keys, Yaml.get raw key = none ∧
        requireFields name raw keys = .error (.sigmaCompileError (name ++ " missing " ++ key)) := by
  induction keys with
  | nil => exact .inl ⟨rfl, nofun⟩
  | cons key keys ih =>
    unfold requireFields
    cases hkey : Yaml.get raw key with
    | none => exact .inr ⟨key, List.mem_cons_self, hkey, rfl⟩
    | some v =>
      rw [Option.isSome_some, if_pos rfl]
      rcases ih with ⟨hok, hall⟩ | ⟨key', hkey', hnone, herror⟩
      · refine .inl ⟨hok, fun k hk => ?_⟩
        rcases List.mem_cons.mp hk with rfl | hk
        · rw [hkey]
          rfl
        · exact hall k hk
      · exact .inr ⟨key', List.mem_cons_of_mem _ hkey', hnone, herror⟩

theorem contains_error {key : String} {v : Yaml} {e : CompileError}
    (h : v.contains key = .error e) : e = .typeError := by
  cases v <;> cases h <;> rfl

theorem part_of_map {detection : List (Yaml × Yaml)}
    (h : Yaml.get raw "detection" = some (.map detection)) (key : String) :
    part raw key = Yaml.get detection key := by
  unfold part
  rw [h]

theorem inSet_true {texts : List String} {v : Yaml} (h : v.inSet texts = .ok true) :
    ∃ text ∈ texts, v = .str text := by
  cases v with
  | str text =>
    have htext : texts.contains text = true := Except.ok.inj h
    exact ⟨text, List.contains_iff_mem.mp htext, rfl⟩
  | _ => cases h

/-- A rule that passes every check is not refused. -/
theorem not_refused (hall : ∀ key ∈ requiredFields, (Yaml.get raw key).isSome = true)
    (hcontains : ∀ v, Yaml.get raw "detection" = some v → v.contains "condition" ≠ .ok false)
    (hcondition : ∀ v, part raw "condition" = some v → v.isPlain = true →
      Plainly raw ∨ Filtering raw)
    (hselection : Plainly raw ∨ Filtering raw → ∃ fields,
      part raw "selection" = some (.map fields)) : ¬ Refused raw := by
  intro hrefused
  cases hrefused with
  | missing key hkey h =>
    have hsome := hall key hkey
    rw [h] at hsome
    cases hsome
  | noCondition detection hdetection h => exact hcontains detection hdetection h
  | condition v hv hplain hplainly hfiltering =>
    exact (hcondition v hv hplain).elim hplainly hfiltering
  | selection hone h =>
    obtain ⟨fields, hfields⟩ := hselection hone
    exact h fields hfields

/-- What becomes of a detection: it is refused, it cannot be read, or its selection is a map. -/
theorem readDetection_cases (hall : ∀ key ∈ requiredFields, (Yaml.get raw key).isSome = true)
    {detection : Yaml} (hdetection : Yaml.get raw "detection" = some detection) :
    (Refused raw ∧ ∃ text, readDetection repr detection = .error (.sigmaCompileError text)) ∨
      (¬ Refused raw ∧ ¬ (Plainly raw ∨ Filtering raw) ∧
        readDetection repr detection = .error .typeError) ∨
      ∃ selection filt, ¬ Refused raw ∧ (Plainly raw ∨ Filtering raw) ∧
        part raw "selection" = some (.map selection) ∧ (Plainly raw → filt = none) ∧
        (Filtering raw → filt = some ((part raw "filter").getD .null)) ∧
        readDetection repr detection = .ok (selection, filt) := by
  unfold readDetection
  have hsame : ∀ {v}, Yaml.get raw "detection" = some v → v = detection :=
    fun hv => Option.some.inj (hv.symm.trans hdetection)
  by_cases hmap : ∃ fields, detection = .map fields
  · obtain ⟨fields, rfl⟩ := hmap
    have hpart := part_of_map hdetection
    cases hcondition : Yaml.get fields "condition" with
    | none =>
      have hcontains : (Yaml.map fields).contains "condition" = .ok false := by
        simp only [Yaml.contains, hcondition, Option.isSome_none]
      rw [hcontains]
      exact .inl ⟨.noCondition _ hdetection hcontains, _, rfl⟩
    | some condition =>
      have hcontains : (Yaml.map fields).contains "condition" = .ok true := by
        simp only [Yaml.contains, hcondition, Option.isSome_some]
      have hitem : (Yaml.map fields).item "condition" = .ok condition := by
        simp only [Yaml.item, hcondition, Option.getD_some]
      have hgiven : part raw "condition" = some condition := (hpart _).trans hcondition
      have hnamed : ∀ {v}, part raw "condition" = some v → v = condition :=
        fun h => Option.some.inj (h.symm.trans hgiven)
      have hthere : ∀ v, Yaml.get raw "detection" = some v →
          v.contains "condition" ≠ .ok false := by
        rintro v hv hfalse
        rw [hsame hv, hcontains] at hfalse
        cases hfalse
      simp only [hcontains, hitem, bind, Except.bind, if_true]
      cases hset : condition.inSet conditions with
      | error e =>
        obtain rfl := inSet_error hset
        have hneither : ¬ (Plainly raw ∨ Filtering raw) := by
          rintro (h | h) <;> cases hnamed h <;> cases hset
        refine .inr (.inl ⟨?_, hneither, rfl⟩)
        refine not_refused hall hthere (fun v hv hplain => ?_) fun hone => absurd hone hneither
        rw [hnamed hv] at hplain
        obtain ⟨b, hb⟩ := (@inSet_ok_iff conditions _).mpr hplain
        rw [hset] at hb
        cases hb
      | ok found =>
        cases found with
        | false =>
          refine .inl ⟨.condition condition hgiven (inSet_ok_iff.mp ⟨_, hset⟩) ?_ ?_, _, rfl⟩
          · intro h
            cases hnamed h
            cases hset
          · intro h
            cases hnamed h
            cases hset
        | true =>
          obtain ⟨text, htext, rfl⟩ := inSet_true hset
          have hone : Plainly raw ∨ Filtering raw := by
            rcases List.mem_pair.mp htext with rfl | rfl
            · exact .inl hgiven
            · exact .inr hgiven
          by_cases hselection : ∃ selection, Yaml.get fields "selection" = some (.map selection)
          · obtain ⟨selection, hselection⟩ := hselection
            have hselected : (Yaml.map fields).item "selection" = .ok (.map selection) := by
              simp only [Yaml.item, hselection, Option.getD_some]
            simp only [hselected, if_true]
            refine .inr (.inr ⟨selection, _, ?_, hone, (hpart _).trans hselection, ?_, ?_, rfl⟩)
            · exact not_refused hall hthere (fun _ _ _ => hone)
                fun _ => ⟨selection, (hpart _).trans hselection⟩
            · intro h
              cases hnamed h
              exact if_neg (show ¬ hasInfix "not filter" "selection" = true by decide)
            · intro h
              cases hnamed h
              rw [hpart]
              exact if_pos
                (show hasInfix "not filter" "selection and not filter" = true by decide)
          · have hother : ∀ selection,
                (Yaml.get fields "selection").getD .null ≠ .map selection := by
              intro selection h
              refine hselection ⟨selection, ?_⟩
              cases hv : Yaml.get fields "selection" with
              | none =>
                rw [hv] at h
                cases h
              | some v =>
                rw [hv] at h
                exact congrArg some h
            refine .inl ⟨.selection hone fun selection h => hselection ⟨selection, ?_⟩,
              "selection must be an object", ?_⟩
            · rwa [hpart] at h
            · -- the last alternative of the match, by `hother`
              simp only [Yaml.item, if_true]
  · have hnone : ∀ key, part raw key = none := by
      intro key
      unfold part
      rw [hdetection]
      split
      · rename_i fields heq
        exact absurd ⟨fields, Option.some.inj heq⟩ hmap
      · rfl
    have hneither : ¬ (Plainly raw ∨ Filtering raw) := by
      unfold Plainly Filtering
      rw [hnone]
      simp
    have hitem : detection.item "condition" = .error .typeError := by
      cases detection with
      | map fields => exact absurd ⟨fields, rfl⟩ hmap
      | _ => rfl
    have hpasses : detection.contains "condition" ≠ .ok false → ¬ Refused raw := by
      intro hcontains
      refine not_refused hall (fun v hv => ?_) (fun v hv _ => ?_) fun hone => absurd hone hneither
      · rwa [hsame hv]
      · rw [hnone] at hv
        cases hv
    cases hcontains : detection.contains "condition" with
    | error e =>
      obtain rfl := contains_error hcontains
      exact .inr (.inl ⟨hpasses (hcontains ▸ nofun), hneither, rfl⟩)
    | ok found =>
      cases found with
      | false => exact .inl ⟨.noCondition _ hdetection hcontains, _, rfl⟩
      | true =>
        refine .inr (.inl ⟨hpasses (hcontains ▸ nofun), hneither, ?_⟩)
        simp only [hitem]
        rfl

/-- What becomes of a rule: it is refused, its detection cannot be read, or it is compiled as far as
its description can be read. -/
theorem compileRule_cases (path name : String) :
    (Refused raw ∧ ∃ text, compileRule rt repr upper path name (.map raw) =
        .error (.sigmaCompileError text)) ∨
      (¬ Refused raw ∧ ¬ (Plainly raw ∨ Filtering raw) ∧
        compileRule rt repr upper path name (.map raw) = .error .typeError) ∨
      ∃ selection filt, ¬ Refused raw ∧ (Plainly raw ∨ Filtering raw) ∧
        part raw "selection" = some (.map selection) ∧ (Plainly raw → filt = none) ∧
        (Filtering raw → filt = some ((part raw "filter").getD .null)) ∧
        compileRule rt repr upper path name (.map raw) =
          (metaOf rt repr upper raw).map fun info =>
            { info := info, path := path, selection := selection, filt := filt } := by
  unfold compileRule
  dsimp only
  rcases requireFields_cases name raw requiredFields with ⟨hok, hall⟩ | ⟨key, hkey, hnone, herror⟩
  · obtain ⟨detection, hdetection⟩ :=
      Option.isSome_iff_exists.mp (hall "detection" (by decide))
    rw [hok, hdetection, Option.getD_some]
    rcases @readDetection_cases repr raw hall detection hdetection with
      ⟨hrefused, text, hread⟩ | ⟨hpasses, hneither, hread⟩ |
        ⟨selection, filt, hpasses, hone, hselection, hplain, hfilter, hread⟩
    · rw [hread]
      exact .inl ⟨hrefused, text, rfl⟩
    · rw [hread]
      exact .inr (.inl ⟨hpasses, hneither, rfl⟩)
    · rw [hread]
      refine .inr (.inr ⟨selection, filt, hpasses, hone, hselection, hplain, hfilter, ?_⟩)
      cases metaOf rt repr upper raw <;> rfl
  · rw [herror]
    exact .inl ⟨.missing key hkey hnone, _, rfl⟩

/-- The `SigmaCompileError`s are those of the refused rules. -/
theorem compileRule_refuses_iff (path name : String) :
    (∃ text, compileRule rt repr upper path name (.map raw) = .error (.sigmaCompileError text)) ↔
      Refused raw := by
  rcases @compileRule_cases rt repr upper raw path name with
    ⟨hrefused, hrun⟩ | ⟨hpasses, -, hrun⟩ | ⟨selection, filt, hpasses, -, -, -, -, hrun⟩
  · exact iff_of_true hrun hrefused
  · refine iff_of_false ?_ hpasses
    rintro ⟨text, htext⟩
    cases hrun.symm.trans htext
  · refine iff_of_false ?_ hpasses
    rintro ⟨text, htext⟩
    rw [hrun] at htext
    cases hmeta : metaOf rt repr upper raw with
    | ok info =>
      rw [hmeta] at htext
      cases htext
    | error e =>
      rw [hmeta] at htext
      cases htext
      rcases metaOf_error hmeta with h | h <;> cases h

/-! ### Evaluation -/

theorem evaluate_finds_iff {rule : CompiledSigmaRule} {event : CanonicalEvent}
    {context : DetectionContext} (hopen : context.openFingerprints = []) (t : Ticks) :
    (∃ finding, (rule.evaluate rt repr event context t).1 = .ok [finding]) ↔
      matchAll rt repr event rule.selection = true ∧ rule.filtered rt repr event = false := by
  unfold CompiledSigmaRule.evaluate
  cases matchAll rt repr event rule.selection with
  | false => exact iff_of_false (by rintro ⟨_, h⟩; cases h) (by rintro ⟨h, -⟩; cases h)
  | true =>
    cases rule.filtered rt repr event with
    | true => exact iff_of_false (by rintro ⟨_, h⟩; cases h) (by rintro ⟨-, h⟩; cases h)
    | false =>
      refine iff_of_true ?_ ⟨rfl, rfl⟩
      simp only [hopen, List.not_mem_nil, if_false]
      exact ⟨_, rfl⟩

/-! ### Faithful rules -/

variable (rt repr upper)

/-- The rule, once compiled, finds the events that it should report, and it is refused if it is not
of the subset. -/
def Faithful (path name : String) (raw : List (Yaml × Yaml)) (event : CanonicalEvent) : Prop :=
  (∀ rule, compileRule rt repr upper path name (.map raw) = .ok rule →
    ∀ context t, context.openFingerprints = [] →
      ((∃ finding, (rule.evaluate rt repr event context t).1 = .ok [finding]) ↔
        Reported raw rt repr event)) ∧
  (¬ InSubset raw → ∃ text,
    compileRule rt repr upper path name (.map raw) = .error (.sigmaCompileError text))

variable {rt repr upper} {event : CanonicalEvent}

theorem neither_of_both : ¬ (Plainly raw ∧ Filtering raw) := by
  unfold Plainly Filtering
  rintro ⟨h, h'⟩
  rw [h] at h'
  exact absurd (Yaml.str.inj (Option.some.inj h')) (by decide)

/-- A narrower selection and a narrower filter decide alike, unless the one misses what should be
reported or the other lets through what should be stopped. -/
theorem same_verdict_iff {selected satisfied stopped filtered : Prop}
    (hselected : selected → satisfied) (hstopped : stopped → filtered) :
    ((selected ∧ ¬ stopped) ↔ (satisfied ∧ ¬ filtered)) ↔
      ¬ ((satisfied ∧ ¬ filtered) ∧ ¬ selected) ∧ ¬ (selected ∧ filtered ∧ ¬ stopped) := by
  tauto

theorem selection_values (hsubset : InSubset raw) {selection : List (Yaml × Yaml)}
    (hselection : part raw "selection" = some (.map selection)) :
    ∀ f ∈ selection, IsValue f.2 := by
  obtain ⟨v, hv, hblock⟩ := hsubset.selection
  obtain rfl := Option.some.inj (hselection.symm.trans hv)
  rcases hblock with ⟨fields, hfields, hvalues⟩ | ⟨items, hitems, -⟩
  · rwa [Yaml.map.inj hfields]
  · cases hitems

/-- Whether a filter stops the event: only a map of fields is read. -/
theorem filtered_iff {rule : CompiledSigmaRule} {filter : Yaml} (hfilt : rule.filt = some filter)
    (hblock : IsBlock filter) :
    rule.filtered rt repr event = true ↔
      ∃ fields, filter = .map fields ∧ SatisfiesAll rt repr starredAtEnds event fields := by
  unfold CompiledSigmaRule.filtered
  rw [hfilt]
  rcases hblock with ⟨fields, rfl, hvalues⟩ | ⟨items, rfl, -⟩
  · simp only [Yaml.map.injEq, exists_eq_left']
    exact matchAll_iff hvalues
  · exact iff_of_false nofun (by rintro ⟨_, h, -⟩; cases h)

/-- The compiled rule does what the rule says, unless the event is missed or let through. -/
theorem finds_iff_reported_iff (hsubset : InSubset raw) {rule : CompiledSigmaRule}
    (hselection : part raw "selection" = some (.map rule.selection))
    (hplain : Plainly raw → rule.filt = none)
    (hfilter : Filtering raw → rule.filt = some ((part raw "filter").getD .null)) :
    ((matchAll rt repr event rule.selection = true ∧ rule.filtered rt repr event = false) ↔
        Reported raw rt repr event) ↔
      ¬ Missed raw rt repr event ∧ ¬ LetThrough raw rt repr event := by
  have hselected := @matchAll_iff rt repr event rule.selection
    (selection_values hsubset hselection)
  have hloosen := @SatisfiesAll.loosen rt repr event rule.selection
  have hsatisfied : (∃ selection, part raw "selection" = some selection ∧
      Satisfies rt repr starred event selection) ↔
      SatisfiesAll rt repr starred event rule.selection := by
    rw [hselection]
    simp only [Option.some.injEq, exists_eq_left', satisfies_map]
  have hmissed : Missed raw rt repr event ↔ Reported raw rt repr event ∧
      ¬ SatisfiesAll rt repr starredAtEnds event rule.selection := by
    unfold Missed
    rw [hselection]
    simp only [Option.some.injEq, Yaml.map.injEq, exists_eq_left']
  have hthrough : (∃ fields, part raw "selection" = some (.map fields) ∧
      SatisfiesAll rt repr starredAtEnds event fields) ↔
      SatisfiesAll rt repr starredAtEnds event rule.selection := by
    rw [hselection]
    simp only [Option.some.injEq, Yaml.map.injEq, exists_eq_left']
  rw [hmissed]
  unfold Reported LetThrough
  rw [hselected, hsatisfied, hthrough]
  rcases hsubset.condition with hplainly | ⟨hfiltering, filter, hgiven, hblock⟩
  · have hnot : ¬ Filtering raw := fun h => neither_of_both ⟨hplainly, h⟩
    have hfalse : rule.filtered rt repr event = false := by
      unfold CompiledSigmaRule.filtered
      rw [hplain hplainly]
    have hsame := same_verdict_iff hloosen (@id False)
    simpa only [hfalse, hnot, false_implies, false_and, and_false, and_true, not_false_eq_true]
      using hsame
  · have hfiltered := @filtered_iff rt repr event rule filter
      (by rw [hfilter hfiltering, hgiven, Option.getD_some]) hblock
    have hunless : (∀ f, part raw "filter" = some f → ¬ Satisfies rt repr starred event f) ↔
        ¬ Satisfies rt repr starred event filter := by
      rw [hgiven]
      simp only [Option.some.injEq, forall_eq']
    have hsome : (∃ f, part raw "filter" = some f ∧ Satisfies rt repr starred event f ∧
        ∀ fields, f = .map fields → ¬ SatisfiesAll rt repr starredAtEnds event fields) ↔
        Satisfies rt repr starred event filter ∧
          ¬ ∃ fields, filter = .map fields ∧ SatisfiesAll rt repr starredAtEnds event fields := by
      rw [hgiven]
      simp only [Option.some.injEq, exists_eq_left', not_exists, not_and]
    have hstops : (∃ fields, filter = .map fields ∧
        SatisfiesAll rt repr starredAtEnds event fields) →
        Satisfies rt repr starred event filter := by
      rintro ⟨fields, rfl, h⟩
      exact satisfies_map.mpr h.loosen
    rw [hunless, hsome, ← Bool.not_eq_true, hfiltered]
    have hsame := same_verdict_iff hloosen hstops
    simpa only [hfiltering, true_implies, true_and] using hsame

end

/-- A rule is faithful for an event if it is refused by its shape, or it is of the subset and,
should it be compiled, no `*` inside a value and no list of filters decides about the event. -/
theorem faithful_iff (rt : Runtime) (repr : Yaml → String) (upper : String → String)
    (path name : String) (raw : List (Yaml × Yaml)) (event : CanonicalEvent) :
    Faithful rt repr upper path name raw event ↔
      Refused raw ∨ (InSubset raw ∧
        (Described raw → ¬ Missed raw rt repr event ∧ ¬ LetThrough raw rt repr event)) := by
  have hrefuses := @compileRule_refuses_iff rt repr upper raw path name
  unfold Faithful
  rw [hrefuses]
  by_cases hrefused : Refused raw
  · refine iff_of_true ⟨?_, fun _ => hrefused⟩ (.inl hrefused)
    intro rule hrule
    obtain ⟨text, htext⟩ := hrefuses.mpr hrefused
    cases htext.symm.trans hrule
  · rw [or_iff_right hrefused]
    by_cases hsubset : InSubset raw
    · rcases @compileRule_cases rt repr upper raw path name with
        ⟨h, -⟩ | ⟨-, hneither, -⟩ | ⟨selection, filt, -, -, hselection, hplain, hfilter, hrun⟩
      · exact absurd h hrefused
      · exact absurd (hsubset.condition.imp_right And.left) hneither
      · -- it is compiled if its description can be read
        cases hmeta : metaOf rt repr upper raw with
        | error e =>
          refine iff_of_true ⟨?_, fun h => absurd hsubset h⟩ ⟨hsubset, fun hdescribed => ?_⟩
          · intro rule hrule
            rw [hrun, hmeta] at hrule
            cases hrule
          · obtain ⟨info, hinfo⟩ := (@metaOf_ok_iff rt repr upper raw).mpr hdescribed
            cases hmeta.symm.trans hinfo
        | ok info =>
          have hdescribed := (@metaOf_ok_iff rt repr upper raw).mp ⟨info, hmeta⟩
          have hcompiled : compileRule rt repr upper path name (.map raw) =
              .ok { info := info, path := path, selection := selection, filt := filt } := by
            rw [hrun, hmeta]
            rfl
          have hverdict := @finds_iff_reported_iff rt repr raw event hsubset
            { info := info, path := path, selection := selection, filt := filt }
            hselection hplain hfilter
          constructor
          · intro h
            refine ⟨hsubset, fun _ => hverdict.mp ?_⟩
            have hfinds := h.1 _ hcompiled { window := [], openFingerprints := [] } {} rfl
            rwa [evaluate_finds_iff rfl] at hfinds
          · rintro ⟨-, h⟩
            refine ⟨fun rule hrule context t hopen => ?_, fun hnot => absurd hsubset hnot⟩
            obtain rfl := Except.ok.inj (hcompiled.symm.trans hrule)
            rw [evaluate_finds_iff hopen t]
            exact hverdict.mpr (h hdescribed)
    · exact iff_of_false (fun h => hrefused (h.2 hsubset)) fun h => hsubset h.1

/-! ### Samples -/

def sampleRule (detection : List (Yaml × Yaml)) : List (Yaml × Yaml) :=
  [(.str "title", .str "Account added"), (.str "id", .str "net-add"),
    (.str "logsource", .map [(.str "product", .str "windows")]), (.str "detection", .map detection)]

/-- `net*add` -/
def netAdd : List (Yaml × Yaml) :=
  sampleRule [(.str "condition", .str "selection"),
    (.str "selection", .map [(.str "CommandLine", .str "net*add")])]

/-- The filter is a list of one map. -/
def exceptAdmin : List (Yaml × Yaml) :=
  sampleRule [(.str "condition", .str "selection and not filter"),
    (.str "selection", .map [(.str "Image", .str "net.exe")]),
    (.str "filter", .seq [.map [(.str "user.name", .str "admin")]])]

def netEvent : CanonicalEvent where
  id := "evt_1"
  tenantId := "ten_a"
  timestamp := ⟨0, some 0⟩
  ingestedAt := ⟨0, some 0⟩
  source := "sysmon"
  sourceType := "endpoint"
  eventType := "process_creation"
  category := "process"
  user := some { name := some "admin" }
  process := some { name := some "net.exe", commandLine := some "net user eve /add" }

def sampleUpper (text : String) : String :=
  String.ofList (text.toList.map Char.toUpper)

/-- The command line is `net`, something and `add`, and the rule does not find it. -/
theorem netAdd_missed :
    Reported netAdd sampleRuntime (fun _ => "") netEvent ∧
      ¬ Faithful sampleRuntime (fun _ => "") sampleUpper "net.yml" "net.yml" netAdd netEvent := by
  have hmem : "net user eve /add".toList ∈ (starred "net*add".toList).language := by
    have hstarred : starred "net*add".toList =
        "net".toList.map some ++ none :: "add".toList.map some := by decide
    rw [hstarred, Wildcard.mem_append]
    exact ⟨_, Wildcard.mem_literal.mpr rfl, " user eve /add".toList,
      Wildcard.mem_none_literal.mpr (by decide), by decide⟩
  have hreported : Reported netAdd sampleRuntime (fun _ => "") netEvent := by
    refine ⟨⟨_, rfl, satisfies_map.mpr fun f hf => ?_⟩, fun hfiltering => ?_⟩
    · obtain rfl := List.mem_singleton.mp hf
      exact ⟨"net user eve /add", rfl, .plain rfl hmem⟩
    · exact absurd (Yaml.str.inj (Option.some.inj hfiltering)) (by decide)
  refine ⟨hreported, fun h => ?_⟩
  obtain ⟨rule, hrule, hnothing⟩ : ∃ rule,
      compileRule sampleRuntime (fun _ => "") sampleUpper "net.yml" "net.yml" (.map netAdd) =
        .ok rule ∧
      (rule.evaluate sampleRuntime (fun _ => "") netEvent
        { window := [], openFingerprints := [] } {}).1 = .ok [] := ⟨_, rfl, rfl⟩
  have hfinds := h.1 rule hrule { window := [], openFingerprints := [] } {} rfl
  obtain ⟨finding, hfound⟩ := hfinds.mpr hreported
  cases hnothing.symm.trans hfound

/-- The event satisfies the filter, which is a list, and is found all the same. -/
theorem exceptAdmin_letThrough :
    ¬ Reported exceptAdmin sampleRuntime (fun _ => "") netEvent ∧
      ¬ Faithful sampleRuntime (fun _ => "") sampleUpper "net.yml" "net.yml" exceptAdmin
        netEvent := by
  have hmem : "admin".toList ∈ (starred "admin".toList).language := by
    have hstarred : starred "admin".toList = "admin".toList.map some := by decide
    rw [hstarred]
    exact Wildcard.mem_literal.mpr rfl
  have hstopped : ¬ Reported exceptAdmin sampleRuntime (fun _ => "") netEvent := by
    rintro ⟨-, hunless⟩
    refine hunless rfl _ rfl (.inr ⟨_, rfl, _, List.mem_singleton_self _, fun f hf => ?_⟩)
    obtain rfl := List.mem_singleton.mp hf
    exact ⟨"admin", rfl, .plain rfl hmem⟩
  refine ⟨hstopped, fun h => ?_⟩
  obtain ⟨rule, finding, hrule, hfound⟩ : ∃ rule finding,
      compileRule sampleRuntime (fun _ => "") sampleUpper "net.yml" "net.yml" (.map exceptAdmin) =
        .ok rule ∧
      (rule.evaluate sampleRuntime (fun _ => "") netEvent
        { window := [], openFingerprints := [] } {}).1 = .ok [finding] := ⟨_, _, rfl, rfl⟩
  have hfinds := h.1 rule hrule { window := [], openFingerprints := [] } {} rfl
  exact hstopped (hfinds.mp ⟨finding, hfound⟩)

end BlueTeam.Sigma
