/- GID: BlueTeam/Yara/Fidelity
   generality: I
   source: packages/yara-engine/blueteam_yara/engine.py
   digest: Which rule texts the subset scanner refuses, and which it scans for what they say. -/

import BlueTeam.Yara.Engine
import BlueTeam.Yara.Rule

set_option autoImplicit false
set_option relaxedAutoImplicit false

namespace BlueTeam.Yara

open BlueTeam.Python BlueTeam.Python.Re BlueTeam.Lib BlueTeam.Lib.Regex BlueTeam.Objects

/-! ### What is scanned for -/

section

variable (u : Tables)

/-- The definitions that count: of each name the last one. -/
def table (text : String) : Dict String (List Nat) :=
  dictOf ((definitions u text).filterMap (decoded u))

/-- The bytes that count as a value: its UTF-8, and its Latin-1 if it has one. -/
def readings (value : List Nat) : Clause UInt8 :=
  (encodeUtf8 value).toList ++ if ∀ n ∈ value, n < 256 then [value.map UInt8.ofNat] else []

/-- What the scanner asks of a content. -/
def asked (text : String) : List (Clause UInt8) :=
  let clauses := (table u text).map fun s => readings s.2
  if hasInfix "all of them" (conditionOf u text) then clauses else [clauses.flatten]

/-- The head, the sections and the tokens are those of a rule. -/
structure Valid (text : String) : Prop where
  head : (ruleHead u).search text.toList ≠ none
  strings : hasInfix "strings:" text = true
  condition : hasInfix "condition:" text = true
  allowed : ∀ token ∈ forbidden, hasInfix token text = false

/-- The text is valid, defines strings that can be read, and its condition, as far as the scanner
reads it, is missing or has one of the two phrases in it. -/
structure Accepted (text : String) : Prop extends Valid u text where
  defined : definitions u text ≠ []
  decodable : ∀ d ∈ definitions u text, decoded u d ≠ none
  encodable : ∀ s ∈ table u text, encodeUtf8 s.2 ≠ none
  phrase : hasInfix "all of them" (conditionOf u text) = true ∨
    hasInfix "any of them" (conditionOf u text) = true ∨ conditionOf u text = ""

/-- On every content the text is refused, or it is a rule with plain strings and one of the two
conditions and the scan reports a match just where that rule holds. -/
def Faithful (text : String) : Prop :=
  ∀ content, (∃ e, subsetScan u content text = .error e) ∨
    ∃ rule found, plainRule text = some rule ∧ subsetScan u content text = .ok found ∧
      (found.isSome = true ↔ rule.Holds content)

end

/-! ### Options and tables -/

section

variable {α β : Type} {f : α → Option β} {as : List α}

theorem mapM_of_forall (h : ∀ a ∈ as, f a ≠ none) : as.mapM f = some (as.filterMap f) := by
  induction as with
  | nil => rfl
  | cons a as ih =>
      obtain ⟨hfirst, hrest⟩ := List.forall_mem_cons.mp h
      obtain ⟨b, hb⟩ := Option.ne_none_iff_exists'.mp hfirst
      rw [List.mapM_cons, hb, ih hrest, List.filterMap_cons_some hb]
      rfl

theorem mapM_of_exists (h : ∃ a ∈ as, f a = none) : as.mapM f = none := by
  induction as with
  | nil =>
      obtain ⟨a, ha, -⟩ := h
      cases ha
  | cons a as ih =>
      rw [List.mapM_cons]
      cases hb : f a with
      | none => rfl
      | some b =>
          have hrest : ∃ a ∈ as, f a = none := by
            obtain ⟨a', ha', hnone⟩ := h
            rcases List.mem_cons.mp ha' with rfl | ha'
            · rw [hb] at hnone
              cases hnone
            · exact ⟨a', ha', hnone⟩
          rw [ih hrest]
          rfl

theorem set_ne_nil (d : Dict String α) (key : String) (value : α) : d.set key value ≠ [] := by
  cases d with
  | nil => exact List.cons_ne_nil _ _
  | cons e d =>
      unfold Dict.set
      split <;> exact List.cons_ne_nil _ _

theorem dictOf_eq_nil_iff {entries : List (String × α)} : dictOf entries = [] ↔ entries = [] := by
  have hgrows : ∀ (entries : List (String × α)) (d : Dict String α), d ≠ [] →
      entries.foldl (fun d entry => d.set entry.1 entry.2) d ≠ [] := by
    intro entries
    induction entries with
    | nil => exact fun d hd => hd
    | cons entry entries ih => exact fun d _ => ih _ (set_ne_nil d entry.1 entry.2)
  constructor
  · intro h
    cases entries with
    | nil => rfl
    | cons entry entries => exact absurd h (hgrows entries _ (set_ne_nil [] entry.1 entry.2))
  · rintro rfl
    rfl

end

/-! ### The steps of a scan -/

section

variable {u : Tables} {text : String} {content : Bytes} {value : List Nat}

theorem validateRule_ok_iff : (∃ name, validateRule u text = .ok name) ↔ Valid u text := by
  unfold validateRule
  cases hhead : (ruleHead u).search text.toList with
  | none => exact ⟨fun ⟨name, h⟩ => (by cases h), fun h => absurd hhead h.head⟩
  | some name =>
      have hsome : (ruleHead u).search text.toList ≠ none := by
        rw [hhead]
        exact Option.some_ne_none _
      dsimp only
      split
      · rename_i hmissing
        rw [Bool.or_eq_true, Bool.not_eq_true', Bool.not_eq_true'] at hmissing
        refine ⟨fun ⟨name, h⟩ => (by cases h), fun h => ?_⟩
        rcases hmissing with hmissing | hmissing
        · exact absurd h.strings (by rw [hmissing]; exact Bool.false_ne_true)
        · exact absurd h.condition (by rw [hmissing]; exact Bool.false_ne_true)
      · rename_i hthere
        rw [Bool.or_eq_true, not_or, Bool.not_eq_true', Bool.not_eq_true', Bool.not_eq_false,
          Bool.not_eq_false] at hthere
        cases hfind : forbidden.find? fun token => hasInfix token text with
        | none =>
            refine ⟨fun _ => ⟨hsome, hthere.1, hthere.2, fun token htoken => ?_⟩,
              fun _ => ⟨_, rfl⟩⟩
            exact Bool.eq_false_iff.mpr (List.find?_eq_none.mp hfind token htoken)
        | some token =>
            refine ⟨fun ⟨name, h⟩ => (by cases h), fun h => ?_⟩
            have hin := List.find?_some hfind
            rw [h.allowed token (List.mem_of_find?_eq_some hfind)] at hin
            cases hin

theorem stringsOf_eq (h : ∀ d ∈ definitions u text, decoded u d ≠ none) :
    stringsOf u text = .ok (table u text) := by
  unfold stringsOf table
  rw [mapM_of_forall h]

theorem stringsOf_error (h : ∃ d ∈ definitions u text, decoded u d = none) :
    stringsOf u text = .error .unicodeDecodeError := by
  unfold stringsOf
  rw [mapM_of_exists h]

theorem table_eq_nil_iff (h : ∀ d ∈ definitions u text, decoded u d ≠ none) :
    table u text = [] ↔ definitions u text = [] := by
  rw [table, dictOf_eq_nil_iff]
  constructor
  · intro hnone
    by_contra hne
    obtain ⟨d, hd⟩ := List.exists_mem_of_ne_nil _ hne
    obtain ⟨entry, hentry⟩ := Option.ne_none_iff_exists'.mp (h d hd)
    have hmem := List.mem_filterMap.mpr ⟨d, hd, hentry⟩
    rw [hnone] at hmem
    cases hmem
  · intro hnone
    rw [hnone]
    rfl

/-- A value of letters up to 255 occurs in the text of a content if its bytes occur in it. -/
theorem infix_map_toNat_iff : value <:+: content.map UInt8.toNat ↔
    (∀ n ∈ value, n < 256) ∧ value.map UInt8.ofNat <:+: content := by
  constructor
  · intro h
    obtain ⟨bytes, hbytes, rfl⟩ := List.infix_map_iff.mp h
    refine ⟨List.forall_mem_map.mpr fun byte _ => byte.toNat_lt, ?_⟩
    have hback : (bytes.map UInt8.toNat).map UInt8.ofNat = bytes := by
      rw [List.map_map]
      exact List.map_id'' (fun byte => UInt8.ofNat_toNat) bytes
    rwa [hback]
  · rintro ⟨hsmall, hin⟩
    refine List.infix_map_iff.mpr ⟨_, hin, ?_⟩
    have hback : ∀ n ∈ value, (UInt8.toNat ∘ UInt8.ofNat) n = id n :=
      fun n hn => UInt8.toNat_ofNat_of_lt' (hsmall n hn)
    rw [List.map_map, List.map_congr_left hback, List.map_id]

theorem occursIn_eq (h : encodeUtf8 value ≠ none) :
    occursIn content value = some (decide (∃ w ∈ readings value, w <:+: content)) := by
  obtain ⟨bytes, hbytes⟩ := Option.ne_none_iff_exists'.mp h
  unfold occursIn readings
  rw [hbytes, Option.map_some, Option.some.injEq, ← Bool.decide_or, decide_eq_decide,
    infix_map_toNat_iff, Option.toList_some]
  constructor
  · rintro (hin | ⟨hsmall, hin⟩)
    · exact ⟨bytes, List.mem_append_left _ (List.mem_singleton_self _), hin⟩
    · refine ⟨_, List.mem_append_right _ ?_, hin⟩
      rw [if_pos hsmall]
      exact List.mem_singleton_self _
  · rintro ⟨w, hw, hin⟩
    rcases List.mem_append.mp hw with hw | hw
    · rw [List.mem_singleton.mp hw] at hin
      exact .inl hin
    · split at hw
      · rename_i hsmall
        rw [List.mem_singleton.mp hw] at hin
        exact .inr ⟨hsmall, hin⟩
      · cases hw

theorem occursIn_eq_none (h : encodeUtf8 value = none) : occursIn content value = none := by
  unfold occursIn
  rw [h]
  rfl

/-- The entry of the table is found in the content. -/
def Found (content : Bytes) (s : String × List Nat) : Prop :=
  ∃ w ∈ readings s.2, w <:+: content

instance (content : Bytes) (s : String × List Nat) : Decidable (Found content s) :=
  inferInstanceAs (Decidable (∃ w ∈ readings s.2, _))

theorem tested_eq (h : ∀ s ∈ table u text, encodeUtf8 s.2 ≠ none) :
    ((table u text).mapM fun s => (occursIn content s.2).map fun occurs => (s.1, occurs)) =
      some ((table u text).map fun s => (s.1, decide (Found content s))) := by
  have hone : ∀ s ∈ table u text, (occursIn content s.2).map (fun occurs => (s.1, occurs)) =
      some (s.1, decide (Found content s)) := by
    intro s hs
    rw [occursIn_eq (h s hs)]
    rfl
  rw [mapM_of_forall fun s hs => by rw [hone s hs]; exact Option.some_ne_none _,
    List.filterMap_congr hone, List.filterMap_eq_map']

theorem tested_error (h : ∃ s ∈ table u text, encodeUtf8 s.2 = none) :
    ((table u text).mapM fun s => (occursIn content s.2).map fun occurs => (s.1, occurs)) =
      none := by
  obtain ⟨s, hs, hnone⟩ := h
  refine mapM_of_exists ⟨s, hs, ?_⟩
  rw [occursIn_eq_none hnone]
  rfl

theorem satisfies_asked_iff : Satisfies (asked u text) content ↔
    if hasInfix "all of them" (conditionOf u text) then ∀ s ∈ table u text, Found content s
    else ∃ s ∈ table u text, Found content s := by
  unfold asked
  dsimp only
  split
  · exact List.forall_mem_map
  · rw [satisfies_singleton]
    constructor
    · rintro ⟨w, hw, hin⟩
      obtain ⟨clause, hclause, hw⟩ := List.mem_flatten.mp hw
      obtain ⟨s, hs, rfl⟩ := List.mem_map.mp hclause
      exact ⟨s, hs, w, hw, hin⟩
    · rintro ⟨s, hs, w, hw, hin⟩
      exact ⟨w, List.mem_flatten.mpr ⟨_, List.mem_map_of_mem hs, hw⟩, hin⟩

/-- The names of the entries that are found. -/
theorem names_tested (entries : Dict String (List Nat)) :
    (((entries.map fun s => (s.1, decide (Found content s))).filter (·.2)).map (·.1)) =
      (entries.filter fun s => Found content s).map (·.1) := by
  rw [List.filter_map, List.map_map]
  rfl

end

/-! ### Scans -/

section

variable (u : Tables)

/-- What is reported of a content in which something is found. -/
def reported (name : String) (content : Bytes) (text : String) : YaraMatch :=
  { ruleId := name
    matchedStrings := ((table u text).filter fun s => Found content s).map (·.1)
    engine := "blueteam_yara.subset"
    metadata := ruleMetadata u text
    ruleVersion := ((ruleMetadata u text).get? "version").getD "1.0.0" }

end

section

variable {u : Tables} {text name : String} {content : Bytes}

theorem subsetScan_run (hname : validateRule u text = .ok name)
    (hdecodable : ∀ d ∈ definitions u text, decoded u d ≠ none) (hdefined : table u text ≠ [])
    (hencodable : ∀ s ∈ table u text, encodeUtf8 s.2 ≠ none) :
    subsetScan u content text =
      if hasInfix "all of them" (conditionOf u text) then
        .ok (if ∀ s ∈ table u text, Found content s then some (reported u name content text)
          else none)
      else if hasInfix "any of them" (conditionOf u text) ∨ conditionOf u text = "" then
        .ok (if ∃ s ∈ table u text, Found content s then some (reported u name content text)
          else none)
      else .error (.valueError "unsupported condition — use 'all of them' or 'any of them'") := by
  have hempty : (table u text).isEmpty = false := List.isEmpty_eq_false_iff.mpr hdefined
  have hall : ((((table u text).filter fun s => Found content s).map (·.1)).length =
      (table u text).length) ↔ ∀ s ∈ table u text, Found content s := by
    rw [List.length_map, List.length_filter_eq_length_iff]
    simp only [decide_eq_true_eq]
  have hany : (((table u text).filter fun s => Found content s).map (·.1)).isEmpty = false ↔
      ∃ s ∈ table u text, Found content s := by
    rw [List.isEmpty_eq_false_iff_exists_mem]
    simp
  unfold subsetScan
  rw [hname, stringsOf_eq hdecodable]
  simp only [bind, Except.bind, pure, Except.pure, hempty, tested_eq hencodable, names_tested]
  by_cases hphrase : hasInfix "all of them" (conditionOf u text) = true
  · by_cases hevery : ∀ s ∈ table u text, Found content s
    · have hlength := hall.mpr hevery
      simp only [hphrase, hlength, decide_true, Bool.not_true, if_pos hevery]
      rfl
    · have hlength := mt hall.mp hevery
      simp only [hphrase, hlength, decide_false, Bool.not_false, if_neg hevery]
      rfl
  · by_cases hsome : hasInfix "any of them" (conditionOf u text) = true ∨ conditionOf u text = ""
    · have hphrase' : (hasInfix "any of them" (conditionOf u text) ||
          (conditionOf u text).isEmpty) = true := by
        rwa [Bool.or_eq_true, String.isEmpty_iff]
      by_cases hexists : ∃ s ∈ table u text, Found content s
      · have hfound := hany.mpr hexists
        simp only [hphrase, hphrase', hfound, Bool.not_false, Bool.not_true, if_pos hsome,
          if_pos hexists]
        rfl
      · have hfound := Bool.not_eq_false _ ▸ mt hany.mp hexists
        simp only [hphrase, hphrase', hfound, Bool.not_false, Bool.not_true, if_pos hsome,
          if_neg hexists]
        rfl
    · have hphrase' : ¬ (hasInfix "any of them" (conditionOf u text) ||
          (conditionOf u text).isEmpty) = true := by
        rwa [Bool.or_eq_true, String.isEmpty_iff]
      simp only [hphrase, hphrase', if_neg hsome]
      rfl

theorem subsetScan_error (content : Bytes) (h : ¬ Accepted u text) :
    ∃ e, subsetScan u content text = .error e := by
  cases hname : validateRule u text with
  | error e =>
      refine ⟨e, ?_⟩
      unfold subsetScan
      rw [hname]
      rfl
  | ok name =>
      have hvalid : Valid u text := validateRule_ok_iff.mp ⟨name, hname⟩
      by_cases hdecodable : ∀ d ∈ definitions u text, decoded u d ≠ none
      · by_cases hdefined : table u text = []
        · unfold subsetScan
          rw [hname, stringsOf_eq hdecodable, hdefined]
          exact ⟨_, rfl⟩
        · by_cases hencodable : ∀ s ∈ table u text, encodeUtf8 s.2 ≠ none
          · have hphrase : ¬ (hasInfix "all of them" (conditionOf u text) = true ∨
                hasInfix "any of them" (conditionOf u text) = true ∨ conditionOf u text = "") :=
              fun hphrase => h ⟨hvalid, mt (table_eq_nil_iff hdecodable).mpr hdefined, hdecodable,
                hencodable, hphrase⟩
            obtain ⟨hall, hany⟩ := not_or.mp hphrase
            rw [subsetScan_run hname hdecodable hdefined hencodable, if_neg hall, if_neg hany]
            exact ⟨_, rfl⟩
          · have hnone : ∃ s ∈ table u text, encodeUtf8 s.2 = none := by
              by_contra hall
              exact hencodable fun s hs hs' => hall ⟨s, hs, hs'⟩
            have hempty : (table u text).isEmpty = false := List.isEmpty_eq_false_iff.mpr hdefined
            refine ⟨.unicodeEncodeError, ?_⟩
            unfold subsetScan
            rw [hname, stringsOf_eq hdecodable]
            simp only [bind, Except.bind, pure, Except.pure, hempty, tested_error hnone]
            rfl
      · have hnone : ∃ d ∈ definitions u text, decoded u d = none := by
          by_contra hall
          exact hdecodable fun d hd hd' => hall ⟨d, hd, hd'⟩
        unfold subsetScan
        rw [hname, stringsOf_error hnone]
        exact ⟨_, rfl⟩

/-- The scan of an accepted text reports a match where what it asks is satisfied. -/
theorem subsetScan_ok (content : Bytes) (h : Accepted u text) :
    ∃ found, subsetScan u content text = .ok found ∧
      (found.isSome = true ↔ Satisfies (asked u text) content) := by
  obtain ⟨name, hname⟩ := validateRule_ok_iff.mpr h.toValid
  have hdefined : table u text ≠ [] := mt (table_eq_nil_iff h.decodable).mp h.defined
  rw [subsetScan_run hname h.decodable hdefined h.encodable, satisfies_asked_iff]
  by_cases hall : hasInfix "all of them" (conditionOf u text) = true
  · rw [if_pos hall, if_pos hall]
    refine ⟨_, rfl, ?_⟩
    split_ifs with hevery
    · exact iff_of_true rfl hevery
    · exact iff_of_false Bool.false_ne_true hevery
  · have hany := h.phrase.resolve_left hall
    rw [if_neg hall, if_pos hany, if_neg hall]
    refine ⟨_, rfl, ?_⟩
    split_ifs with hexists
    · exact iff_of_true rfl hexists
    · exact iff_of_false Bool.false_ne_true hexists

theorem subsetScan_ok_iff : (∃ found, subsetScan u content text = .ok found) ↔ Accepted u text := by
  constructor
  · rintro ⟨found, hok⟩
    by_contra hnot
    obtain ⟨e, herror⟩ := subsetScan_error content hnot
    rw [hok] at herror
    cases herror
  · intro h
    obtain ⟨found, hok, -⟩ := subsetScan_ok content h
    exact ⟨found, hok⟩

/-! ### Rules and scans -/

theorem readings_length_le (value : List Nat) : (readings value).length ≤ 2 := by
  unfold readings
  rw [List.length_append]
  have hutf8 : (encodeUtf8 value).toList.length ≤ 1 := by
    cases encodeUtf8 value <;> simp
  split
  · rw [List.length_singleton]
    omega
  · rw [List.length_nil]
    omega

theorem asked_ne_nil (h : Accepted u text) : asked u text ≠ [] := by
  have hdefined : table u text ≠ [] := mt (table_eq_nil_iff h.decodable).mp h.defined
  unfold asked
  dsimp only
  split
  · exact fun hnil => hdefined (List.map_eq_nil_iff.mp hnil)
  · exact List.cons_ne_nil _ _

theorem asked_simple : Simple 2 (asked u text) := by
  unfold asked
  dsimp only
  split
  · refine .inl fun clause hclause => ?_
    obtain ⟨s, -, rfl⟩ := List.mem_map.mp hclause
    exact readings_length_le s.2
  · exact .inr ⟨_, rfl⟩

/-- There are bytes enough to tell four words apart. -/
theorem exists_byte_apart (words : Clause UInt8) (h : words.length ≤ 2 + 2) :
    ∃ b, Apart b words := by
  have hletters : ((List.range 9).map UInt8.ofNat).Nodup := by decide
  refine exists_apart hletters ?_
  rw [List.length_map, List.length_range]
  omega

/-- A text is scanned for what it says just if it is refused, or it is a rule with plain strings and
one of the two conditions, and what is scanned for and what the rule asks cover each other. -/
theorem subset_faithful_iff (u : Tables) (text : String) : Faithful u text ↔
    (Accepted u text → ∃ rule, plainRule text = some rule ∧
      Covers (asked u text) rule.clauses ∧ Covers rule.clauses (asked u text)) := by
  constructor
  · intro h haccepted
    have hrule : ∀ content, ∃ rule, plainRule text = some rule ∧
        (Satisfies (asked u text) content ↔ rule.Holds content) := by
      intro content
      obtain ⟨found, hok, hfound⟩ := subsetScan_ok content haccepted
      rcases h content with ⟨e, herror⟩ | ⟨rule, found', hplain, hok', hholds⟩
      · rw [hok] at herror
        cases herror
      · rw [hok] at hok'
        obtain rfl := Except.ok.inj hok'
        exact ⟨rule, hplain, hfound.symm.trans hholds⟩
    obtain ⟨rule, hplain, -⟩ := hrule []
    refine ⟨rule, hplain, ?_⟩
    refine (satisfies_congr_iff exists_byte_apart (asked_ne_nil haccepted) rule.clauses_ne_nil
      asked_simple rule.clauses_simple).mp fun content => ?_
    obtain ⟨rule', hplain', hsame⟩ := hrule content
    rw [hplain] at hplain'
    obtain rfl := Option.some.inj hplain'
    exact hsame.trans PlainRule.holds_iff
  · intro h content
    by_cases haccepted : Accepted u text
    · obtain ⟨rule, hplain, hcovers, hcovered⟩ := h haccepted
      obtain ⟨found, hok, hfound⟩ := subsetScan_ok content haccepted
      refine .inr ⟨rule, found, hplain, hok, hfound.trans ?_⟩
      exact ⟨fun hsat => PlainRule.holds_iff.mpr (hcovers.satisfies hsat),
        fun hholds => hcovered.satisfies (PlainRule.holds_iff.mp hholds)⟩
    · exact .inl (subsetScan_error content haccepted)

end

end BlueTeam.Yara
