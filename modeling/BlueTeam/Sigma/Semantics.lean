/- GID: BlueTeam/Sigma/Semantics
   generality: I
   source: packages/sigma-compiler/blueteam_sigma/compiler.py
   digest: What a Sigma rule says, and which compiled rules do what it says. -/

import BlueTeam.Lib.Wildcard
import BlueTeam.Sigma.Compiler

set_option autoImplicit false
set_option relaxedAutoImplicit false

namespace BlueTeam.Sigma

open BlueTeam.Python BlueTeam.Schema BlueTeam.Lib BlueTeam.Detection

/-! ### What a rule says -/

/-- A value that is no collection. -/
def Yaml.isPlain : Yaml → Bool
  | .seq _ | .set _ | .map _ => false
  | _ => true

/-- A plain value, or a list of values. -/
inductive IsValue : Yaml → Prop
  | plain {v : Yaml} (h : v.isPlain = true) : IsValue v
  | list {items : List Yaml} (h : ∀ v ∈ items, IsValue v) : IsValue (.seq items)

def IsFieldMap (v : Yaml) : Prop :=
  ∃ fields, v = .map fields ∧ ∀ f ∈ fields, IsValue f.2

/-- What `selection` and `filter` may be: a map of fields, or a list of these. -/
def IsBlock (v : Yaml) : Prop :=
  IsFieldMap v ∨ ∃ items, v = .seq items ∧ ∀ item ∈ items, IsFieldMap item

def starAt (c : Char) : Option Char :=
  if c = '*' then none else some c

/-- Each `*` stands for any sequence. -/
def starred (text : List Char) : Wildcard Char :=
  text.map starAt

/-- Only a `*` at an end stands for any sequence. -/
def starredAtEnds : List Char → Wildcard Char
  | [] => []
  | [c] => [starAt c]
  | c :: d :: rest =>
      starAt c :: ((d :: rest).dropLast.map some ++
        [starAt ((d :: rest).getLast (List.cons_ne_nil d rest))])

section

variable (rt : Runtime) (repr : Yaml → String)

/-- A value matches the text of a field, whatever the case; of a list, one value matches. -/
inductive Matches (read : List Char → Wildcard Char) (observed : String) : Yaml → Prop
  | plain {v : Yaml} (hplain : v.isPlain = true)
      (h : (rt.lower observed).toList ∈ (read (rt.lower (v.text repr)).toList).language) :
      Matches read observed v
  | oneOf {items : List Yaml} {v : Yaml} (hv : v ∈ items) (h : Matches read observed v) :
      Matches read observed (.seq items)

variable (read : List Char → Wildcard Char) (event : CanonicalEvent)

def FieldMatches (f : Yaml × Yaml) : Prop :=
  ∃ observed, canonicalField rt event f.1 = some observed ∧ Matches rt repr read observed f.2

def SatisfiesAll (fields : List (Yaml × Yaml)) : Prop :=
  ∀ f ∈ fields, FieldMatches rt repr read event f

/-- Every field of a map matches; of a list, one map is satisfied. -/
def Satisfies (block : Yaml) : Prop :=
  (∃ fields, block = .map fields ∧ SatisfiesAll rt repr read event fields) ∨
    ∃ items, block = .seq items ∧
      ∃ fields, .map fields ∈ items ∧ SatisfiesAll rt repr read event fields

end

section

variable (raw : List (Yaml × Yaml))

/-- `raw["detection"][key]` -/
def part (key : String) : Option Yaml :=
  match Yaml.get raw "detection" with
  | some (.map detection) => Yaml.get detection key
  | _ => none

def Plainly : Prop :=
  part raw "condition" = some (.str "selection")

def Filtering : Prop :=
  part raw "condition" = some (.str "selection and not filter")

structure InSubset : Prop where
  required : ∀ key ∈ requiredFields, (Yaml.get raw key).isSome = true
  selection : ∃ selection, part raw "selection" = some selection ∧ IsBlock selection
  condition : Plainly raw ∨
    Filtering raw ∧ ∃ filter, part raw "filter" = some filter ∧ IsBlock filter

/-- What the compiler refuses. -/
inductive Refused : Prop
  | missing (key : String) (hkey : key ∈ requiredFields) (h : Yaml.get raw key = none)
  | noCondition (detection : Yaml) (hdetection : Yaml.get raw "detection" = some detection)
      (h : detection.contains "condition" = .ok false)
  | condition (v : Yaml) (hv : part raw "condition" = some v) (hplain : v.isPlain = true)
      (hplainly : ¬ Plainly raw) (hfiltering : ¬ Filtering raw)
  | selection (hcondition : Plainly raw ∨ Filtering raw)
      (h : ∀ fields, part raw "selection" ≠ some (.map fields))

/-- The fields that only describe the rule have the shapes that are read. -/
structure Described : Prop where
  tags : ∀ v, Yaml.get raw "tags" = some v → v.truthy = true → ∃ items, v.elements = .ok items
  logsource : ∀ v, Yaml.get raw "logsource" = some v → v.truthy = true → ∃ fields, v = .map fields
  status : ∀ v, Yaml.get raw "status" = some v → v.isPlain = true

variable (rt : Runtime) (repr : Yaml → String) (event : CanonicalEvent)

/-- The event satisfies the selection, and does not satisfy the filter. -/
def Reported : Prop :=
  (∃ selection, part raw "selection" = some selection ∧
    Satisfies rt repr starred event selection) ∧
  (Filtering raw → ∀ filter, part raw "filter" = some filter →
    ¬ Satisfies rt repr starred event filter)

/-- The event should be reported, but a field of the selection matches through a `*` inside a value
only. -/
def Missed : Prop :=
  Reported raw rt repr event ∧ ∃ fields, part raw "selection" = some (.map fields) ∧
    ¬ SatisfiesAll rt repr starredAtEnds event fields

/-- The event is selected, and should be filtered, but the filter is a list, or a field of it
matches through a `*` inside a value only. -/
def LetThrough : Prop :=
  (∃ fields, part raw "selection" = some (.map fields) ∧
    SatisfiesAll rt repr starredAtEnds event fields) ∧
  Filtering raw ∧ ∃ filter, part raw "filter" = some filter ∧
    Satisfies rt repr starred event filter ∧
      ∀ fields, filter = .map fields → ¬ SatisfiesAll rt repr starredAtEnds event fields

end

/-! ### Values -/

theorem starredAtEnds_concat (c b : Char) (mid : List Char) :
    starredAtEnds (c :: (mid ++ [b])) = starAt c :: (mid.map some ++ [starAt b]) := by
  cases mid with
  | nil => rfl
  | cons d rest =>
    show starAt c :: ((d :: (rest ++ [b])).dropLast.map some ++ [starAt _]) = _
    congr 2
    · rw [← List.cons_append, List.dropLast_concat]
    · simp

/-- `_match_value` reads a `*` at an end only. -/
theorem matchText_iff (value text : List Char) :
    matchText value text = true ↔ value ∈ (starredAtEnds text).language := by
  rcases text with _ | ⟨c, rest⟩
  · simp [matchText, starredAtEnds, Wildcard.mem_nil]
  · rcases List.eq_nil_or_concat rest with rfl | ⟨mid, b, rfl⟩
    · by_cases hc : c = '*'
      · subst hc
        have hnone : value ∈ Wildcard.language [none] ↔ [] <+: value :=
          @Wildcard.mem_concat_none _ [] value
        simp [matchText, starredAtEnds, starAt, hnone]
      · have hsome : value ∈ Wildcard.language [some c] ↔ value = [c] :=
          @Wildcard.mem_literal _ [c] value
        simp [matchText, starredAtEnds, starAt, hc, hsome]
    · have hlast : (c :: (mid ++ [b])).getLast? = some b := by
        rw [← List.cons_append, List.getLast?_concat]
      have hdrop : (c :: (mid ++ [b])).dropLast = c :: mid := by
        rw [← List.cons_append, List.dropLast_concat]
      rw [List.concat_eq_append, starredAtEnds_concat]
      unfold matchText
      rw [hlast, hdrop]
      simp only [List.head?_cons, Option.some.injEq, List.tail_cons, List.dropLast_concat]
      by_cases hb : b = '*' <;> by_cases hc : c = '*'
      · rw [if_pos ⟨hb, hc⟩, hb, hc]
        exact decide_eq_true_iff.trans Wildcard.mem_none_literal_none.symm
      · have hliteral : starAt c :: (mid.map some ++ [starAt b]) =
            (c :: mid).map some ++ [none] := by
          simp [starAt, hb, hc]
        rw [if_neg fun h => hc h.2, if_pos hb, hliteral]
        exact decide_eq_true_iff.trans Wildcard.mem_concat_none.symm
      · have hliteral : starAt c :: (mid.map some ++ [starAt b]) =
            none :: (mid ++ [b]).map some := by
          simp [starAt, hb, hc]
        rw [if_neg fun h => hb h.1, if_neg hb, if_pos hc, hliteral]
        exact decide_eq_true_iff.trans Wildcard.mem_none_literal.symm
      · have hliteral : starAt c :: (mid.map some ++ [starAt b]) =
            (c :: (mid ++ [b])).map some := by
          simp [starAt, hb, hc]
        rw [if_neg fun h => hb h.1, if_neg hb, if_neg hc, hliteral]
        exact decide_eq_true_iff.trans Wildcard.mem_literal.symm

/-- To read every `*` is looser than to read those at the ends. -/
theorem loosens_starred (text : List Char) :
    Wildcard.Loosens (starredAtEnds text) (starred text) := by
  have hmid : ∀ mid : List Char, Wildcard.Loosens (mid.map some) (mid.map starAt) := by
    intro mid
    induction mid with
    | nil => exact .nil
    | cons c mid ih =>
      refine .cons ?_ ih
      unfold starAt
      split
      · exact .inr rfl
      · exact .inl rfl
  rcases text with _ | ⟨c, rest⟩
  · exact .nil
  · rcases List.eq_nil_or_concat rest with rfl | ⟨mid, b, rfl⟩
    · exact .cons (.inl rfl) .nil
    · rw [List.concat_eq_append, starredAtEnds_concat]
      unfold starred
      rw [List.map_cons, List.map_append]
      exact .cons (.inl rfl) (List.rel_append (hmid mid) (.cons (.inl rfl) .nil))

section

variable {rt : Runtime} {repr : Yaml → String}

/-- The values that are compared as texts. -/
theorem matchObserved_plain {observed : String} {v : Yaml} (h : v.isPlain = true) :
    matchObserved rt repr observed v =
      matchText (rt.lower observed).toList (rt.lower (v.text repr)).toList := by
  cases v with
  | seq items => cases h
  | _ => simp only [matchObserved]

theorem matchAny_iff {observed : String} {items : List Yaml} :
    matchAny rt repr observed items = true ↔
      ∃ v ∈ items, matchObserved rt repr observed v = true := by
  induction items with
  | nil => simp [matchAny]
  | cons item items ih => simp [matchAny, ih]

theorem matchObserved_iff {observed : String} {v : Yaml} (h : IsValue v) :
    matchObserved rt repr observed v = true ↔ Matches rt repr starredAtEnds observed v := by
  induction h with
  | plain hplain =>
    rw [matchObserved_plain hplain, matchText_iff]
    constructor
    · exact fun hmem => .plain hplain hmem
    · intro hmatches
      cases hmatches with
      | plain _ hmem => exact hmem
      | oneOf _ _ => cases hplain
  | @list items _ ih =>
    simp only [matchObserved]
    rw [matchAny_iff]
    constructor
    · rintro ⟨v, hv, hmatch⟩
      exact .oneOf hv ((ih v hv).mp hmatch)
    · intro hmatches
      cases hmatches with
      | plain hplain _ => cases hplain
      | @oneOf _ v hv hmatch => exact ⟨v, hv, (ih v hv).mpr hmatch⟩

theorem Matches.loosen {observed : String} {v : Yaml}
    (h : Matches rt repr starredAtEnds observed v) : Matches rt repr starred observed v := by
  induction h with
  | plain hplain hmem => exact .plain hplain (Wildcard.language_of_loosens (loosens_starred _) hmem)
  | oneOf hv _ ih => exact .oneOf hv ih

theorem matchAll_iff {event : CanonicalEvent} {fields : List (Yaml × Yaml)}
    (h : ∀ f ∈ fields, IsValue f.2) :
    matchAll rt repr event fields = true ↔ SatisfiesAll rt repr starredAtEnds event fields := by
  unfold matchAll SatisfiesAll FieldMatches matchValue
  rw [List.all_eq_true]
  refine forall₂_congr fun f hf => ?_
  cases canonicalField rt event f.1 with
  | none => simp
  | some observed =>
    simp only [Option.some.injEq, exists_eq_left']
    exact matchObserved_iff (h f hf)

theorem SatisfiesAll.loosen {event : CanonicalEvent} {fields : List (Yaml × Yaml)}
    (h : SatisfiesAll rt repr starredAtEnds event fields) :
    SatisfiesAll rt repr starred event fields := by
  intro f hf
  obtain ⟨observed, hobserved, hmatches⟩ := h f hf
  exact ⟨observed, hobserved, hmatches.loosen⟩

theorem satisfies_map {read : List Char → Wildcard Char} {event : CanonicalEvent}
    {fields : List (Yaml × Yaml)} :
    Satisfies rt repr read event (.map fields) ↔ SatisfiesAll rt repr read event fields := by
  unfold Satisfies
  constructor
  · rintro (⟨fields', hfields, h⟩ | ⟨items, hitems, -⟩)
    · rwa [Yaml.map.inj hfields]
    · cases hitems
  · exact fun h => .inl ⟨fields, rfl, h⟩

end

end BlueTeam.Sigma
