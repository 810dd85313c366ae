/- GID: BlueTeam/BlueQL/Equality
   generality: I
   source: packages/blueql/blueteam_blueql/engine.py
   digest: What a comparison for equality means: string literals, truth values, lists. -/

import BlueTeam.BlueQL.RoundTrip
import BlueTeam.BlueQL.Sequence

set_option autoImplicit false
set_option relaxedAutoImplicit false

namespace BlueTeam.BlueQL

open BlueTeam.Python BlueTeam.Schema BlueTeam.Lib

/-! ### String literals -/

/-- The fields whose value is a text, or missing. -/
def textFields : List String :=
  ["process.name", "parent.name", "user.name", "src_ip", "dst_ip", "category", "event_type",
    "outcome", "action"]

def textOf (event : CanonicalEvent) (field : String) : Option String :=
  match fieldValue event field with
  | .ok (.str s) => some s
  | _ => none

/-- A backslash before each backslash and each quote. -/
def escape (s : String) : String :=
  String.ofList (s.toList.flatMap fun c => if c = '\\' ∨ c = '"' then ['\\', c] else [c])

/-- The query `field = "e"`, where `e` is the escaped text. -/
def literalQuery (field s : String) : String :=
  String.ofList (cmpSpelling field .eq (.str (escape s)))

/-- The value of the field is present and equal to the text, up to case. -/
def Denotes (rt : Runtime) (field s : String) (event : CanonicalEvent) : Bool :=
  (textOf event field).any fun v => rt.lower v = rt.lower s

section

variable {rt : Runtime} {field s : String} {event : CanonicalEvent}

theorem textFields_subset (h : field ∈ textFields) : field ∈ fieldNames := by
  have hsub : ∀ field ∈ textFields, field ∈ fieldNames := by decide
  exact hsub field h

theorem fieldValue_of_text (h : field ∈ textFields) :
    fieldValue event field = .ok (.ofOption (textOf event field)) := by
  have hvalue : ∃ v, fieldValue event field = .ok (.ofOption v) := by
    simp only [textFields, List.mem_cons, List.not_mem_nil, or_false] at h
    rcases h with rfl | rfl | rfl | rfl | rfl | rfl | rfl | rfl | rfl
    · exact ⟨_, rfl⟩
    · exact ⟨_, rfl⟩
    · exact ⟨_, rfl⟩
    · exact ⟨_, rfl⟩
    · exact ⟨_, rfl⟩
    · exact ⟨some event.category, rfl⟩
    · exact ⟨some event.eventType, rfl⟩
    · exact ⟨_, rfl⟩
    · exact ⟨_, rfl⟩
  obtain ⟨v, hv⟩ := hvalue
  rw [textOf, hv]
  cases v <;> rfl

/-- A missing value is compared as the text `None`. -/
theorem equal_text (v : Option String) (e : String) :
    equal rt (.ofOption v) (.str e) = decide (rt.lower (showText v) = rt.lower e) := by
  cases v <;> rfl

theorem evalPred_text (h : field ∈ textFields) (e : String) :
    evalPred rt (.cmp field .eq (.str e)) event =
      .ok (decide (rt.lower (showText (textOf event field)) = rt.lower e)) := by
  rw [evalPred, fieldValue_of_text h, ← equal_text]
  rfl

theorem matching_eq_filter {pred : Pred} {p : CanonicalEvent → Bool} {events : List CanonicalEvent}
    (h : ∀ event ∈ events, evalPred rt pred event = .ok (p event)) :
    matching rt pred events = .ok (events.filter p) := by
  induction events with
  | nil => rfl
  | cons event events ih =>
      have hrest := ih fun e he => h e (List.mem_cons_of_mem event he)
      rw [matching, h event List.mem_cons_self, hrest]
      cases hp : p event with
      | true => rw [List.filter_cons_of_pos hp]; rfl
      | false => rw [List.filter_cons_of_neg (by simp [hp])]; rfl

theorem rawString_escape (s : String) : rawString (escape s).toList = true := by
  rw [escape, String.toList_ofList]
  induction s.toList with
  | nil => rfl
  | cons c text ih =>
      rw [List.flatMap_cons]
      by_cases hc : c = '\\' ∨ c = '"'
      · rw [if_pos hc]
        have hline : c ≠ '\n' := by
          rcases hc with rfl | rfl <;> decide
        rw [List.cons_append, List.singleton_append, rawString, ih, decide_eq_true hline]
        rfl
      · rw [if_neg hc]
        obtain ⟨hslash, hquote⟩ := not_or.mp hc
        rw [List.singleton_append, rawString.eq_4 _ _ (fun h _ => hslash h) (fun _ _ h _ => hslash h),
          ih, decide_eq_true hquote]
        rfl

theorem parse_literalQuery (u : Lexis) (hfield : field ∈ textFields)
    (hclean : Clean (literalQuery field s)) :
    parse u (literalQuery field s) = .ok (.steps none (.cmp field .eq (.str (escape s))) []) := by
  have hprintable : (Query.steps none (.cmp field .eq (.str (escape s))) []).Printable :=
    ⟨⟨textFields_subset hfield, rawString_escape s⟩, by simp⟩
  have htext : (Query.steps none (.cmp field .eq (.str (escape s))) []).spelling (Pred.fully 0) =
      cmpSpelling field .eq (.str (escape s)) := List.append_nil _
  have hparse := parse_spelling (k := 0) u hprintable fun _ hpred => spells_fully 0 hpred
  rw [htext] at hparse
  exact hparse hclean

theorem filter_eq_filter_iff {α : Type} {p q : α → Bool} {as : List α} :
    as.filter p = as.filter q ↔ ∀ a ∈ as, p a = q a := by
  constructor
  · intro h a ha
    have hmem : a ∈ as.filter p ↔ a ∈ as.filter q := by rw [h]
    simp only [List.mem_filter, ha, true_and] at hmem
    exact Bool.eq_iff_iff.mpr hmem
  · exact List.filter_congr

theorem same_answer_iff {a b c : String} :
    decide (a = c) = decide (a = b) ↔ c = b ∨ (a ≠ b ∧ a ≠ c) := by
  rw [decide_eq_decide]
  constructor
  · intro h
    by_cases hb : a = b
    · exact .inl ((h.mpr hb).symm.trans hb)
    · exact .inr ⟨hb, fun hc => hb (h.mp hc)⟩
  · rintro (rfl | ⟨hb, hc⟩)
    · exact Iff.rfl
    · exact ⟨fun h => absurd h hc, fun h => absurd h hb⟩

/-- Where a literal denotes what it spells: it must not be the word that a missing value is compared
as, and escapes are compared as they are written. -/
theorem literalQuery_denotes_iff (u : Lexis) (rt : Runtime) (hfield : field ∈ textFields)
    (hclean : Clean (literalQuery field s)) (events : List CanonicalEvent) :
    ((∃ ast, parse u (literalQuery field s) = .ok ast) ∧
        execute u rt (literalQuery field s) events = .ok (events.filter (Denotes rt field s))) ↔
      ∀ event ∈ events,
        (textOf event field = none → rt.lower "None" ≠ rt.lower (escape s)) ∧
        ∀ v, textOf event field = some v → rt.lower (escape s) = rt.lower s ∨
          (rt.lower v ≠ rt.lower s ∧ rt.lower v ≠ rt.lower (escape s)) := by
  have hparse := parse_literalQuery u hfield hclean
  have hrun : execute u rt (literalQuery field s) events =
      .ok (events.filter fun event =>
        decide (rt.lower (showText (textOf event field)) = rt.lower (escape s))) := by
    rw [execute, hparse]
    exact matching_eq_filter fun event _ => evalPred_text hfield (escape s)
  rw [hrun, hparse, Except.ok.injEq, filter_eq_filter_iff, and_iff_right ⟨_, rfl⟩]
  refine forall₂_congr fun event _ => ?_
  rw [Denotes]
  cases textOf event field with
  | none =>
      rw [Option.any_none, decide_eq_false_iff_not]
      constructor
      · intro h
        exact ⟨fun _ => h, fun v hv => by cases hv⟩
      · intro h
        exact h.1 rfl
  | some v =>
      rw [Option.any_some, showText, Option.getD_some, same_answer_iff]
      constructor
      · intro h
        constructor
        · intro hnone
          cases hnone
        · intro v' hv
          obtain rfl := Option.some.inj hv
          exact h
      · intro h
        exact h.2 v rfl

end

def quotedEvent : CanonicalEvent :=
  { sampleEvent "e1" "shell" 0 with action := some "say \"hi\"" }

theorem literalQuery_denotes_sample :
    execute sampleLexis sampleRuntime (literalQuery "action" "SAY") [quotedEvent] =
      .ok ([quotedEvent].filter (Denotes sampleRuntime "action" "SAY")) := by
  have hfield : "action" ∈ textFields := by decide
  have hclean : Clean (literalQuery "action" "SAY") := by decide
  refine ((literalQuery_denotes_iff sampleLexis sampleRuntime hfield hclean [quotedEvent]).mpr ?_).2
  intro event _
  have hescape : escape "SAY" = "SAY" := by decide
  have hnone : sampleRuntime.lower "None" ≠ sampleRuntime.lower (escape "SAY") := by decide
  exact ⟨fun _ => hnone, fun v _ => .inl (congrArg sampleRuntime.lower hescape)⟩

/-- A quote is compared with the backslash before it, and a missing value is equal to `"None"`. -/
theorem literalQuery_not_denotes :
    Clean (literalQuery "action" "say \"hi\"") ∧ Clean (literalQuery "user.name" "None") ∧
      execute sampleLexis sampleRuntime (literalQuery "action" "say \"hi\"") [quotedEvent] = .ok [] ∧
      [quotedEvent].filter (Denotes sampleRuntime "action" "say \"hi\"") = [quotedEvent] ∧
      execute sampleLexis sampleRuntime (literalQuery "user.name" "None") [quotedEvent] =
        .ok [quotedEvent] ∧
      [quotedEvent].filter (Denotes sampleRuntime "user.name" "None") = [] := by
  decide

/-! ### One relation -/

section

variable {rt : Runtime} {field : String} {event : CanonicalEvent} {v w : Literal}

/-- Equality is one relation on the texts of two literals, up to case; inequality is its negation and
membership in a list is equality with one of its values. -/
structure OneEquality (rt : Runtime) (event : CanonicalEvent) (field : String) (v w : Literal) :
    Prop where
  same : rt.lower v.text = rt.lower w.text →
    evalPred rt (.cmp field .eq v) event = evalPred rt (.cmp field .eq w) event
  apart : rt.lower v.text ≠ rt.lower w.text →
    ¬ (evalPred rt (.cmp field .eq v) event = .ok true ∧
      evalPred rt (.cmp field .eq w) event = .ok true)
  ne : evalPred rt (.cmp field .ne v) event = evalPred rt (.not (.cmp field .eq v)) event
  isIn : ∀ values, evalPred rt (.isIn field values) event = .ok true ↔
    ∃ value ∈ values, evalPred rt (.cmp field .eq value) event = .ok true

theorem fieldValue_ok (h : field ∈ fieldNames) :
    ∃ observed, fieldValue event field = .ok observed := by
  simp only [fieldNames, List.mem_cons, List.not_mem_nil, or_false] at h
  rcases h with rfl | rfl | rfl | rfl | rfl | rfl | rfl | rfl | rfl | rfl | rfl | rfl | rfl <;>
    exact ⟨_, rfl⟩

variable {observed : Observed}

theorem evalPred_eq (h : fieldValue event field = .ok observed) (v : Literal) :
    evalPred rt (.cmp field .eq v) event = .ok (equal rt observed v) := by
  rw [evalPred, h]
  rfl

theorem evalPred_ne (h : fieldValue event field = .ok observed) (v : Literal) :
    evalPred rt (.cmp field .ne v) event = evalPred rt (.not (.cmp field .eq v)) event := by
  rw [evalPred.eq_3, evalPred_eq h, evalPred, h]
  rfl

theorem evalPred_isIn (h : fieldValue event field = .ok observed) (values : List Literal) :
    evalPred rt (.isIn field values) event = .ok true ↔
      ∃ value ∈ values, evalPred rt (.cmp field .eq value) event = .ok true := by
  have hin : evalPred rt (.isIn field values) event = .ok (values.any (equal rt observed)) := by
    rw [evalPred, h]
    rfl
  simp only [hin, evalPred_eq h, Except.ok.injEq, List.any_eq_true]

/-- Where the value is no truth value, two literals are equal to it only if their texts agree. -/
theorem equal_plain (h : ∀ b, observed ≠ .bool b) (v : Literal) :
    equal rt observed v = decide (rt.lower observed.text = rt.lower v.text) := by
  cases observed with
  | bool b => exact absurd rfl (h b)
  | none => rfl
  | str s => rfl
  | int i => rfl

theorem equal_bool (b : Bool) (v : Literal) :
    equal rt (.bool b) v = true ↔ v.saysTrue = b := by
  cases b <;> cases hv : v.saysTrue <;> simp [equal, hv]

/-- Equality is one relation exactly where the value is no truth value, or the two literals say
`true` as their texts make one expect. -/
theorem oneEquality_iff (rt : Runtime) (event : CanonicalEvent) (hfield : field ∈ fieldNames)
    (v w : Literal) :
    OneEquality rt event field v w ↔
      ∀ b, fieldValue event field = .ok (.bool b) →
        (rt.lower v.text = rt.lower w.text → v.saysTrue = w.saysTrue) ∧
        (rt.lower v.text ≠ rt.lower w.text → ¬ (v.saysTrue = b ∧ w.saysTrue = b)) := by
  obtain ⟨observed, hvalue⟩ : ∃ observed, fieldValue event field = .ok observed :=
    fieldValue_ok hfield
  constructor
  · rintro h b hb
    have hsame := h.same
    have hapart := h.apart
    simp only [evalPred_eq hb, Except.ok.injEq, equal_bool] at hsame hapart
    refine ⟨fun htext => ?_, hapart⟩
    have hiff := Bool.eq_iff_iff.mp (hsame htext)
    rw [equal_bool, equal_bool] at hiff
    have hbools : ∀ a b c : Bool, (a = c ↔ b = c) → a = b := by decide
    exact hbools v.saysTrue w.saysTrue b hiff
  · intro h
    refine ⟨fun htext => ?_, fun htext => ?_, evalPred_ne hvalue v, evalPred_isIn hvalue⟩
    · rw [evalPred_eq hvalue, evalPred_eq hvalue, Except.ok.injEq]
      by_cases hbool : ∃ b, observed = .bool b
      · obtain ⟨b, rfl⟩ := hbool
        rw [Bool.eq_iff_iff, equal_bool, equal_bool, (h b hvalue).1 htext]
      · have hplain := fun b hb => hbool ⟨b, hb⟩
        rw [equal_plain hplain, equal_plain hplain, htext]
    · simp only [evalPred_eq hvalue, Except.ok.injEq]
      by_cases hbool : ∃ b, observed = .bool b
      · obtain ⟨b, rfl⟩ := hbool
        rw [equal_bool, equal_bool]
        exact (h b hvalue).2 htext
      · have hplain := fun b hb => hbool ⟨b, hb⟩
        rw [equal_plain hplain, equal_plain hplain, decide_eq_true_eq, decide_eq_true_eq]
        rintro ⟨hv, hw⟩
        exact htext (hv.symm.trans hw)

theorem oneEquality_sample :
    OneEquality sampleRuntime quotedEvent "action" (.str "TRUE") (.bool true) := by
  have hfield : "action" ∈ fieldNames := by decide
  refine (oneEquality_iff sampleRuntime quotedEvent hfield (.str "TRUE") (.bool true)).mpr ?_
  intro b hb
  cases hb

/-- On a truth value `"True"` is no spelling of `true`. -/
theorem not_oneEquality :
    takeValue sampleLexis "\"true\"".toList = .ok (.str "true", []) ∧
      takeValue sampleLexis "\"True\"".toList = .ok (.str "True", []) ∧
      ¬ OneEquality sampleRuntime quotedEvent "auth.success" (.str "true") (.str "True") := by
  refine ⟨by decide, by decide, ?_⟩
  intro h
  have hsame := h.same (by decide)
  have hdiffers : evalPred sampleRuntime (.cmp "auth.success" .eq (.str "true")) quotedEvent ≠
      evalPred sampleRuntime (.cmp "auth.success" .eq (.str "True")) quotedEvent := by decide
  exact hdiffers hsame

end

end BlueTeam.BlueQL
