/- GID: BlueTeam/Lib/Occurrence
   generality: G
   source: none
   digest: Conditions on the words that occur in a text, and when two of them say the same. -/

import Mathlib.Data.List.Infix
import Mathlib.Data.List.Perm.Subperm

set_option autoImplicit false
set_option relaxedAutoImplicit false

namespace BlueTeam.Lib

universe u

/-- Words one of which is to occur. -/
abbrev Clause (α : Type u) := List (List α)

section

variable {α : Type u}

/-- Of each clause a word occurs in the text. -/
def Satisfies (clauses : List (Clause α)) (text : List α) : Prop :=
  ∀ clause ∈ clauses, ∃ word ∈ clause, word <:+: text

/-- Each clause of the second list follows from one of the first, all of whose words have one of its
words in them. -/
def Covers (clauses others : List (Clause α)) : Prop :=
  ∀ other ∈ others, ∃ clause ∈ clauses, ∀ word ∈ clause, ∃ word' ∈ other, word' <:+: word

/-- The words are neither begun nor ended by this letter. -/
def Apart (b : α) (words : Clause α) : Prop :=
  ∀ word ∈ words, b ∉ word.head? ∧ b ∉ word.getLast?

instance [DecidableEq α] (clauses : List (Clause α)) (text : List α) :
    Decidable (Satisfies clauses text) :=
  inferInstanceAs (Decidable (∀ clause ∈ clauses, ∃ word ∈ clause, _))

instance [DecidableEq α] (clauses others : List (Clause α)) : Decidable (Covers clauses others) :=
  inferInstanceAs (Decidable (∀ other ∈ others, ∃ clause ∈ clauses, ∀ word ∈ clause, _))

end

section

variable {α : Type u} {clauses others : List (Clause α)} {clause words : Clause α}
  {word text d w : List α} {b e : α} {n m : Nat}

theorem Covers.satisfies (h : Covers clauses others) (htext : Satisfies clauses text) :
    Satisfies others text := by
  intro other hother
  obtain ⟨clause, hclause, hcovers⟩ := h other hother
  obtain ⟨word, hword, hoccurs⟩ := htext clause hclause
  obtain ⟨word', hword', hwithin⟩ := hcovers word hword
  exact ⟨word', hword', hwithin.trans hoccurs⟩

theorem satisfies_singleton : Satisfies [clause] text ↔ ∃ word ∈ clause, word <:+: text :=
  List.forall_mem_singleton

theorem satisfies_map_singleton :
    Satisfies (words.map fun word => [word]) text ↔ ∀ word ∈ words, word <:+: text := by
  constructor
  · intro h word hword
    obtain ⟨found, hfound, hoccurs⟩ := h [word] (List.mem_map_of_mem hword)
    rwa [List.mem_singleton.mp hfound] at hoccurs
  · intro h clause hclause
    obtain ⟨word, hword, rfl⟩ := List.mem_map.mp hclause
    exact ⟨word, List.mem_singleton_self word, h word hword⟩

/-- Of letters enough one is apart from the words. -/
theorem exists_apart {letters : List α} (hletters : letters.Nodup)
    (hmany : words.length + words.length < letters.length) : ∃ b, Apart b words := by
  by_contra hnone
  have hsub : letters ⊆ words.filterMap List.head? ++ words.filterMap List.getLast? := by
    intro b _
    by_contra hb
    rw [List.mem_append, not_or] at hb
    refine hnone ⟨b, fun word hword => ⟨fun hhead => hb.1 ?_, fun hlast => hb.2 ?_⟩⟩
    · exact List.mem_filterMap.mpr ⟨word, hword, hhead⟩
    · exact List.mem_filterMap.mpr ⟨word, hword, hlast⟩
  have hlength := (hletters.subperm hsub).length_le
  have hheads := List.length_filterMap_le List.head? words
  have hlasts := List.length_filterMap_le List.getLast? words
  rw [List.length_append] at hlength
  omega

/-! ### Words between separators -/

/-- A word does not begin in a separator that does not begin it. -/
theorem infix_of_infix_replicate_append (hb : b ∉ word.head?)
    (h : word <:+: List.replicate n b ++ text) : word <:+: text := by
  rcases List.infix_append_iff_ne_nil.mp h with h | h | ⟨u, v, hu, -, hword, hsuffix, -⟩
  · obtain ⟨-, hrun⟩ := List.infix_replicate_iff.mp h
    cases word with
    | nil => exact List.nil_infix
    | cons c rest =>
        have hc : c = b := List.eq_of_mem_replicate (hrun ▸ List.mem_cons_self)
        exact absurd (congrArg some hc) hb
  · exact h
  · obtain ⟨c, rest, rfl⟩ := List.exists_cons_of_ne_nil hu
    have hc : c = b := List.eq_of_mem_replicate (hsuffix.subset List.mem_cons_self)
    rw [hword] at hb
    exact absurd (congrArg some hc) hb

theorem infix_of_infix_append_replicate (hb : b ∉ word.getLast?)
    (h : word <:+: text ++ List.replicate n b) : word <:+: text := by
  rw [← List.reverse_infix, List.reverse_append, List.reverse_replicate] at h
  rw [← List.reverse_infix]
  refine infix_of_infix_replicate_append ?_ h
  rwa [List.head?_reverse]

/-- None of the words occurs in a part of a word between separators, if they are apart from both and
none occurs in the word. -/
theorem not_infix_of_window (hb : Apart b words) (he : Apart e words)
    (hw : ∀ word ∈ words, ¬ word <:+: w)
    (hd : d <:+: List.replicate n b ++ (w ++ List.replicate m e)) :
    ∀ word ∈ words, ¬ word <:+: d := by
  intro word hword hin
  have hbehind : word <:+: w ++ List.replicate m e :=
    infix_of_infix_replicate_append (hb word hword).1 (hin.trans hd)
  exact hw word hword (infix_of_infix_append_replicate (he word hword).2 hbehind)

/-- What occurs between two separators and behind them, if it is short, holds none of the words or
occurs behind them. -/
theorem window_or_infix (hb : Apart b words) (he : Apart e words)
    (hw : ∀ word ∈ words, ¬ word <:+: w) (hstart : List.replicate n e <+: text)
    (hlength : d.length ≤ n) (hd : d <:+: List.replicate n b ++ (w ++ text)) :
    (∀ word ∈ words, ¬ word <:+: d) ∨ d <:+: text := by
  have hwindow : d <:+: List.replicate n b ++ (w ++ List.replicate n e) →
      ∀ word ∈ words, ¬ word <:+: d := not_infix_of_window hb he hw
  obtain ⟨rest, rfl⟩ := hstart
  rcases List.infix_append_iff.mp hd with hd | hd | ⟨u, v, rfl, hu, hv⟩
  · exact .inl (hwindow (List.infix_append_of_infix_left hd))
  · rcases List.infix_append_iff.mp hd with hd | hd | ⟨u, v, rfl, hu, hv⟩
    · refine .inl (hwindow (List.infix_append_of_infix_right ?_))
      exact List.infix_append_of_infix_left hd
    · exact .inr hd
    · refine .inl (hwindow (List.infix_append_of_infix_right ?_))
      refine List.infix_append_iff.mpr (.inr (.inr ⟨u, v, rfl, hu, ?_⟩))
      refine List.prefix_of_prefix_length_le hv (List.prefix_append _ _) ?_
      rw [List.length_append] at hlength
      rw [List.length_replicate]
      omega
  · refine .inl (hwindow (List.infix_append_iff.mpr (.inr (.inr ⟨u, v, rfl, hu, ?_⟩))))
    rw [← List.append_assoc] at hv
    refine List.prefix_of_prefix_length_le hv (List.prefix_append _ _) ?_
    rw [List.length_append] at hlength
    rw [List.length_append, List.length_replicate]
    omega

variable (hletters : ∀ words : Clause α, words.length ≤ m + m → ∃ b, Apart b words)

include hletters

/-- The words of some pairs can be put so far apart that what is short and occurs in the text holds
none of the words that do not occur in one of them. -/
theorem exists_spread (n : Nat) (pairs : List (List α × Clause α)) (hpairs : pairs ≠ [])
    (habsent : ∀ pair ∈ pairs, pair.2.length ≤ m ∧ ∀ word ∈ pair.2, ¬ word <:+: pair.1)
    (b : α) (hb : ∀ pair ∈ pairs.head?, Apart b pair.2) :
    ∃ text, List.replicate n b <+: text ∧ (∀ pair ∈ pairs, pair.1 <:+: text) ∧
      ∀ d, d.length ≤ n → d <:+: text → ∃ pair ∈ pairs, ∀ word ∈ pair.2, ¬ word <:+: d := by
  induction pairs generalizing b with
  | nil => exact absurd rfl hpairs
  | cons pair rest ih =>
      have hfirst := habsent pair List.mem_cons_self
      have hapart : Apart b pair.2 := hb pair rfl
      -- the text behind the first word and the separator that it begins with
      have hbehind : ∃ e text, Apart e pair.2 ∧ List.replicate n e <+: text ∧
          (∀ other ∈ rest, other.1 <:+: text) ∧ ∀ d, d.length ≤ n → d <:+: text →
            ∃ other ∈ pair :: rest, ∀ word ∈ other.2, ¬ word <:+: d := by
        cases rest with
        | nil =>
            refine ⟨b, List.replicate n b, hapart, List.prefix_rfl, ?_, ?_⟩
            · exact fun other hother => absurd hother List.not_mem_nil
            · intro d _ hd
              have hwindow : d <:+: List.replicate n b ++ (pair.1 ++ List.replicate n b) :=
                List.infix_append_of_infix_left hd
              exact ⟨pair, List.mem_cons_self, not_infix_of_window hapart hapart hfirst.2 hwindow⟩
        | cons next rest =>
            have hnext := habsent next (List.mem_cons_of_mem _ List.mem_cons_self)
            have hfew : (pair.2 ++ next.2).length ≤ m + m := by
              rw [List.length_append]
              exact Nat.add_le_add hfirst.1 hnext.1
            obtain ⟨e, he⟩ := hletters (pair.2 ++ next.2) hfew
            obtain ⟨hleft, hright⟩ := List.forall_mem_append.mp he
            have hhead : ∀ other ∈ (next :: rest).head?, Apart e other.2 := by
              rintro _ ⟨⟩
              exact hright
            obtain ⟨text, hstart, hwords, hshort⟩ := ih (List.cons_ne_nil _ _)
              (fun other hother => habsent other (List.mem_cons_of_mem _ hother)) e hhead
            refine ⟨e, text, hleft, hstart, hwords, fun d hlength hd => ?_⟩
            obtain ⟨other, hother, hnone⟩ := hshort d hlength hd
            exact ⟨other, List.mem_cons_of_mem _ hother, hnone⟩
      obtain ⟨e, text, he, hstart, hwords, hshort⟩ := hbehind
      refine ⟨List.replicate n b ++ (pair.1 ++ text), List.prefix_append _ _, ?_, ?_⟩
      · intro other hother
        rcases List.mem_cons.mp hother with rfl | hother
        · exact List.infix_append_of_infix_right List.infix_append_left
        · refine List.infix_append_of_infix_right ?_
          exact List.infix_append_of_infix_right (hwords other hother)
      · intro d hlength hd
        rcases window_or_infix hapart he hfirst.2 hstart hlength hd with hnone | hin
        · exact ⟨pair, List.mem_cons_self, hnone⟩
        · exact hshort d hlength hin

/-! ### One clause from others -/

/-- A clause follows from others only if it follows from one of them, as long as a word that none of
its words occurs in can be told from its words by a few. -/
theorem exists_clause_of_implied (hne : clauses ≠ [])
    (himplied : ∀ text, Satisfies clauses text → ∃ word ∈ clause, word <:+: text)
    (htold : ∀ w, (∀ word ∈ clause, ¬ word <:+: w) → ∃ few : Clause α, few.length ≤ m ∧
      (∀ word ∈ few, ¬ word <:+: w) ∧ ∀ word ∈ clause, ∃ word' ∈ few, word' <:+: word) :
    ∃ other ∈ clauses, ∀ word ∈ other, ∃ word' ∈ clause, word' <:+: word := by
  by_contra hnone
  have hpair : ∀ other ∈ clauses, ∃ pair : List α × Clause α, pair.1 ∈ other ∧
      (pair.2.length ≤ m ∧ ∀ word ∈ pair.2, ¬ word <:+: pair.1) ∧
      ∀ word ∈ clause, ∃ word' ∈ pair.2, word' <:+: word := by
    intro other hother
    have hword : ∃ w ∈ other, ∀ word ∈ clause, ¬ word <:+: w := by
      by_contra hall
      refine hnone ⟨other, hother, fun w hw => ?_⟩
      by_contra habsent
      exact hall ⟨w, hw, fun word hword hin => habsent ⟨word, hword, hin⟩⟩
    obtain ⟨w, hw, habsent⟩ := hword
    obtain ⟨few, hfew, hfar, htells⟩ := htold w habsent
    exact ⟨(w, few), hw, ⟨hfew, hfar⟩, htells⟩
  choose! pair hmem habsent htells using hpair
  have hpairs : ∀ x ∈ clauses.map pair, x.2.length ≤ m ∧ ∀ word ∈ x.2, ¬ word <:+: x.1 :=
    List.forall_mem_map.mpr habsent
  obtain ⟨first, hfirst⟩ := List.exists_mem_of_ne_nil _ hne
  have hstart : ∃ b, ∀ x ∈ (clauses.map pair).head?, Apart b x.2 := by
    cases hhead : (clauses.map pair).head? with
    | none =>
        obtain ⟨b, -⟩ := hletters [] (Nat.zero_le _)
        exact ⟨b, fun x hx => (by cases hx)⟩
    | some x =>
        have hx := hpairs x (List.mem_of_head? hhead)
        obtain ⟨b, hb⟩ := hletters x.2 (hx.1.trans (Nat.le_add_right _ _))
        exact ⟨b, by rintro _ ⟨⟩; exact hb⟩
  obtain ⟨b, hb⟩ := hstart
  obtain ⟨text, -, hwords, hshort⟩ := exists_spread hletters clause.flatten.length
    (clauses.map pair) (fun hnil => hne (List.map_eq_nil_iff.mp hnil)) hpairs b hb
  have htext : Satisfies clauses text := fun other hother =>
    ⟨(pair other).1, hmem other hother, hwords _ (List.mem_map_of_mem hother)⟩
  obtain ⟨d, hd, hoccurs⟩ := himplied text htext
  have hlength : d.length ≤ clause.flatten.length := (List.infix_of_mem_flatten hd).length_le
  obtain ⟨_, hx, hfar⟩ := hshort d hlength hoccurs
  obtain ⟨other, hother, rfl⟩ := List.mem_map.mp hx
  obtain ⟨word', hword', hin⟩ := htells other hother d hd
  exact hfar word' hword' hin

/-- Clauses of a few words each, or only one clause. -/
def Simple (m : Nat) (clauses : List (Clause α)) : Prop :=
  (∀ clause ∈ clauses, clause.length ≤ m) ∨ ∃ clause, clauses = [clause]

theorem covers_of_implies (hne : clauses ≠ []) (hclauses : Simple m clauses)
    (hothers : Simple m others)
    (hsame : ∀ text, Satisfies clauses text ↔ Satisfies others text) : Covers clauses others := by
  intro clause hclause
  have himplied : ∀ text, Satisfies clauses text → ∃ word ∈ clause, word <:+: text :=
    fun text h => (hsame text).mp h clause hclause
  rcases hothers with hfew | ⟨only, rfl⟩
  · -- the words of a short clause tell themselves
    refine exists_clause_of_implied hletters hne himplied fun w habsent => ?_
    exact ⟨clause, hfew clause hclause, habsent, fun word hword => ⟨word, hword, List.infix_rfl⟩⟩
  · obtain rfl := List.mem_singleton.mp hclause
    have hown : ∀ word ∈ clause, Satisfies clauses word := fun word hword =>
      (hsame word).mpr (satisfies_singleton.mpr ⟨word, hword, List.infix_rfl⟩)
    rcases hclauses with hfew | ⟨other, rfl⟩
    · -- a text without words of the only clause lacks all words of one of the others
      refine exists_clause_of_implied hletters hne himplied fun w habsent => ?_
      have hfails : ¬ Satisfies clauses w := by
        intro hsat
        obtain ⟨word, hword, hin⟩ := himplied w hsat
        exact habsent word hword hin
      have hlack : ∃ other ∈ clauses, ∀ word ∈ other, ¬ word <:+: w := by
        by_contra hall
        refine hfails fun other hother => ?_
        by_contra hlacks
        exact hall ⟨other, hother, fun word hword hin => hlacks ⟨word, hword, hin⟩⟩
      obtain ⟨other, hother, hlacks⟩ := hlack
      exact ⟨other, hfew other hother, hlacks, fun word hword => hown word hword other hother⟩
    · refine ⟨other, List.mem_singleton_self other, fun word hword => ?_⟩
      exact himplied word (satisfies_singleton.mpr ⟨word, hword, List.infix_rfl⟩)

/-- Two lists of clauses, each of short clauses or of one clause, have the same texts just if each
covers the other. -/
theorem satisfies_congr_iff (hne : clauses ≠ []) (hne' : others ≠ [])
    (hclauses : Simple m clauses) (hothers : Simple m others) :
    (∀ text, Satisfies clauses text ↔ Satisfies others text) ↔
      Covers clauses others ∧ Covers others clauses := by
  constructor
  · intro hsame
    exact ⟨covers_of_implies hletters hne hclauses hothers hsame,
      covers_of_implies hletters hne' hothers hclauses fun text => (hsame text).symm⟩
  · rintro ⟨hcovers, hcovered⟩ text
    exact ⟨hcovers.satisfies, hcovered.satisfies⟩

end

end BlueTeam.Lib
