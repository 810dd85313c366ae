/- GID: BlueTeam/Lib/Firsts
   generality: G
   digest: First occurrences by key, and a queue that is read without repeating a key. -/

import Mathlib.Data.List.Basic

set_option autoImplicit false
set_option relaxedAutoImplicit false

namespace BlueTeam.Lib

section

variable {α κ : Type} [DecidableEq κ] (key : α → κ)

/-- The elements whose key neither was seen before nor comes earlier in the list. -/
def firsts : List κ → List α → List α
  | _, [] => []
  | seen, a :: as => if key a ∈ seen then firsts seen as else a :: firsts (key a :: seen) as

/-- What a read of a queue leaves behind: the batch, the rest of the queue and the keys seen. -/
structure Pull (α κ : Type) where
  batch : List α
  rest : List α
  seen : List κ

/-- Read up to `n` elements from the front of a queue; those whose key was seen are dropped and do
not count. -/
def pull : Nat → List κ → List α → Pull α κ
  | _, seen, [] => ⟨[], [], seen⟩
  | 0, seen, a :: as => ⟨[], a :: as, seen⟩
  | n + 1, seen, a :: as =>
      if key a ∈ seen then pull (n + 1) seen as
      else
        let more := pull n (key a :: seen) as
        { more with batch := a :: more.batch }

variable {key}

theorem firsts_nil (seen : List κ) : firsts key seen [] = [] :=
  rfl

theorem firsts_cons (seen : List κ) (a : α) (as : List α) : firsts key seen (a :: as) =
    if key a ∈ seen then firsts key seen as else a :: firsts key (key a :: seen) as :=
  rfl

theorem firsts_congr {seen seen' : List κ} (h : ∀ k, k ∈ seen ↔ k ∈ seen') (as : List α) :
    firsts key seen as = firsts key seen' as := by
  induction as generalizing seen seen' with
  | nil => rfl
  | cons a as ih =>
      by_cases ha : key a ∈ seen
      · have ha' : key a ∈ seen' := (h _).mp ha
        simp only [firsts_cons, ha, ha', if_true]
        exact ih h
      · have ha' : key a ∉ seen' := fun hk => ha ((h _).mpr hk)
        simp only [firsts_cons, ha, ha', if_false]
        rw [ih]
        intro k
        simp [h k]

/-- What is read first is seen by what is read next. -/
theorem firsts_append (seen : List κ) (as bs : List α) :
    firsts key seen (as ++ bs) = firsts key seen as ++ firsts key (seen ++ as.map key) bs := by
  induction as generalizing seen with
  | nil => simp [firsts_nil]
  | cons a as ih =>
      by_cases ha : key a ∈ seen
      · simp only [List.cons_append, firsts_cons, ha, if_true, ih]
        congr 1
        refine firsts_congr ?_ bs
        intro k
        simp only [List.map_cons, List.mem_append, List.mem_cons]
        constructor
        · rintro (hk | hk)
          · exact .inl hk
          · exact .inr (.inr hk)
        · rintro (hk | rfl | hk)
          · exact .inl hk
          · exact .inl ha
          · exact .inr hk
      · simp only [List.cons_append, firsts_cons, ha, if_false, ih]
        congr 2
        refine firsts_congr ?_ bs
        intro k
        simp only [List.map_cons, List.mem_append, List.mem_cons]
        tauto

theorem mem_of_mem_firsts {seen : List κ} {as : List α} {a : α} (h : a ∈ firsts key seen as) :
    a ∈ as ∧ key a ∉ seen := by
  induction as generalizing seen with
  | nil => cases h
  | cons b as ih =>
      simp only [firsts_cons] at h
      split at h
      · obtain ⟨hmem, hnew⟩ := ih h
        exact ⟨List.mem_cons_of_mem _ hmem, hnew⟩
      · rename_i hb
        rcases List.mem_cons.mp h with rfl | h
        · exact ⟨List.mem_cons_self, hb⟩
        · obtain ⟨hmem, hnew⟩ := ih h
          exact ⟨List.mem_cons_of_mem _ hmem, fun hs => hnew (List.mem_cons_of_mem _ hs)⟩

theorem firsts_eq_self {seen : List κ} {as : List α} (hnodup : (as.map key).Nodup)
    (hnew : ∀ a ∈ as, key a ∉ seen) : firsts key seen as = as := by
  induction as generalizing seen with
  | nil => rfl
  | cons a as ih =>
      rw [List.map_cons, List.nodup_cons] at hnodup
      have ha : key a ∉ seen := hnew a List.mem_cons_self
      simp only [firsts_cons, ha, if_false]
      rw [ih hnodup.2]
      intro b hb hk
      rcases List.mem_cons.mp hk with hk | hk
      · exact hnodup.1 (hk ▸ List.mem_map_of_mem hb)
      · exact hnew b (List.mem_cons_of_mem _ hb) hk

/-- Keys may be written in another way, as long as they stay apart. -/
theorem firsts_comp (key : α → κ) {ι : Type} [DecidableEq ι] {f : κ → ι} (hf : Function.Injective f)
    (seen : List κ) (as : List α) :
    firsts (fun a => f (key a)) (seen.map f) as = firsts key seen as := by
  induction as generalizing seen with
  | nil => rfl
  | cons a as ih =>
      have hmem : f (key a) ∈ seen.map f ↔ key a ∈ seen := List.mem_map_of_injective hf
      have hnext := ih (key a :: seen)
      rw [List.map_cons] at hnext
      simp only [firsts_cons, hmem, ih, hnext]

theorem firsts_map {β : Type} (key : β → κ) (f : α → β) (seen : List κ) (as : List α) :
    firsts key seen (as.map f) = (firsts (fun a => key (f a)) seen as).map f := by
  induction as generalizing seen with
  | nil => rfl
  | cons a as ih =>
      simp only [List.map_cons, firsts_cons]
      split
      · exact ih seen
      · rw [ih, List.map_cons]

theorem firsts_eq_nil {seen : List κ} {as : List α} (h : ∀ a ∈ as, key a ∈ seen) :
    firsts key seen as = [] := by
  refine List.eq_nil_iff_forall_not_mem.mpr fun a ha => ?_
  obtain ⟨hmem, hnew⟩ := mem_of_mem_firsts ha
  exact hnew (h a hmem)

/-- The keys seen after the first occurrences are taken are those of all elements. -/
theorem mem_keys_firsts (key : α → κ) (seen : List κ) (as : List α) (k : κ) :
    k ∈ seen ++ (firsts key seen as).map key ↔ k ∈ seen ++ as.map key := by
  induction as generalizing seen with
  | nil => rfl
  | cons a as ih =>
      by_cases ha : key a ∈ seen
      · simp only [firsts_cons, ha, if_true]
        rw [ih]
        simp only [List.map_cons, List.mem_append, List.mem_cons]
        constructor
        · rintro (hk | hk)
          · exact .inl hk
          · exact .inr (.inr hk)
        · rintro (hk | rfl | hk)
          · exact .inl hk
          · exact .inl ha
          · exact .inr hk
      · simp only [firsts_cons, ha, if_false]
        have hnext := ih (key a :: seen)
        simp only [List.map_cons, List.mem_append, List.mem_cons] at hnext ⊢
        tauto

theorem nodup_firsts (key : α → κ) (seen : List κ) (as : List α) :
    ((firsts key seen as).map key).Nodup := by
  induction as generalizing seen with
  | nil => exact List.nodup_nil
  | cons a as ih =>
      by_cases ha : key a ∈ seen
      · rw [firsts_cons, if_pos ha]
        exact ih seen
      · rw [firsts_cons, if_neg ha, List.map_cons, List.nodup_cons]
        refine ⟨?_, ih (key a :: seen)⟩
        intro hmem
        obtain ⟨b, hb, hkey⟩ := List.mem_map.mp hmem
        have hnew := (mem_of_mem_firsts hb).2
        rw [hkey] at hnew
        exact hnew List.mem_cons_self

/-- Where a key tells the elements apart, none is lost. -/
theorem mem_firsts_nil_iff {key : α → κ} {as : List α}
    (h : ∀ a ∈ as, ∀ b ∈ as, key a = key b → a = b) {a : α} : a ∈ firsts key [] as ↔ a ∈ as := by
  constructor
  · intro ha
    exact (mem_of_mem_firsts ha).1
  · intro ha
    have hkeys := (mem_keys_firsts key [] as (key a)).mpr (List.mem_map_of_mem ha)
    obtain ⟨b, hb, hkey⟩ := List.mem_map.mp hkeys
    rwa [h a ha b (mem_of_mem_firsts hb).1 hkey.symm]

/-- An element at the end is a first occurrence exactly if its key is new. -/
theorem firsts_concat (key : α → κ) (seen : List κ) (as : List α) (a : α) :
    firsts key seen (as ++ [a]) =
      firsts key seen as ++ if key a ∈ seen ++ as.map key then [] else [a] := by
  rw [firsts_append]
  rfl

/-- A first occurrence is what a search for its key finds. -/
theorem mem_firsts_iff {key : α → κ} {seen : List κ} {as : List α} {a : α} :
    a ∈ firsts key seen as ↔ key a ∉ seen ∧ as.find? (fun b => key b = key a) = some a := by
  induction as generalizing seen with
  | nil => simp [firsts_nil]
  | cons b as ih =>
      by_cases hsame : key b = key a
      · rw [List.find?_cons_of_pos (by simpa using hsame)]
        by_cases hb : key b ∈ seen
        · simp only [firsts_cons, hb, if_true]
          rw [ih]
          rw [hsame] at hb
          constructor
          · rintro ⟨hnew, -⟩
            exact absurd hb hnew
          · rintro ⟨hnew, -⟩
            exact absurd hb hnew
        · simp only [firsts_cons, hb, if_false]
          rw [List.mem_cons, ih, hsame]
          rw [hsame] at hb
          constructor
          · rintro (rfl | ⟨hnew, -⟩)
            · exact ⟨hb, rfl⟩
            · exact absurd List.mem_cons_self hnew
          · rintro ⟨-, h⟩
            exact .inl (Option.some.inj h).symm
      · rw [List.find?_cons_of_neg (by simpa using hsame)]
        by_cases hb : key b ∈ seen
        · simp only [firsts_cons, hb, if_true]
          exact ih
        · simp only [firsts_cons, hb, if_false]
          rw [List.mem_cons, ih, List.mem_cons]
          constructor
          · rintro (rfl | ⟨hnew, hfind⟩)
            · exact absurd rfl hsame
            · exact ⟨fun h => hnew (.inr h), hfind⟩
          · rintro ⟨hnew, hfind⟩
            refine .inr ⟨?_, hfind⟩
            rintro (h | h)
            · exact hsame h.symm
            · exact hnew h

/-- A read takes a prefix off the queue, gives the first occurrences in it, and stops only when it
has enough or the queue is empty. -/
theorem pull_spec (key : α → κ) (n : Nat) (seen : List κ) (queue : List α) :
    ∃ removed, queue = removed ++ (pull key n seen queue).rest ∧
      (pull key n seen queue).batch = firsts key seen removed ∧
      (∀ k, k ∈ (pull key n seen queue).seen ↔ k ∈ seen ++ removed.map key) ∧
      ((pull key n seen queue).rest = [] ∨ (pull key n seen queue).batch.length = n) := by
  induction queue generalizing n seen with
  | nil =>
      refine ⟨[], ?_⟩
      cases n <;> simp [pull, firsts_nil]
  | cons a as ih =>
      cases n with
      | zero => exact ⟨[], by simp [pull, firsts_nil]⟩
      | succ n =>
          by_cases ha : key a ∈ seen
          · obtain ⟨removed, hqueue, hbatch, hseen, hstop⟩ := ih (n + 1) seen
            refine ⟨a :: removed, ?_⟩
            simp only [pull, firsts_cons, ha, if_true]
            refine ⟨by rw [List.cons_append, ← hqueue], hbatch, ?_, hstop⟩
            intro k
            rw [hseen k]
            simp only [List.map_cons, List.mem_append, List.mem_cons]
            constructor
            · rintro (hk | hk)
              · exact .inl hk
              · exact .inr (.inr hk)
            · rintro (hk | rfl | hk)
              · exact .inl hk
              · exact .inl ha
              · exact .inr hk
          · obtain ⟨removed, hqueue, hbatch, hseen, hstop⟩ := ih n (key a :: seen)
            refine ⟨a :: removed, ?_⟩
            simp only [pull, firsts_cons, ha, if_false]
            refine ⟨by rw [List.cons_append, ← hqueue], by rw [hbatch], ?_, ?_⟩
            · intro k
              rw [hseen k]
              simp only [List.map_cons, List.mem_append, List.mem_cons]
              tauto
            · rcases hstop with hstop | hstop
              · exact .inl hstop
              · exact .inr (by rw [List.length_cons, hstop])

/-- A batch that is empty although something was asked for means that the queue is empty. -/
theorem pull_rest_of_batch_nil {n : Nat} {seen : List κ} {queue : List α} (hn : 1 ≤ n)
    (h : (pull key n seen queue).batch = []) : (pull key n seen queue).rest = [] := by
  obtain ⟨-, -, -, -, hstop⟩ := pull_spec key n seen queue
  rcases hstop with hstop | hstop
  · exact hstop
  · rw [h, List.length_nil] at hstop
    omega

/-! ### First occurrences in a part of a list -/

/-- Dropping elements after the first occurrences are taken leaves no more than dropping them
before. -/
theorem firsts_filter_sublist (key : α → κ) (p : α → Bool) {seen seen' : List κ} (hseen : seen' ⊆ seen)
    (as : List α) : ((firsts key seen as).filter p).Sublist (firsts key seen' (as.filter p)) := by
  induction as generalizing seen seen' with
  | nil => exact List.Sublist.refl _
  | cons a as ih =>
      by_cases hp : p a = true
      · rw [List.filter_cons_of_pos hp]
        by_cases ha : key a ∈ seen
        · simp only [firsts_cons, ha, if_true]
          split
          · exact ih hseen
          · exact (ih (List.cons_subset.mpr ⟨ha, hseen⟩)).cons a
        · have ha' : key a ∉ seen' := fun h => ha (hseen h)
          simp only [firsts_cons, ha, ha', if_false]
          rw [List.filter_cons_of_pos hp]
          exact (ih (List.cons_subset_cons _ hseen)).cons_cons a
      · rw [List.filter_cons_of_neg hp]
        simp only [firsts_cons]
        split
        · exact ih hseen
        · rw [List.filter_cons_of_neg hp]
          exact ih (List.subset_cons_of_subset _ hseen)

/-- An element that stays and whose key came before: then its key came before in what stays. -/
def KeptApart (key : α → κ) (p : α → Bool) (seen seen' : List κ) (as : List α) : Prop :=
  ∀ pre a post, as = pre ++ a :: post → p a = true → key a ∈ seen ++ pre.map key →
    key a ∈ seen' ++ (pre.filter p).map key

omit [DecidableEq κ] in
theorem mem_iff_of_mem {seen : List κ} {x : κ} (h : x ∈ seen) (k : κ) :
    k ∈ seen ↔ k ∈ seen ∨ k = x := by
  constructor
  · exact .inl
  · rintro (hk | rfl)
    · exact hk
    · exact h

omit [DecidableEq κ] in
theorem keptApart_cons {p : α → Bool} {seen seen' seen₁ seen₁' : List κ} {b : α} {as : List α}
    (hseen : ∀ k, k ∈ seen₁ ↔ k ∈ seen ∨ k = key b)
    (hseen' : ∀ k, k ∈ seen₁' ↔ k ∈ seen' ∨ p b = true ∧ k = key b) :
    KeptApart key p seen seen' (b :: as) ↔
      (p b = true → key b ∈ seen → key b ∈ seen') ∧ KeptApart key p seen₁ seen₁' as := by
  have hshift : ∀ (pre : List α) (k : κ),
      (k ∈ seen ++ (b :: pre).map key ↔ k ∈ seen₁ ++ pre.map key) ∧
      (k ∈ seen' ++ ((b :: pre).filter p).map key ↔ k ∈ seen₁' ++ (pre.filter p).map key) := by
    intro pre k
    refine ⟨?_, ?_⟩
    · simp only [List.map_cons, List.mem_append, List.mem_cons, hseen k]
      tauto
    · by_cases hp : p b = true
      · rw [List.filter_cons_of_pos hp]
        simp only [List.map_cons, List.mem_append, List.mem_cons, hseen' k]
        tauto
      · rw [List.filter_cons_of_neg hp]
        simp only [List.mem_append, hseen' k]
        tauto
  constructor
  · intro h
    refine ⟨?_, ?_⟩
    · intro hp hb
      simpa using h [] b as rfl hp (by simpa using hb)
    · rintro pre a post rfl hp ha
      rw [← (hshift pre (key a)).2]
      exact h (b :: pre) a post rfl hp ((hshift pre (key a)).1.mpr ha)
  · rintro ⟨hb, h⟩ pre a post hsplit hp ha
    cases pre with
    | nil =>
        obtain ⟨rfl, rfl⟩ := List.cons.inj hsplit
        have hmem := hb hp (by simpa using ha)
        simpa using hmem
    | cons c pre =>
        obtain ⟨rfl, rfl⟩ := List.cons.inj hsplit
        rw [(hshift pre (key a)).2]
        exact h pre a post rfl hp ((hshift pre (key a)).1.mp ha)

/-- When dropping elements first and dropping them last gives the same first occurrences. -/
theorem firsts_filter_eq_iff (key : α → κ) (p : α → Bool) {seen seen' : List κ} (hseen : seen' ⊆ seen)
    (as : List α) :
    (firsts key seen as).filter p = firsts key seen' (as.filter p) ↔
      KeptApart key p seen seen' as := by
  induction as generalizing seen seen' with
  | nil =>
      refine ⟨fun _ pre a post h => ?_, fun _ => rfl⟩
      cases pre <;> cases h
  | cons b as ih =>
      by_cases hp : p b = true
      · rw [List.filter_cons_of_pos hp]
        by_cases hb : key b ∈ seen
        · simp only [firsts_cons, hb, if_true]
          by_cases hb' : key b ∈ seen'
          · have hset' : ∀ k, k ∈ seen' ↔ k ∈ seen' ∨ p b = true ∧ k = key b := by
              intro k
              constructor
              · exact .inl
              · rintro (hk | ⟨-, rfl⟩)
                · exact hk
                · exact hb'
            rw [if_pos hb', ih hseen, keptApart_cons (mem_iff_of_mem hb) hset']
            tauto
          · -- The element is a first occurrence only in the part that stays.
            rw [if_neg hb']
            constructor
            · intro heq
              have hsub := firsts_filter_sublist key p
                (List.cons_subset.mpr ⟨hb, hseen⟩) as
              have hlen := hsub.length_le
              rw [heq, List.length_cons] at hlen
              omega
            · intro h
              exact absurd (by simpa using h [] b as rfl hp (by simpa using hb)) hb'
        · have hb' : key b ∉ seen' := fun h => hb (hseen h)
          simp only [firsts_cons, hb, hb', if_false]
          have hset : ∀ k, k ∈ key b :: seen ↔ k ∈ seen ∨ k = key b := by
            intro k
            rw [List.mem_cons, or_comm]
          have hset' : ∀ k, k ∈ key b :: seen' ↔ k ∈ seen' ∨ p b = true ∧ k = key b := by
            intro k
            rw [List.mem_cons]
            tauto
          rw [List.filter_cons_of_pos hp, List.cons_inj_right, ih (List.cons_subset_cons _ hseen),
            keptApart_cons hset hset']
          tauto
      · rw [List.filter_cons_of_neg hp]
        have hset' : ∀ k, k ∈ seen' ↔ k ∈ seen' ∨ p b = true ∧ k = key b := by
          intro k
          tauto
        have hskip : ∀ seen₁, (∀ k, k ∈ seen₁ ↔ k ∈ seen ∨ k = key b) →
            (KeptApart key p seen seen' (b :: as) ↔ KeptApart key p seen₁ seen' as) := by
          intro seen₁ hset
          rw [keptApart_cons hset hset']
          tauto
        simp only [firsts_cons]
        split
        · rename_i hb
          rw [ih hseen, hskip seen (mem_iff_of_mem hb)]
        · rw [List.filter_cons_of_neg hp, ih (List.subset_cons_of_subset _ hseen),
            hskip (key b :: seen)]
          intro k
          rw [List.mem_cons, or_comm]

end

end BlueTeam.Lib
