/- GID: BlueTeam/Lib/Parts
   generality: G
   digest: Results that are put together from one part for each element of a list. -/

import Mathlib.Data.List.Forall2
import Mathlib.Data.List.Nodup
import Mathlib.Data.List.Perm.Basic

set_option autoImplicit false
set_option relaxedAutoImplicit false

namespace BlueTeam.Lib

section

variable {α β γ κ : Type} {R : α → β → Prop} {S : α → γ → Prop} {as : List α}

theorem forall₂_join {T : β → γ → Prop} {bs : List β} {cs : List γ} (hb : List.Forall₂ R as bs)
    (hc : List.Forall₂ S as cs) (h : ∀ a ∈ as, ∀ b c, R a b → S a c → T b c) :
    List.Forall₂ T bs cs := by
  induction hb generalizing cs with
  | nil =>
      cases hc
      exact .nil
  | @cons a b as bs hab _ ih =>
      cases hc with
      | cons hac hcs =>
          refine .cons (h a List.mem_cons_self b _ hab hac) (ih hcs ?_)
          exact fun a' ha' => h a' (List.mem_cons_of_mem a ha')

theorem exists_of_forall₂ {bs : List β} (h : List.Forall₂ R as bs) {b : β} (hb : b ∈ bs) :
    ∃ a ∈ as, R a b := by
  induction h with
  | nil => cases hb
  | @cons a b' as bs hab _ ih =>
      rcases List.mem_cons.mp hb with rfl | hb
      · exact ⟨a, List.mem_cons_self, hab⟩
      · obtain ⟨a', ha', hr⟩ := ih hb
        exact ⟨a', List.mem_cons_of_mem a ha', hr⟩

theorem forall₂_exists {bs : List β} (h : List.Forall₂ R as bs) {a : α} (ha : a ∈ as) :
    ∃ b ∈ bs, R a b := by
  induction h with
  | nil => cases ha
  | @cons a' b as bs hab _ ih =>
      rcases List.mem_cons.mp ha with rfl | ha
      · exact ⟨b, List.mem_cons_self, hab⟩
      · obtain ⟨b', hb', hr⟩ := ih ha
        exact ⟨b', List.mem_cons_of_mem b hb', hr⟩

theorem forall₂_append_right {bs bs' : List β} (h : List.Forall₂ R as (bs ++ bs')) :
    ∃ front rest, as = front ++ rest ∧ List.Forall₂ R front bs ∧ List.Forall₂ R rest bs' :=
  ⟨_, _, (List.take_append_drop bs.length as).symm, List.forall₂_take_append _ _ _ h,
    List.forall₂_drop_append _ _ _ h⟩

/-- An element that passes contributes one result, any other none. -/
structure Contributes (passes : α → Prop) (R : α → β → Prop) (a : α) (part : List β) : Prop where
  one : passes a → ∃ b, part = [b] ∧ R a b
  none : ¬ passes a → part = []

/-- The results belong, one by one, to the elements that pass, in their order. -/
theorem forall₂_filter {passes : α → Prop} [DecidablePred passes] {parts : List (List β)}
    (h : List.Forall₂ (Contributes passes R) as parts) :
    List.Forall₂ R (as.filter fun a => passes a) parts.flatten := by
  induction h with
  | nil => exact .nil
  | @cons a part as parts ha _ ih =>
      by_cases hpass : passes a
      · obtain ⟨b, rfl, hab⟩ := ha.one hpass
        rw [List.filter_cons, if_pos (decide_eq_true hpass)]
        exact .cons hab ih
      · obtain rfl := ha.none hpass
        rw [List.filter_cons, if_neg (by simpa using hpass)]
        exact ih

/-- They belong to some of the elements: those that pass. -/
theorem exists_kept {passes : α → Prop} {parts : List (List β)}
    (h : List.Forall₂ (Contributes passes R) as parts) :
    ∃ kept : List α, kept.Sublist as ∧ (∀ a, a ∈ kept ↔ a ∈ as ∧ passes a) ∧
      List.Forall₂ R kept parts.flatten := by
  classical
  refine ⟨as.filter fun a => passes a, List.filter_sublist, fun a => ?_, forall₂_filter h⟩
  rw [List.mem_filter, decide_eq_true_eq]

theorem map_eq_of_forall₂ {f : α → γ} {g : β → γ} {bs : List β} (h : List.Forall₂ R as bs)
    (hfg : ∀ a b, R a b → g b = f a) : bs.map g = as.map f := by
  induction h with
  | nil => rfl
  | @cons a b as bs hab _ ih => rw [List.map_cons, List.map_cons, hfg a b hab, ih]

/-- As many pass on either side. -/
theorem length_filter_of_forall₂ {p : α → Bool} {q : β → Bool} {bs : List β}
    (h : List.Forall₂ R as bs) (hpq : ∀ a ∈ as, ∀ b, R a b → q b = p a) :
    (bs.filter q).length = (as.filter p).length := by
  induction h with
  | nil => rfl
  | @cons a b as bs hab _ ih =>
      have hrest := ih fun a' ha' => hpq a' (List.mem_cons_of_mem _ ha')
      rw [List.filter_cons, List.filter_cons, hpq a List.mem_cons_self b hab]
      split
      · rw [List.length_cons, List.length_cons, hrest]
      · exact hrest

/-- The results belong, one by one, to distinct keys: those with `Q`. -/
structure Keyed (Q : κ → Prop) (R : κ → β → Prop) (keys : List κ) (results : List β) : Prop where
  nodup : keys.Nodup
  mem_iff : ∀ k, k ∈ keys ↔ Q k
  results : List.Forall₂ R keys results

/-- Keyed parts of distinct elements are keyed by pairs. -/
theorem exists_pairs {Q : α → κ → Prop} {R : α → κ → β → Prop} {parts : List (List β)}
    (hnodup : as.Nodup)
    (h : List.Forall₂ (fun a part => ∃ keys, Keyed (Q a) (R a) keys part) as parts) :
    ∃ pairs, Keyed (fun p : α × κ => p.1 ∈ as ∧ Q p.1 p.2) (fun p => R p.1 p.2) pairs
      parts.flatten := by
  induction h with
  | nil => exact ⟨[], List.nodup_nil, by simp, .nil⟩
  | @cons a part as parts hpart _ ih =>
      obtain ⟨hnew, hnodup⟩ := List.nodup_cons.mp hnodup
      obtain ⟨keys, hkeys⟩ := hpart
      obtain ⟨pairs, hpairs⟩ := ih hnodup
      have hhead : List.Forall₂ (fun p : α × κ => R p.1 p.2) (keys.map fun k => (a, k)) part :=
        List.forall₂_map_left_iff.mpr hkeys.results
      refine ⟨keys.map (fun k => (a, k)) ++ pairs, ?_, ?_, List.rel_append hhead hpairs.results⟩
      · have hinj : Function.Injective fun k : κ => (a, k) := fun k k' hk => (Prod.mk.inj hk).2
        refine List.nodup_append'.mpr ⟨hkeys.nodup.map hinj, hpairs.nodup, ?_⟩
        intro p hp hp'
        obtain ⟨k, -, rfl⟩ := List.mem_map.mp hp
        exact hnew ((hpairs.mem_iff _).mp hp').1
      · rintro ⟨a', k⟩
        rw [List.mem_append, List.mem_map, hpairs.mem_iff, List.mem_cons]
        constructor
        · rintro (⟨k', hk', hsame⟩ | ⟨ha', hq⟩)
          · obtain ⟨rfl, rfl⟩ := Prod.mk.inj hsame
            exact ⟨.inl rfl, (hkeys.mem_iff k').mp hk'⟩
          · exact ⟨.inr ha', hq⟩
        · rintro ⟨rfl | ha', hq⟩
          · exact .inl ⟨k, (hkeys.mem_iff k).mpr hq, rfl⟩
          · exact .inr ⟨ha', hq⟩

/-- Results under the same keys agree up to their order. -/
theorem Keyed.rearranged {Q : κ → Prop} {R : κ → β → Prop} {S : κ → γ → Prop} {T : β → γ → Prop}
    {keys keys' : List κ} {bs : List β} {cs : List γ} (h : Keyed Q R keys bs)
    (h' : Keyed Q S keys' cs) (hT : ∀ k, Q k → ∀ b c, R k b → S k c → T b c) :
    ∃ arranged : List γ, arranged.Perm cs ∧ List.Forall₂ T bs arranged := by
  have hperm : keys.Perm keys' := by
    refine (List.perm_ext_iff_of_nodup h.nodup h'.nodup).mpr fun k => ?_
    rw [h.mem_iff, h'.mem_iff]
  obtain ⟨arranged, harranged, hcs⟩ := List.perm_comp_forall₂ hperm h'.results
  refine ⟨arranged, hcs, forall₂_join h.results harranged ?_⟩
  exact fun k hk => hT k ((h.mem_iff k).mp hk)

end

end BlueTeam.Lib
