/- GID: BlueTeam/Lib/Gather
   generality: G
   digest: Tables under distinct keys whose rows are gathered, one after another, from items. -/

import Mathlib.Data.List.Nodup
import Mathlib.Data.List.Perm.Basic

set_option autoImplicit false
set_option relaxedAutoImplicit false

namespace BlueTeam.Lib

/-- How items become rows: the first item of a key opens a row, a later one is merged into it. -/
structure Gatherer (α ρ κ ε : Type) where
  itemKey : α → κ
  rowKey : ρ → κ
  fresh : α → ρ
  merge : α → ρ → Except ε ρ

namespace Gatherer

variable {α ρ κ ε : Type} [DecidableEq κ] (G : Gatherer α ρ κ ε)

/-- Merge an item into the row of its key, or open one at the end. -/
def put (a : α) : List ρ → Except ε (List ρ)
  | [] => .ok [G.fresh a]
  | r :: rs =>
      if G.rowKey r = G.itemKey a then (G.merge a r).map (· :: rs)
      else (put a rs).map (r :: ·)

/-- What a row says of the items it is gathered from, as merging keeps it. An item may be merged
where it agrees with the items before it. -/
structure Lawful (Sums : List α → ρ → Prop) (agree : α → α → Prop) : Prop where
  fresh_key : ∀ a, G.rowKey (G.fresh a) = G.itemKey a
  fresh : ∀ a, Sums [a] (G.fresh a)
  merge : ∀ items a r, Sums items r → (∀ b ∈ items, agree b a) →
    ∃ r', G.merge a r = .ok r' ∧ G.rowKey r' = G.rowKey r ∧ Sums (items ++ [a]) r'

/-- The rows are under distinct keys, one for each key of an item, and each sums up the items of its
key. -/
structure Gathered (Sums : List α → ρ → Prop) (items : List α) (table : List ρ) : Prop where
  distinct : (table.map G.rowKey).Nodup
  sums : ∀ r ∈ table, Sums (items.filter fun a => G.itemKey a = G.rowKey r) r
  covered : ∀ a ∈ items, ∃ r ∈ table, G.rowKey r = G.itemKey a

variable {G} {Sums : List α → ρ → Prop} {agree : α → α → Prop} {items : List α} {table : List ρ}

theorem gathered_nil : G.Gathered Sums [] [] := by
  constructor <;> simp

/-- An item of a new key opens a row. -/
theorem put_of_new {a : α} (h : ∀ r ∈ table, G.rowKey r ≠ G.itemKey a) :
    G.put a table = .ok (table ++ [G.fresh a]) := by
  induction table with
  | nil => rfl
  | cons r rs ih =>
      have hr : G.rowKey r ≠ G.itemKey a := h r List.mem_cons_self
      unfold put
      rw [if_neg hr, ih fun r' hr' => h r' (List.mem_cons_of_mem _ hr')]
      rfl

/-- An item of a known key changes the row of that key and no other. -/
theorem put_of_known {a : α} {before after : List ρ} {r r' : ρ}
    (hbefore : ∀ x ∈ before, G.rowKey x ≠ G.itemKey a) (hr : G.rowKey r = G.itemKey a)
    (hmerge : G.merge a r = .ok r') :
    G.put a (before ++ r :: after) = .ok (before ++ r' :: after) := by
  induction before with
  | nil =>
      show (if G.rowKey r = G.itemKey a then _ else _) = _
      rw [if_pos hr, hmerge]
      rfl
  | cons x xs ih =>
      have hx : G.rowKey x ≠ G.itemKey a := hbefore x List.mem_cons_self
      have htail := ih fun y hy => hbefore y (List.mem_cons_of_mem _ hy)
      rw [List.cons_append]
      unfold put
      rw [if_neg hx, htail]
      rfl

theorem filter_concat_of_ne {a : α} {k : κ} (h : G.itemKey a ≠ k) :
    ((items ++ [a]).filter fun b => G.itemKey b = k) = items.filter fun b => G.itemKey b = k := by
  rw [List.filter_append]
  simp [h]

theorem filter_concat_of_eq {a : α} {k : κ} (h : G.itemKey a = k) :
    ((items ++ [a]).filter fun b => G.itemKey b = k) =
      (items.filter fun b => G.itemKey b = k) ++ [a] := by
  rw [List.filter_append]
  simp [h]

/-- One more item of a new key. -/
theorem Gathered.opened (h : G.Gathered Sums items table) (law : G.Lawful Sums agree) {a : α}
    (hnew : ∀ r ∈ table, G.rowKey r ≠ G.itemKey a) :
    G.Gathered Sums (items ++ [a]) (table ++ [G.fresh a]) where
  distinct := by
    rw [List.map_append, List.nodup_append]
    refine ⟨h.distinct, by simp, ?_⟩
    intro k hk k' hk'
    obtain ⟨r, hr, rfl⟩ := List.mem_map.mp hk
    obtain rfl : k' = G.itemKey a := by simpa [law.fresh_key] using hk'
    exact hnew r hr
  sums r hr := by
    rcases List.mem_append.mp hr with hr | hr
    · rw [filter_concat_of_ne (hnew r hr).symm]
      exact h.sums r hr
    · obtain rfl := List.mem_singleton.mp hr
      have hnone : (items.filter fun b => G.itemKey b = G.itemKey a) = [] := by
        refine List.filter_eq_nil_iff.mpr ?_
        intro b hb hkey
        obtain ⟨r, hr, hrow⟩ := h.covered b hb
        exact hnew r hr (hrow.trans (of_decide_eq_true hkey))
      rw [law.fresh_key, filter_concat_of_eq rfl, hnone]
      exact law.fresh a
  covered b hb := by
    rcases List.mem_append.mp hb with hb | hb
    · obtain ⟨r, hr, hkey⟩ := h.covered b hb
      exact ⟨r, List.mem_append_left _ hr, hkey⟩
    · obtain rfl := List.mem_singleton.mp hb
      exact ⟨G.fresh b, by simp, law.fresh_key b⟩

/-- One more item of a known key. -/
theorem Gathered.merged {before after : List ρ} {r r' : ρ} {a : α}
    (h : G.Gathered Sums items (before ++ r :: after)) (hr : G.rowKey r = G.itemKey a)
    (hkey : G.rowKey r' = G.rowKey r)
    (hsums : Sums ((items.filter fun b => G.itemKey b = G.rowKey r) ++ [a]) r') :
    G.Gathered Sums (items ++ [a]) (before ++ r' :: after) := by
  have hkeys : (before ++ r' :: after).map G.rowKey = (before ++ r :: after).map G.rowKey := by
    simp [hkey]
  have hother : ∀ x ∈ before ++ after, G.itemKey a ≠ G.rowKey x := by
    have hperm : List.Perm (before ++ r :: after) (r :: (before ++ after)) := List.perm_middle
    have hnodup : (r :: (before ++ after)).map G.rowKey |>.Nodup :=
      (hperm.map G.rowKey).nodup h.distinct
    rw [List.map_cons, List.nodup_cons] at hnodup
    intro x hx hax
    exact hnodup.1 (List.mem_map.mpr ⟨x, hx, by rw [← hax, hr]⟩)
  have hold : ∀ x ∈ before ++ after, x ∈ before ++ r :: after := by
    intro x hx
    exact List.perm_middle.symm.subset (List.mem_cons_of_mem _ hx)
  refine ⟨?_, ?_, ?_⟩
  · rw [hkeys]
    exact h.distinct
  · intro x hx
    rcases List.mem_cons.mp (List.perm_middle.subset hx) with rfl | hx
    · rw [hkey, filter_concat_of_eq hr.symm]
      exact hsums
    · rw [filter_concat_of_ne (hother x hx)]
      exact h.sums x (hold x hx)
  · intro b hb
    have hcovered : ∃ x ∈ before ++ r :: after, G.rowKey x = G.itemKey b := by
      rcases List.mem_append.mp hb with hb | hb
      · exact h.covered b hb
      · obtain rfl := List.mem_singleton.mp hb
        exact ⟨r, by simp, hr⟩
    have hmem : G.itemKey b ∈ (before ++ r :: after).map G.rowKey := List.mem_map.mpr hcovered
    rw [← hkeys] at hmem
    exact List.mem_map.mp hmem

/-- An item that agrees with those before it can be put, and the table stays gathered. -/
theorem Gathered.put (h : G.Gathered Sums items table) (law : G.Lawful Sums agree) {a : α}
    (hagree : ∀ b ∈ items, agree b a) :
    ∃ table', G.put a table = .ok table' ∧ G.Gathered Sums (items ++ [a]) table' := by
  by_cases hknown : ∃ r ∈ table, G.rowKey r = G.itemKey a
  · obtain ⟨r, hr, hkey⟩ := hknown
    obtain ⟨before, after, rfl⟩ := List.append_of_mem hr
    have hsums := h.sums r hr
    obtain ⟨r', hmerge, hkey', hsums'⟩ := law.merge _ a r hsums
      fun b hb => hagree b (List.mem_filter.mp hb).1
    refine ⟨before ++ r' :: after, put_of_known ?_ hkey hmerge, h.merged hkey hkey' hsums'⟩
    intro x hx hax
    have hdistinct := h.distinct
    rw [List.map_append, List.map_cons, List.nodup_append] at hdistinct
    exact hdistinct.2.2 _ (List.mem_map_of_mem hx) _ List.mem_cons_self (hax.trans hkey.symm)
  · have hnew : ∀ r ∈ table, G.rowKey r ≠ G.itemKey a := fun r hr hkey => hknown ⟨r, hr, hkey⟩
    exact ⟨_, put_of_new hnew, h.opened law hnew⟩

/-- Tables that are gathered from the same items in another order have the same keys, and rows of
one key sum up the same items. -/
theorem Gathered.perm {items' : List α} {table' : List ρ} (h : G.Gathered Sums items table)
    (h' : G.Gathered Sums items' table') (hperm : items.Perm items')
    (hne : ∀ items r, Sums items r → items ≠ []) {r : ρ} (hr : r ∈ table) :
    ∃ r' ∈ table', G.rowKey r' = G.rowKey r ∧
      ∃ own own', own.Perm own' ∧ own ⊆ items ∧ Sums own r ∧ Sums own' r' := by
  have hsums := h.sums r hr
  obtain ⟨a, ha⟩ := List.exists_mem_of_ne_nil _ (hne _ _ hsums)
  obtain ⟨hitem, hkey⟩ := List.mem_filter.mp ha
  obtain ⟨r', hr', hrow⟩ := h'.covered a (hperm.subset hitem)
  have hsame : G.rowKey r' = G.rowKey r := hrow.trans (of_decide_eq_true hkey)
  have hsums' := h'.sums r' hr'
  rw [hsame] at hsums'
  exact ⟨r', hr', hsame, _, _, hperm.filter _, List.filter_subset_self _, hsums, hsums'⟩

end Gatherer

/-- The items of each key, one key after another, are all the items. -/
theorem perm_flatMap_filter {α κ : Type} [DecidableEq κ] {key : α → κ} {keys : List κ}
    {items : List α} (hnodup : keys.Nodup) (hcovered : ∀ a ∈ items, key a ∈ keys) :
    (keys.flatMap fun k => items.filter fun a => key a = k).Perm items := by
  induction keys generalizing items with
  | nil =>
      cases items with
      | nil => exact .refl _
      | cons a items => exact absurd (hcovered a List.mem_cons_self) List.not_mem_nil
  | cons k keys ih =>
      obtain ⟨hfresh, hrest⟩ := List.nodup_cons.mp hnodup
      have hothers : ∀ a ∈ items.filter fun a => !decide (key a = k), key a ∈ keys := by
        intro a ha
        obtain ⟨hmem, hne⟩ := List.mem_filter.mp ha
        refine (List.mem_cons.mp (hcovered a hmem)).resolve_left ?_
        simpa using hne
      have htail : (keys.flatMap fun k' => items.filter fun a => key a = k') =
          keys.flatMap fun k' => (items.filter fun a => !decide (key a = k)).filter
            fun a => key a = k' := by
        refine List.flatMap_congr fun k' hk' => ?_
        rw [List.filter_filter]
        refine List.filter_congr fun a _ => ?_
        by_cases hkey : key a = k'
        · have hne : key a ≠ k := by
            rintro rfl
            exact hfresh (hkey ▸ hk')
          simp [hkey, hkey ▸ hne]
        · simp [hkey]
      rw [List.flatMap_cons, htail]
      exact ((ih hrest hothers).append_left _).trans (List.filter_append_perm _ items)

end BlueTeam.Lib
