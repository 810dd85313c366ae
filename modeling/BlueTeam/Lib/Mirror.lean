/- GID: BlueTeam/Lib/Mirror
   generality: G
   digest: A table of rows with distinct keys as the picture of a partial map. -/

import Mathlib.Data.List.Basic
import Mathlib.Data.List.Nodup
import Mathlib.Logic.Function.Basic

set_option autoImplicit false
set_option relaxedAutoImplicit false

namespace BlueTeam.Lib

variable {α β κ : Type*}

/-- There is just one row for each key of the map, and it shows the entry. -/
structure Mirrors (key : α → κ) (R : α → β → Prop) (rows : List α) (m : κ → Option β) : Prop where
  distinct : (rows.map key).Nodup
  shown : ∀ r ∈ rows, ∃ b, m (key r) = some b ∧ R r b
  covered : ∀ k b, m k = some b → ∃ r ∈ rows, key r = k

namespace Mirrors

variable {key : α → κ} {R R' : α → β → Prop} {rows : List α} {m m' : κ → Option β} {r : α} {k : κ}
  {b : β}

theorem shows_entry (h : Mirrors key R rows m) (hr : r ∈ rows) (hb : m (key r) = some b) :
    R r b := by
  obtain ⟨b', hb', hR⟩ := h.shown r hr
  rw [hb] at hb'
  obtain rfl := Option.some.inj hb'
  exact hR

theorem row (h : Mirrors key R rows m) (hb : m k = some b) : ∃ r ∈ rows, key r = k ∧ R r b := by
  obtain ⟨r, hr, rfl⟩ := h.covered k b hb
  exact ⟨r, hr, rfl, h.shows_entry hr hb⟩

theorem eq_none (h : Mirrors key R rows m) (hk : ∀ r ∈ rows, key r ≠ k) : m k = none := by
  cases hm : m k with
  | none => rfl
  | some b =>
      obtain ⟨r, hr, hkey⟩ := h.covered k b hm
      exact absurd hkey (hk r hr)

theorem key_inj (h : Mirrors key R rows m) {r' : α} (hr : r ∈ rows) (hr' : r' ∈ rows)
    (hkey : key r = key r') : r = r' :=
  List.inj_on_of_nodup_map h.distinct hr hr' hkey

theorem mono (h : Mirrors key R rows m) (hR : ∀ r ∈ rows, ∀ b, R r b → R' r b) :
    Mirrors key R' rows m where
  distinct := h.distinct
  shown r hr := by
    obtain ⟨b, hb, hshows⟩ := h.shown r hr
    exact ⟨b, hb, hR r hr b hshows⟩
  covered := h.covered

/-- Rows that change within their keys, and entries that change with them. -/
theorem map (h : Mirrors key R rows m) {f : α → α} (hkey : ∀ r ∈ rows, key (f r) = key r)
    (hshown : ∀ r ∈ rows, ∀ b, m (key r) = some b → R r b →
      ∃ b', m' (key r) = some b' ∧ R' (f r) b')
    (hcovered : ∀ k b', m' k = some b' → ∃ b, m k = some b) : Mirrors key R' (rows.map f) m' where
  distinct := by
    have hkeys : rows.map (key ∘ f) = rows.map key := List.map_congr_left hkey
    rw [List.map_map, hkeys]
    exact h.distinct
  shown r' hr' := by
    obtain ⟨r, hr, rfl⟩ := List.mem_map.mp hr'
    obtain ⟨b, hb, hshows⟩ := h.shown r hr
    rw [hkey r hr]
    exact hshown r hr b hb hshows
  covered k b' hb' := by
    obtain ⟨b, hb⟩ := hcovered k b' hb'
    obtain ⟨r, hr, rfl⟩ := h.covered k b hb
    exact ⟨f r, List.mem_map_of_mem hr, hkey r hr⟩

section

variable [DecidableEq κ]

/-- One row changes, and its entry. -/
theorem update (h : Mirrors key R rows m) {f : α → α} (hr : r ∈ rows)
    (hself : key (f r) = key r) (hothers : ∀ r' ∈ rows, key r' ≠ key r → f r' = r')
    (hb : R (f r) b) : Mirrors key R (rows.map f) (Function.update m (key r) (some b)) := by
  have hcases : ∀ r' ∈ rows, r' = r ∨ key r' ≠ key r ∧ f r' = r' := by
    intro r' hr'
    by_cases hkey : key r' = key r
    · exact .inl (h.key_inj hr' hr hkey)
    · exact .inr ⟨hkey, hothers r' hr' hkey⟩
  refine h.map ?_ ?_ ?_
  · intro r' hr'
    rcases hcases r' hr' with rfl | ⟨-, hsame⟩
    · exact hself
    · rw [hsame]
  · intro r' hr' b' hb' hshows
    rcases hcases r' hr' with rfl | ⟨hne, hsame⟩
    · exact ⟨b, Function.update_self _ _ _, hb⟩
    · rw [Function.update_of_ne hne, hsame]
      exact ⟨b', hb', hshows⟩
  · intro k b' hb'
    by_cases hk : k = key r
    · obtain ⟨b₀, hb₀, -⟩ := h.shown r hr
      exact ⟨b₀, hk ▸ hb₀⟩
    · rw [Function.update_of_ne hk] at hb'
      exact ⟨b', hb'⟩

/-- A row with a key of its own is added, and its entry. -/
theorem append (h : Mirrors key R rows m) (hnew : ∀ r' ∈ rows, key r' ≠ key r) (hb : R r b) :
    Mirrors key R (rows ++ [r]) (Function.update m (key r) (some b)) where
  distinct := by
    rw [List.map_append, List.map_singleton]
    refine List.nodup_append.mpr ⟨h.distinct, List.nodup_singleton _, ?_⟩
    intro k hk k' hk' hsame
    obtain ⟨r', hr', rfl⟩ := List.mem_map.mp hk
    exact hnew r' hr' (hsame.trans (List.mem_singleton.mp hk'))
  shown r' hr' := by
    rcases List.mem_append.mp hr' with hr' | hr'
    · obtain ⟨b', hb', hshows⟩ := h.shown r' hr'
      exact ⟨b', by rw [Function.update_of_ne (hnew r' hr'), hb'], hshows⟩
    · obtain rfl := List.mem_singleton.mp hr'
      exact ⟨b, Function.update_self _ _ _, hb⟩
  covered k b' hb' := by
    by_cases hk : k = key r
    · exact ⟨r, by simp, hk.symm⟩
    · rw [Function.update_of_ne hk] at hb'
      obtain ⟨r', hr', hkey⟩ := h.covered k b' hb'
      exact ⟨r', List.mem_append_left _ hr', hkey⟩

/-- Rows mirror the map that is read off them. -/
theorem of_rows {entry : α → β} (h : (rows.map key).Nodup) (hR : ∀ r ∈ rows, R r (entry r)) :
    Mirrors key R rows fun k => (rows.find? fun r => key r = k).map entry where
  distinct := h
  shown r hr := by
    have hfind : rows.find? (fun r' => key r' = key r) = some r := by
      cases hfound : rows.find? fun r' => key r' = key r with
      | none => simpa using List.find?_eq_none.mp hfound r hr
      | some r' =>
          have hkey : key r' = key r := by simpa using List.find?_some hfound
          rw [List.inj_on_of_nodup_map h (List.mem_of_find?_eq_some hfound) hr hkey]
    exact ⟨entry r, by rw [hfind]; rfl, hR r hr⟩
  covered k b hb := by
    obtain ⟨r, hfound, -⟩ := Option.map_eq_some_iff.mp hb
    exact ⟨r, List.mem_of_find?_eq_some hfound, by simpa using List.find?_some hfound⟩

end

/-- Some of the rows mirror the part of the map that is theirs. -/
theorem filter (h : Mirrors key R rows m) {p : α → Bool} {q : κ → β → Bool}
    (hpq : ∀ r b, r ∈ rows → R r b → p r = q (key r) b) {rows' : List α}
    (hnodup : rows'.Nodup) (hmem : ∀ r, r ∈ rows' ↔ r ∈ rows ∧ p r = true) :
    Mirrors key R rows' fun k => (m k).filter (q k) where
  distinct := by
    refine hnodup.map_on fun r hr r' hr' hkey => ?_
    exact h.key_inj ((hmem r).mp hr).1 ((hmem r').mp hr').1 hkey
  shown r hr := by
    obtain ⟨hr, hp⟩ := (hmem r).mp hr
    obtain ⟨b, hb, hshows⟩ := h.shown r hr
    refine ⟨b, ?_, hshows⟩
    rw [hb, Option.filter_some, if_pos ((hpq r b hr hshows).symm.trans hp)]
  covered k b hb := by
    obtain ⟨hb, hq⟩ := Option.filter_eq_some_iff.mp hb
    obtain ⟨r, hr, rfl, hshows⟩ := h.row hb
    exact ⟨r, (hmem r).mpr ⟨hr, (hpq r b hr hshows).trans hq⟩, rfl⟩

end Mirrors

end BlueTeam.Lib
