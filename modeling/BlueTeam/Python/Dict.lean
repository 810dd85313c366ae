/- GID: BlueTeam/Python/Dict
   generality: G
   digest: Python's dictionaries: entries in the order in which their keys came first. -/

import Mathlib.Data.List.Nodup

set_option autoImplicit false
set_option relaxedAutoImplicit false

namespace BlueTeam.Python

/-- A dictionary, as the list of its entries. -/
abbrev Dict (κ α : Type) := List (κ × α)

namespace Dict

variable {κ α : Type} [DecidableEq κ]

/-- `d.get(key)` -/
def get? : Dict κ α → κ → Option α
  | [], _ => none
  | (k, a) :: d, key => if k = key then some a else get? d key

/-- `d[key] = value`: a key that is there keeps its place. -/
def set : Dict κ α → κ → α → Dict κ α
  | [], key, value => [(key, value)]
  | (k, a) :: d, key, value => if k = key then (key, value) :: d else (k, a) :: set d key value

def values (d : Dict κ α) : List α :=
  d.map Prod.snd

def keys (d : Dict κ α) : List κ :=
  d.map Prod.fst

/-- `{key(item): item for item in items}` -/
def index (key : α → κ) (items : List α) : Dict κ α :=
  items.foldl (fun d item => d.set (key item) item) []

@[simp] theorem get?_set_self (d : Dict κ α) (key : κ) (value : α) :
    (d.set key value).get? key = some value := by
  induction d with
  | nil => simp [set, get?]
  | cons e d ih =>
      obtain ⟨k, a⟩ := e
      by_cases hk : k = key
      · simp [set, get?, hk]
      · simp [set, get?, hk, ih]

theorem get?_set_of_ne {d : Dict κ α} {key other : κ} (h : key ≠ other) (value : α) :
    (d.set key value).get? other = d.get? other := by
  induction d with
  | nil => simp [set, get?, h]
  | cons e d ih =>
      obtain ⟨k, a⟩ := e
      by_cases hk : k = key
      · subst hk
        simp [set, get?, h]
      · show get? (if k = key then (key, value) :: d else (k, a) :: set d key value) other = _
        rw [if_neg hk]
        by_cases ho : k = other
        · simp [get?, ho]
        · simp [get?, ho, ih]

theorem get?_isNone_iff {d : Dict κ α} {key : κ} : (d.get? key).isNone = true ↔ key ∉ d.keys := by
  induction d with
  | nil => simp [get?, keys]
  | cons e d ih =>
      obtain ⟨k, a⟩ := e
      by_cases hk : k = key
      · simp [get?, keys, hk]
      · rw [get?, if_neg hk, ih]
        simp [keys, Ne.symm hk]

theorem get?_eq_some_iff {d : Dict κ α} (h : d.keys.Nodup) {key : κ} {value : α} :
    d.get? key = some value ↔ (key, value) ∈ d := by
  induction d with
  | nil => simp [get?]
  | cons e d ih =>
      obtain ⟨k, a⟩ := e
      obtain ⟨hfresh, hrest⟩ := List.nodup_cons.mp h
      by_cases hk : k = key
      · subst hk
        rw [get?, if_pos rfl, List.mem_cons]
        constructor
        · rintro ⟨⟩
          exact .inl rfl
        · rintro (hsame | hmem)
          · rw [(Prod.mk.inj hsame).2]
          · exact absurd (List.mem_map_of_mem hmem) hfresh
      · rw [get?, if_neg hk, ih hrest, List.mem_cons, or_iff_right]
        rintro hsame
        exact hk (Prod.mk.inj hsame).1.symm

theorem mem_keys_set {d : Dict κ α} {key other : κ} {value : α} :
    other ∈ (d.set key value).keys ↔ other ∈ d.keys ∨ other = key := by
  induction d with
  | nil => simp [set, keys]
  | cons e d ih =>
      obtain ⟨k, a⟩ := e
      simp only [keys, List.mem_map] at ih
      by_cases hk : k = key
      · subst hk
        simp only [set, if_pos, keys, List.map_cons, List.mem_cons]
        exact ⟨.inl, fun h => h.elim id .inl⟩
      · simp only [set, if_neg hk, keys, List.map_cons, List.mem_cons, List.mem_map]
        rw [ih, or_assoc]

theorem nodup_keys_set {d : Dict κ α} (h : d.keys.Nodup) (key : κ) (value : α) :
    (d.set key value).keys.Nodup := by
  induction d with
  | nil => exact List.nodup_singleton _
  | cons e d ih =>
      obtain ⟨k, a⟩ := e
      obtain ⟨hfresh, hrest⟩ := List.nodup_cons.mp h
      by_cases hk : k = key
      · subst hk
        simpa only [set, if_pos, keys, List.map_cons] using h
      · simp only [set, if_neg hk, keys, List.map_cons]
        refine List.nodup_cons.mpr ⟨fun hmem => ?_, ih hrest⟩
        rcases mem_keys_set.mp hmem with hold | rfl
        · exact hfresh hold
        · exact hk rfl

/-- What is in a dictionary after an assignment. -/
theorem mem_set_iff {d : Dict κ α} (h : d.keys.Nodup) {key : κ} {value : α} {entry : κ × α} :
    entry ∈ d.set key value ↔ entry = (key, value) ∨ entry ∈ d ∧ entry.1 ≠ key := by
  induction d with
  | nil => simp [set]
  | cons e d ih =>
      obtain ⟨k, a⟩ := e
      obtain ⟨hfresh, hrest⟩ := List.nodup_cons.mp h
      by_cases hk : k = key
      · subst hk
        have hother : ∀ entry ∈ d, entry.1 ≠ k := by
          intro entry hmem hsame
          exact hfresh (List.mem_map.mpr ⟨entry, hmem, hsame⟩)
        rw [set, if_pos rfl, List.mem_cons, List.mem_cons]
        constructor
        · rintro (rfl | hmem)
          · exact .inl rfl
          · exact .inr ⟨.inr hmem, hother entry hmem⟩
        · rintro (rfl | ⟨rfl | hmem, hne⟩)
          · exact .inl rfl
          · exact absurd rfl hne
          · exact .inr hmem
      · rw [set, if_neg hk, List.mem_cons, List.mem_cons, ih hrest]
        constructor
        · rintro (rfl | rfl | ⟨hmem, hne⟩)
          · exact .inr ⟨.inl rfl, hk⟩
          · exact .inl rfl
          · exact .inr ⟨.inr hmem, hne⟩
        · rintro (rfl | ⟨rfl | hmem, hne⟩)
          · exact .inr (.inl rfl)
          · exact .inl rfl
          · exact .inr (.inr ⟨hmem, hne⟩)

/-- Setting one value for several keys. -/
theorem get?_foldl_set (keys : List κ) (value : α) (d : Dict κ α) (key : κ) :
    (keys.foldl (fun d k => d.set k value) d).get? key =
      if key ∈ keys then some value else d.get? key := by
  induction keys generalizing d with
  | nil => simp
  | cons k keys ih =>
      rw [List.foldl_cons, ih]
      by_cases hmem : key ∈ keys
      · simp [hmem]
      · by_cases hk : k = key
        · subst hk
          simp [hmem]
        · have hne : key ≠ k := Ne.symm hk
          simp [hmem, hne, get?_set_of_ne hk]

end Dict

end BlueTeam.Python
