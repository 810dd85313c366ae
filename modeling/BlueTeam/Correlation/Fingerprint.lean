/- GID: BlueTeam/Correlation/Fingerprint
   generality: I
   source: packages/correlation/blueteam_correlation/rules.py
   digest: Which storylines the fingerprints of incidents tell apart. -/

import BlueTeam.Correlation.Engine
import BlueTeam.Lib.Joined
import Mathlib.Data.String.Basic

set_option autoImplicit false
set_option relaxedAutoImplicit false

namespace BlueTeam.Correlation

open BlueTeam.Python BlueTeam.Schema BlueTeam.Lib

/-! ### The parts of a fingerprint -/

/-- The kinds of a storyline in order, each with its values in order. -/
def sortedEntities (s : Storyline) : List (String × List String) :=
  (s.entities.insertionSort fun a b => a.1 ≤ b.1).map fun f =>
    (f.1, sortedTexts (f.2.filter (· ≠ "")))

/-- The values of a kind, with the character before each of them. -/
def valueParts : List String → List (Char × List Char)
  | [] => [('=', [])]
  | v :: vs => ('=', v.toList) :: vs.map fun v => (',', v.toList)

def entityParts (entities : List (String × List String)) : List (Char × List Char) :=
  entities.flatMap fun f => ('|', f.1.toList) :: valueParts f.2

/-- The parts of a fingerprint after the title. -/
def partsOf (s : Storyline) : List (Char × List Char) :=
  if sortedEntities s = [] then [('|', [])] else entityParts (sortedEntities s)

theorem valueParts_text (vs : List String) :
    ((valueParts vs).flatMap fun p => p.1 :: p.2) = '=' :: (",".intercalate vs).toList := by
  rw [String.toList_intercalate]
  cases vs with
  | nil => rfl
  | cons v vs =>
      rw [List.map_cons]
      refine Eq.trans ?_ (congrArg _ (intercalate_cons ',' _ _).symm)
      simp [valueParts, List.flatMap_map]

theorem entityParts_text (entities : List (String × List String)) :
    ((entityParts entities).flatMap fun p => p.1 :: p.2) =
      (entities.map fun f => (f.1 ++ "=" ++ ",".intercalate f.2).toList).flatMap
        fun part => '|' :: part := by
  rw [entityParts, List.flatMap_assoc, List.flatMap_map]
  refine List.flatMap_congr fun f _ => ?_
  rw [List.flatMap_cons, valueParts_text]
  simp

/-- The fingerprint is the title followed by the parts. -/
theorem incidentFingerprint_toList (s : Storyline) :
    (incidentFingerprint s).toList = joined s.title.toList (partsOf s) := by
  have htexts : incidentFingerprint s = s.title ++ "|" ++ "|".intercalate
      ((sortedEntities s).map fun f => f.1 ++ "=" ++ ",".intercalate f.2) := by
    unfold incidentFingerprint sortedEntities
    rw [List.map_map]
    rfl
  rw [htexts, joined_eq, String.toList_append, String.toList_append, String.toList_intercalate,
    List.map_map, partsOf, List.append_assoc]
  congr 1
  cases hentities : sortedEntities s with
  | nil => rfl
  | cons f fs =>
      rw [if_neg (List.cons_ne_nil _ _), entityParts_text, List.map_cons, List.map_cons]
      refine Eq.trans (congrArg _ (intercalate_cons '|' _ _)) ?_
      rfl

/-! ### The parts tell the storylines apart -/

theorem valueParts_inj {vs vs' : List String} (h : ∀ v ∈ vs, v ≠ "") (h' : ∀ v ∈ vs', v ≠ "")
    (hparts : valueParts vs = valueParts vs') : vs = vs' := by
  cases vs with
  | nil =>
      cases vs' with
      | nil => rfl
      | cons v vs =>
          obtain ⟨hfirst, -⟩ := List.cons.inj hparts
          exact absurd (String.toList_eq_nil_iff.mp (Prod.mk.inj hfirst).2.symm)
            (h' v List.mem_cons_self)
  | cons v vs =>
      cases vs' with
      | nil =>
          obtain ⟨hfirst, -⟩ := List.cons.inj hparts
          exact absurd (String.toList_eq_nil_iff.mp (Prod.mk.inj hfirst).2)
            (h v List.mem_cons_self)
      | cons v' vs' =>
          obtain ⟨hfirst, hrest⟩ := List.cons.inj hparts
          obtain rfl := String.toList_injective (Prod.mk.inj hfirst).2
          have hinj : Function.Injective fun v : String => (',', v.toList) :=
            fun _ _ hsame => String.toList_injective (Prod.mk.inj hsame).2
          rw [List.map_injective_iff.mpr hinj hrest]

theorem takeWhile_values (vs : List String) (entities : List (String × List String)) :
    (valueParts vs ++ entityParts entities).takeWhile (fun p => p.1 ≠ '|') = valueParts vs := by
  have hvalues : ∀ p ∈ valueParts vs, decide (p.1 ≠ '|') = true := by
    cases vs with
    | nil => simp [valueParts]
    | cons v vs => simp [valueParts]
  rw [List.takeWhile_append_of_pos hvalues]
  cases entities with
  | nil => simp [entityParts]
  | cons f fs => simp [entityParts]

theorem entityParts_inj {entities entities' : List (String × List String)}
    (h : ∀ f ∈ entities, ∀ v ∈ f.2, v ≠ "") (h' : ∀ f ∈ entities', ∀ v ∈ f.2, v ≠ "")
    (hparts : entityParts entities = entityParts entities') : entities = entities' := by
  induction entities generalizing entities' with
  | nil =>
      cases entities' with
      | nil => rfl
      | cons f fs => simp [entityParts] at hparts
  | cons f fs ih =>
      cases entities' with
      | nil => simp [entityParts] at hparts
      | cons f' fs' =>
          rw [List.forall_mem_cons] at h h'
          have hcons : ∀ (f : String × List String) (fs : List (String × List String)),
              entityParts (f :: fs) = ('|', f.1.toList) :: (valueParts f.2 ++ entityParts fs) :=
            fun _ _ => rfl
          rw [hcons, hcons] at hparts
          obtain ⟨hkind, hrest⟩ := List.cons.inj hparts
          have hvalues : valueParts f.2 = valueParts f'.2 := by
            rw [← takeWhile_values f.2 fs, hrest, takeWhile_values]
          rw [hvalues] at hrest
          rw [ih h.2 h'.2 (List.append_cancel_left hrest)]
          congr 1
          exact Prod.ext (String.toList_injective (Prod.mk.inj hkind).2)
            (valueParts_inj h.1 h'.1 hvalues)

theorem sortedEntities_given (s : Storyline) : ∀ f ∈ sortedEntities s, ∀ v ∈ f.2, v ≠ "" := by
  intro f hf v hv
  obtain ⟨entity, -, rfl⟩ := List.mem_map.mp hf
  have hin : v ∈ entity.2.filter (· ≠ "") := (List.mem_insertionSort _).mp hv
  simpa using (List.mem_filter.mp hin).2

theorem partsOf_inj {s s' : Storyline} :
    partsOf s = partsOf s' ↔ sortedEntities s = sortedEntities s' := by
  refine ⟨fun h => ?_, fun h => by rw [partsOf, partsOf, h]⟩
  have hlong : ∀ entities : List (String × List String), entities ≠ [] →
      entityParts entities ≠ [('|', [])] := by
    intro entities hne hsame
    obtain ⟨f, fs, rfl⟩ := List.exists_cons_of_ne_nil hne
    have hlength := congrArg List.length hsame
    cases hvalues : f.2 <;> simp [entityParts, valueParts, hvalues] at hlength
  unfold partsOf at h
  split at h
  · rename_i hnone
    split at h
    · rename_i hnone'
      rw [hnone, hnone']
    · rename_i hsome
      exact absurd h.symm (hlong _ hsome)
  · rename_i hsome
    split at h
    · exact absurd h (hlong _ hsome)
    · exact entityParts_inj (sortedEntities_given s) (sortedEntities_given s') h

/-! ### What the parts stand for -/

/-- The same title, the same kinds, and for each kind the same values, as often. -/
structure SameContent (s s' : Storyline) : Prop where
  title : s.title = s'.title
  kinds : ∀ kind, kind ∈ s.entities.map Prod.fst ↔ kind ∈ s'.entities.map Prod.fst
  values : ∀ kind values values', (kind, values) ∈ s.entities → (kind, values') ∈ s'.entities →
    (values.filter (· ≠ "")).Perm (values'.filter (· ≠ ""))

/-- The entities are a dictionary. -/
def OneEach (s : Storyline) : Prop :=
  (s.entities.map Prod.fst).Nodup

instance (s : Storyline) : Decidable (OneEach s) :=
  inferInstanceAs (Decidable (List.Nodup _))

theorem sortedTexts_eq_iff {vs vs' : List String} : sortedTexts vs = sortedTexts vs' ↔ vs.Perm vs' := by
  have hperm : ∀ vs : List String, (sortedTexts vs).Perm vs := fun vs => List.perm_insertionSort _ vs
  constructor
  · intro h
    have hsame := (hperm vs).symm
    rw [h] at hsame
    exact hsame.trans (hperm vs')
  · intro h
    have hsorted : ∀ vs : List String, (sortedTexts vs).Pairwise (· ≤ ·) :=
      fun vs => List.pairwise_insertionSort (· ≤ ·) vs
    exact ((hperm vs).trans (h.trans (hperm vs').symm)).eq_of_pairwise' (hsorted vs) (hsorted vs')

section

variable {s s' : Storyline}

theorem mem_sortedEntities {kind : String} {vs : List String} : (kind, vs) ∈ sortedEntities s ↔
    ∃ values, (kind, values) ∈ s.entities ∧ vs = sortedTexts (values.filter (· ≠ "")) := by
  unfold sortedEntities
  rw [List.mem_map]
  constructor
  · rintro ⟨⟨kind', values⟩, hmem, hsame⟩
    obtain ⟨rfl, rfl⟩ := Prod.mk.inj hsame
    exact ⟨values, (List.mem_insertionSort _).mp hmem, rfl⟩
  · rintro ⟨values, hmem, rfl⟩
    exact ⟨(kind, values), (List.mem_insertionSort _).mpr hmem, rfl⟩

theorem sortedEntities_kinds (s : Storyline) :
    ((sortedEntities s).map Prod.fst).Perm (s.entities.map Prod.fst) ∧
      (sortedEntities s).Pairwise fun a b => a.1 ≤ b.1 := by
  constructor
  · unfold sortedEntities
    rw [List.map_map]
    exact (List.perm_insertionSort _ _).map Prod.fst
  · exact List.Pairwise.map _ (fun _ _ h => h)
      (List.pairwise_insertionSort (fun a b : String × List String => a.1 ≤ b.1) s.entities)

theorem OneEach.sorted (h : OneEach s) : ((sortedEntities s).map Prod.fst).Nodup :=
  (sortedEntities_kinds s).1.nodup_iff.mpr h

/-- Of one kind there is one entry. -/
theorem OneEach.unique (h : OneEach s) {kind : String} {vs vs' : List String}
    (hvs : (kind, vs) ∈ sortedEntities s) (hvs' : (kind, vs') ∈ sortedEntities s) : vs = vs' :=
  (Prod.mk.inj (List.inj_on_of_nodup_map h.sorted hvs hvs' rfl)).2

theorem SameContent.symm (h : SameContent s s') : SameContent s' s :=
  ⟨h.title.symm, fun kind => (h.kinds kind).symm,
    fun kind values values' hvalues hvalues' => (h.values kind values' values hvalues' hvalues).symm⟩

theorem SameContent.mem (h : SameContent s s') {f : String × List String}
    (hf : f ∈ sortedEntities s) : f ∈ sortedEntities s' := by
  obtain ⟨values, hvalues, hsorted⟩ := mem_sortedEntities.mp hf
  obtain ⟨⟨kind, values'⟩, hvalues', hkind⟩ :=
    List.mem_map.mp ((h.kinds f.1).mp (List.mem_map.mpr ⟨_, hvalues, rfl⟩))
  obtain rfl : kind = f.1 := hkind
  refine mem_sortedEntities.mpr ⟨values', hvalues', ?_⟩
  rw [hsorted]
  exact sortedTexts_eq_iff.mpr (h.values _ _ _ hvalues hvalues')

theorem sameContent_iff (hs : OneEach s) (hs' : OneEach s') :
    SameContent s s' ↔ s.title = s'.title ∧ sortedEntities s = sortedEntities s' := by
  constructor
  · intro h
    refine ⟨h.title, ?_⟩
    have hmem : ∀ f, f ∈ sortedEntities s ↔ f ∈ sortedEntities s' :=
      fun f => ⟨h.mem, h.symm.mem⟩
    have hperm : (sortedEntities s).Perm (sortedEntities s') :=
      (List.perm_ext_iff_of_nodup (List.Nodup.of_map _ hs.sorted) (List.Nodup.of_map _ hs'.sorted)).mpr
        hmem
    refine hperm.eq_of_pairwise ?_ (sortedEntities_kinds s).2 (sortedEntities_kinds s').2
    intro f f' hf hf' hle hge
    exact List.inj_on_of_nodup_map hs.sorted hf ((hmem f').mpr hf') (le_antisymm hle hge)
  · rintro ⟨htitle, hentities⟩
    refine ⟨htitle, fun kind => ?_, fun kind values values' hvalues hvalues' => ?_⟩
    · rw [← (sortedEntities_kinds s).1.mem_iff, hentities, (sortedEntities_kinds s').1.mem_iff]
    · have hsorted := mem_sortedEntities.mpr ⟨values, hvalues, rfl⟩
      rw [hentities] at hsorted
      exact sortedTexts_eq_iff.mp
        (hs'.unique hsorted (mem_sortedEntities.mpr ⟨values', hvalues', rfl⟩))

/-- The fingerprints of two storylines are the same if these have the same content, and if their parts
are confused. -/
theorem incidentFingerprint_eq_iff (hs : OneEach s) (hs' : OneEach s') :
    incidentFingerprint s = incidentFingerprint s' ↔ SameContent s s' ∨
      Confused s.title.toList (partsOf s) s'.title.toList (partsOf s') := by
  rw [← String.toList_inj, incidentFingerprint_toList, incidentFingerprint_toList, joined_parts_iff,
    String.toList_inj, partsOf_inj, sameContent_iff hs hs']

theorem SameContent.not_confused (hs : OneEach s) (hs' : OneEach s') (h : SameContent s s') :
    ¬ Confused s.title.toList (partsOf s) s'.title.toList (partsOf s') := by
  intro hconfused
  obtain ⟨htitle, hentities⟩ := (sameContent_iff hs hs').mp h
  exact hconfused.differ ⟨congrArg String.toList htitle, partsOf_inj.mpr hentities⟩

/-- The text has no separator in it. -/
def PlainText (text : String) : Prop :=
  ∀ c ∈ text.toList, c ∉ ['|', '=', ',']

instance (text : String) : Decidable (PlainText text) :=
  List.decidableBAll _ _

structure Plain (s : Storyline) : Prop where
  title : PlainText s.title
  kinds : ∀ f ∈ s.entities, PlainText f.1
  values : ∀ f ∈ s.entities, ∀ v ∈ f.2, PlainText v

theorem mem_valueParts {vs : List String} {p : Char × List Char} (h : p ∈ valueParts vs) :
    (p.1 = '=' ∨ p.1 = ',') ∧ (p.2 = [] ∨ ∃ v ∈ vs, p.2 = v.toList) := by
  cases vs with
  | nil =>
      obtain rfl := List.mem_singleton.mp h
      exact ⟨.inl rfl, .inl rfl⟩
  | cons v vs =>
      rcases List.mem_cons.mp h with rfl | h
      · exact ⟨.inl rfl, .inr ⟨v, List.mem_cons_self, rfl⟩⟩
      · obtain ⟨v', hv', rfl⟩ := List.mem_map.mp h
        exact ⟨.inr rfl, .inr ⟨v', List.mem_cons_of_mem v hv', rfl⟩⟩

theorem Plain.parts (h : Plain s) : ∀ p ∈ partsOf s,
    ¬ p.1 ∉ ['|', '=', ','] ∧ ∀ c ∈ p.2, c ∉ ['|', '=', ','] := by
  intro p hp
  unfold partsOf at hp
  split at hp
  · obtain rfl := List.mem_singleton.mp hp
    simp
  · obtain ⟨⟨kind, vs⟩, hf, hp⟩ := List.mem_flatMap.mp hp
    obtain ⟨values, hvalues, rfl⟩ := mem_sortedEntities.mp hf
    rcases List.mem_cons.mp hp with rfl | hp
    · exact ⟨by simp, fun c hc => h.kinds (kind, values) hvalues c hc⟩
    · obtain ⟨hsep, hpart⟩ := mem_valueParts hp
      refine ⟨by rcases hsep with hsep | hsep <;> simp [hsep], ?_⟩
      rcases hpart with hnone | ⟨v, hv, hpart⟩
      · simp [hnone]
      · have hin : v ∈ values.filter (· ≠ "") := (List.mem_insertionSort _).mp hv
        rw [hpart]
        exact h.values _ hvalues v (List.mem_of_mem_filter hin)

/-- Storylines without separators in their texts are not confused. -/
theorem Plain.not_confused (h : Plain s) (h' : Plain s') :
    ¬ Confused s.title.toList (partsOf s) s'.title.toList (partsOf s') :=
  not_confused_of_plain h.title h.parts h'.title h'.parts

end

end BlueTeam.Correlation
