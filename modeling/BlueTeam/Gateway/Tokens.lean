/- GID: BlueTeam/Gateway/Tokens
   generality: I
   source: services/ai-gateway/app/gateway.py
   digest: How tokens behind `bearer` are found in a text, and in the pieces of it. -/

import BlueTeam.Gateway.Redact
import Mathlib.Data.List.TakeWhile

set_option autoImplicit false
set_option relaxedAutoImplicit false

namespace BlueTeam.Gateway.Redact

open BlueTeam.Python.Re BlueTeam.Lib BlueTeam.Lib.Regex

/-! ### Kinds of letters -/

/-- What the patterns see of a letter. -/
structure Alphabet (α : Type) where
  lower : α → Char
  blank : α → Bool
  inToken : α → Bool
  padding : α → Bool

namespace Alphabet

variable {α : Type}

structure Lawful (A : Alphabet α) : Prop where
  token_of_blank : ∀ x, A.blank x = true → A.inToken x = false
  padding_of_blank : ∀ x, A.blank x = true → A.padding x = false
  token_of_padding : ∀ x, A.padding x = true → A.inToken x = false
  token_of_lower : ∀ x, isTokenChar (A.lower x) = true → A.inToken x = true

variable (A : Alphabet α)

/-- The letters spell `bearer`, in whatever case. -/
def IsBearer (w : List α) : Prop :=
  w.map A.lower = "bearer".toList

def EndsInBearer (w : List α) : Prop :=
  "bearer".toList <:+ w.map A.lower

/-- `\s+[a-z0-9\-._~+/]+=*`: what is behind the blanks, and what is left. -/
def token (l : List α) : Option (List α × List α) :=
  let behind := l.dropWhile A.blank
  let more := behind.dropWhile A.inToken
  if l.head?.any A.blank && behind.head?.any A.inToken then
    some (behind.takeWhile A.inToken ++ more.takeWhile A.padding, more.dropWhile A.padding)
  else none

/-- The token behind `bearer`, and what is left. -/
def bearerOf (l : List α) : Option (List α × List α) :=
  if (l.take 6).map A.lower = "bearer".toList then A.token (l.drop 6) else none

variable {A} {l g more v rest b w : List α}

/-- A token: its blanks, its letters and its padding. -/
structure Reading (A : Alphabet α) (l s w e rest : List α) : Prop where
  split : l = s ++ (w ++ (e ++ rest))
  gap : s ≠ []
  blanks : ∀ x ∈ s, A.blank x = true
  nonempty : w ≠ []
  letters : ∀ x ∈ w, A.inToken x = true
  padding : ∀ x ∈ e, A.padding x = true
  endsToken : ∀ x ∈ (e ++ rest).head?, A.inToken x = false
  endsPadding : ∀ x ∈ rest.head?, A.padding x = false

theorem head?_dropWhile {p : α → Bool} (l : List α) : ∀ x ∈ (l.dropWhile p).head?, p x = false := by
  intro x hx
  have hnot := List.head?_dropWhile_not p l
  rw [hx] at hnot
  simpa using hnot

theorem takeWhile_of_append {p : α → Bool} {w rest : List α} (hw : ∀ x ∈ w, p x = true)
    (hrest : ∀ x ∈ rest.head?, p x = false) :
    (w ++ rest).takeWhile p = w ∧ (w ++ rest).dropWhile p = rest := by
  rw [List.takeWhile_append_of_pos hw, List.dropWhile_append_of_pos hw]
  cases rest with
  | nil => simp
  | cons x rest =>
    have hx : p x = false := hrest x rfl
    simp [hx]

theorem reading_of_token (h : A.token l = some (v, rest)) :
    ∃ s w e, v = w ++ e ∧ A.Reading l s w e rest := by
  unfold token at h
  dsimp only at h
  split at h
  · rename_i hopen
    rw [Bool.and_eq_true] at hopen
    obtain ⟨rfl, rfl⟩ := Prod.mk.inj (Option.some.inj h)
    refine ⟨l.takeWhile A.blank, (l.dropWhile A.blank).takeWhile A.inToken,
      ((l.dropWhile A.blank).dropWhile A.inToken).takeWhile A.padding, rfl, ?_⟩
    constructor
    case split => simp only [List.takeWhile_append_dropWhile]
    case gap =>
      cases l with
      | nil => simp at hopen
      | cons x l =>
        have hx : A.blank x = true := by simpa using hopen.1
        simp [hx]
    case nonempty =>
      intro hnil
      cases hbehind : l.dropWhile A.blank with
      | nil =>
        rw [hbehind] at hopen
        simp at hopen
      | cons x behind =>
        rw [hbehind] at hopen hnil
        have hx : A.inToken x = true := by simpa using hopen.2
        simp [hx] at hnil
    case blanks => exact fun x hx => List.mem_takeWhile_imp hx
    case letters => exact fun x hx => List.mem_takeWhile_imp hx
    case padding => exact fun x hx => List.mem_takeWhile_imp hx
    case endsToken =>
      rw [List.takeWhile_append_dropWhile]
      exact head?_dropWhile _
    case endsPadding => exact head?_dropWhile _
  · cases h

variable (hA : A.Lawful)

include hA

theorem token_of_reading {s w e : List α} (h : A.Reading l s w e rest) :
    A.token l = some (w ++ e, rest) := by
  obtain ⟨x, s', hs⟩ := List.exists_cons_of_ne_nil h.gap
  obtain ⟨y, w', hw⟩ := List.exists_cons_of_ne_nil h.nonempty
  have hx : A.blank x = true := h.blanks x (hs ▸ List.mem_cons_self)
  have hy : A.inToken y = true := h.letters y (hw ▸ List.mem_cons_self)
  have hyBlank : A.blank y = false := by
    rw [Bool.eq_false_iff]
    intro hblank
    rw [hA.token_of_blank y hblank] at hy
    cases hy
  have hbehind : l.dropWhile A.blank = w ++ (e ++ rest) := by
    rw [h.split]
    refine (takeWhile_of_append h.blanks fun z hz => ?_).2
    rw [hw] at hz
    obtain rfl := Option.some.inj hz
    exact hyBlank
  obtain ⟨htake, hdrop⟩ := takeWhile_of_append h.letters h.endsToken
  obtain ⟨htake', hdrop'⟩ := takeWhile_of_append h.padding h.endsPadding
  have hhead : l.head? = some x := by rw [h.split, hs]; rfl
  have hhead' : (w ++ (e ++ rest)).head? = some y := by rw [hw]; rfl
  unfold token
  dsimp only
  rw [hbehind, htake, hdrop, htake', hdrop', hhead, hhead', if_pos]
  simp [hx, hy]

/-- A token letter behind blanks begins a token. -/
theorem token_isSome {s : List α} {x : α} (hs : s ≠ []) (hblanks : ∀ y ∈ s, A.blank y = true)
    (hx : A.inToken x = true) : (A.token (s ++ x :: rest)).isSome = true := by
  have hxBlank : A.blank x = false := by
    rw [Bool.eq_false_iff]
    intro hblank
    rw [hA.token_of_blank x hblank] at hx
    cases hx
  have hbehind : (s ++ x :: rest).dropWhile A.blank = x :: rest := by
    refine (takeWhile_of_append hblanks fun z hz => ?_).2
    obtain rfl := Option.some.inj hz
    exact hxBlank
  obtain ⟨y, s', rfl⟩ := List.exists_cons_of_ne_nil hs
  unfold token
  dsimp only
  rw [hbehind, if_pos]
  · rfl
  · simp [hblanks y List.mem_cons_self, hx]

omit hA in
theorem exists_of_token_isSome (h : (A.token l).isSome = true) :
    ∃ s x rest, l = s ++ x :: rest ∧ s ≠ [] ∧ (∀ y ∈ s, A.blank y = true) ∧ A.inToken x = true := by
  obtain ⟨⟨v, rest⟩, hsome⟩ := Option.isSome_iff_exists.mp h
  obtain ⟨s, w, e, -, hread⟩ := reading_of_token hsome
  obtain ⟨x, w', hw⟩ := List.exists_cons_of_ne_nil hread.nonempty
  refine ⟨s, x, w' ++ (e ++ rest), ?_, hread.gap, hread.blanks,
    hread.letters x (hw ▸ List.mem_cons_self)⟩
  rw [hread.split, hw]
  rfl

theorem token_append_isSome (h : (A.token g).isSome = true) :
    (A.token (g ++ more)).isSome = true := by
  obtain ⟨s, x, rest, rfl, hs, hblanks, hx⟩ := exists_of_token_isSome h
  rw [List.append_assoc]
  exact token_isSome hA hs hblanks hx

/-- What the token of a longer text is, if the text behind begins with a token letter. -/
inductive Cut (A : Alphabet α) (g more v rest : List α) : Prop
  /-- the token is behind -/
  | behind (w e : List α) (hnone : A.token g = none) (hv : v = w ++ e)
      (hmore : more = w ++ (e ++ rest)) (hw : ∀ x ∈ w, A.inToken x = true)
      (he : ∀ x ∈ e, A.padding x = true)
  /-- the token is in front -/
  | front (rest' : List α) (hrest : rest = rest' ++ more) (hsome : A.token g = some (v, rest'))
  /-- the token is cut -/
  | both (v' w e : List α) (hsome : A.token g = some (v', [])) (hv : v = v' ++ (w ++ e))
      (hmore : more = w ++ (e ++ rest)) (hw : ∀ x ∈ w, A.inToken x = true)
      (he : ∀ x ∈ e, A.padding x = true)

theorem cut_of_token (hmore : ∀ x ∈ more.head?, A.inToken x = true)
    (h : A.token (g ++ more) = some (v, rest)) : A.Cut g more v rest := by
  obtain ⟨s, w, e, rfl, hread⟩ := reading_of_token h
  -- the blanks are in front
  obtain ⟨g', rfl, hbehind⟩ : ∃ g', g = s ++ g' ∧ g' ++ more = w ++ (e ++ rest) := by
    rcases List.append_eq_append_iff.mp hread.split with ⟨s', rfl, hs'⟩ | ⟨g', hg, hg'⟩
    · cases s' with
      | nil => exact ⟨[], by simp, by simpa using hs'⟩
      | cons x s' =>
        have htoken : A.inToken x = true := hmore x (by rw [hs']; rfl)
        rw [hA.token_of_blank x (hread.blanks x (by simp))] at htoken
        cases htoken
    · exact ⟨g', hg, hg'.symm⟩
  have hcut : ∀ {w' : List α}, w' ≠ [] → (∀ x ∈ w', A.inToken x = true) →
      A.token (s ++ w') = some (w', []) := by
    intro w' hne hw'
    have hread' : A.Reading (s ++ w') s w' [] [] :=
      ⟨by simp, hread.gap, hread.blanks, hne, hw', nofun, nofun, nofun⟩
    simpa using token_of_reading hA hread'
  rcases List.append_eq_append_iff.mp hbehind with ⟨n, rfl, hn⟩ | ⟨g₂, rfl, hg₂⟩
  · by_cases hne : g' = []
    · subst hne
      refine .behind n e ?_ rfl hn (fun x hx => hread.letters x (by simpa using hx)) hread.padding
      rw [Option.eq_none_iff_forall_ne_some]
      intro m hm
      obtain ⟨s', x, rest', hsplit, -, -, hx⟩ :=
        exists_of_token_isSome (Option.isSome_iff_exists.mpr ⟨m, hm⟩)
      have hmem : x ∈ s ++ [] := by rw [hsplit]; simp
      rw [hA.token_of_blank x (hread.blanks x (by simpa using hmem))] at hx
      cases hx
    · refine .both g' n e (hcut hne fun x hx => hread.letters x (List.mem_append_left _ hx))
        (List.append_assoc _ _ _) hn (fun x hx => hread.letters x (List.mem_append_right _ hx))
        hread.padding
  · rcases List.append_eq_append_iff.mp hg₂ with ⟨rest', rfl, hrest'⟩ | ⟨e', rfl, he'⟩
    · refine .front rest' hrest' (token_of_reading hA (s := s) ?_)
      refine ⟨rfl, hread.gap, hread.blanks, hread.nonempty, hread.letters, hread.padding, ?_, ?_⟩
      · intro x hx
        refine hread.endsToken x ?_
        rw [hrest', ← List.append_assoc, List.head?_append, hx]
        rfl
      · intro x hx
        refine hread.endsPadding x ?_
        rw [hrest', List.head?_append, hx]
        rfl
    · -- the padding ends before what is behind, which begins with a letter of a token
      have hnil : e' = [] := by
        cases e' with
        | nil => rfl
        | cons x e' =>
          have htoken : A.inToken x = true := hmore x (by rw [he']; rfl)
          rw [hA.token_of_padding x (hread.padding x (by simp))] at htoken
          cases htoken
      subst hnil
      refine .front [] (by simpa using he'.symm) (token_of_reading hA (s := s) ?_)
      refine ⟨by simp, hread.gap, hread.blanks, hread.nonempty, hread.letters,
        fun x hx => hread.padding x (by simpa using hx), ?_, nofun⟩
      intro x hx
      have hhead : g₂.head? = some x := by simpa using hx
      refine hread.endsToken x ?_
      rw [List.append_nil, List.head?_append, hhead]
      rfl

/-! ### Bearers -/

omit hA in
theorem IsBearer.length (h : A.IsBearer b) : b.length = 6 := by
  have hlength := congrArg List.length h
  simpa using hlength

theorem IsBearer.inToken (h : A.IsBearer b) : ∀ x ∈ b, A.inToken x = true := by
  intro x hx
  have hlower : A.lower x ∈ "bearer".toList := h ▸ List.mem_map_of_mem hx
  have hall : ∀ c ∈ "bearer".toList, isTokenChar c = true := forall_of_all (by decide)
  exact hA.token_of_lower x (hall _ hlower)

theorem IsBearer.not_blank (h : A.IsBearer b) : ∀ x ∈ b, A.blank x = false := by
  intro x hx
  rw [Bool.eq_false_iff]
  intro hblank
  have htoken := h.inToken hA x hx
  rw [hA.token_of_blank x hblank] at htoken
  cases htoken

omit hA in
theorem bearerOf_append (h : A.IsBearer b) (l : List α) : A.bearerOf (b ++ l) = A.token l := by
  unfold bearerOf
  rw [List.take_left' h.length, List.drop_left' h.length]
  exact if_pos h

omit hA in
theorem exists_of_bearerOf {m : List α × List α} (h : A.bearerOf l = some m) :
    ∃ b l', l = b ++ l' ∧ A.IsBearer b ∧ A.token l' = some m := by
  unfold bearerOf at h
  split at h
  · rename_i hword
    exact ⟨l.take 6, l.drop 6, (List.take_append_drop 6 l).symm, hword, h⟩
  · cases h

omit hA in
theorem length_of_token {m : List α × List α} (h : A.token l = some m) :
    m.2.length < l.length := by
  obtain ⟨v, rest⟩ := m
  obtain ⟨s, w, e, -, hread⟩ := reading_of_token h
  have hlength := List.length_pos_iff.mpr hread.gap
  rw [hread.split]
  simp only [List.length_append]
  omega

omit hA in
theorem length_of_bearerOf (h : A.bearerOf l = some (v, rest)) : rest.length < l.length := by
  obtain ⟨b, l', rfl, hb, htoken⟩ := exists_of_bearerOf h
  obtain ⟨s, w, e, -, hread⟩ := reading_of_token htoken
  rw [hread.split]
  simp only [List.length_append, hb.length]
  omega

omit hA in
/-- A `bearer` begins with its first letter. -/
theorem bearerOf_cons {x : α} (h : A.lower x ≠ 'b') : A.bearerOf (x :: l) = none := by
  unfold bearerOf
  rw [if_neg]
  intro hword
  exact h (List.cons.inj hword).1

variable (A)

/-- The letters of the tokens that are found behind a `bearer`. -/
def values (l : List α) : List α :=
  match _h : A.bearerOf l with
  | some m => m.1 ++ values m.2
  | none =>
      match l with
      | [] => []
      | _ :: l => values l
termination_by l.length
decreasing_by
  · exact length_of_bearerOf _h
  · exact Nat.lt_succ_self _

/-- The letters that are in no match. -/
def spared (l : List α) : List α :=
  match _h : A.bearerOf l with
  | some m => spared m.2
  | none =>
      match l with
      | [] => []
      | x :: l => x :: spared l
termination_by l.length
decreasing_by
  · exact length_of_bearerOf _h
  · exact Nat.lt_succ_self _

variable {A}

omit hA in
theorem values_nil : A.values [] = [] := by
  unfold values
  rfl

omit hA in
theorem values_cons {x : α} (h : A.bearerOf (x :: l) = none) :
    A.values (x :: l) = A.values l := by
  conv_lhs => unfold values
  split
  · rename_i m hm
    rw [h] at hm
    cases hm
  · rfl

omit hA in
theorem values_found (h : A.bearerOf l = some (v, rest)) :
    A.values l = v ++ A.values rest := by
  conv_lhs => unfold values
  split
  · rename_i m hm
    obtain rfl := Option.some.inj (h.symm.trans hm)
    rfl
  · rename_i hm
    rw [h] at hm
    cases hm

omit hA in
theorem spared_nil : A.spared [] = [] := by
  unfold spared
  rfl

omit hA in
theorem spared_cons {x : α} (h : A.bearerOf (x :: l) = none) :
    A.spared (x :: l) = x :: A.spared l := by
  conv_lhs => unfold spared
  split
  · rename_i m hm
    rw [h] at hm
    cases hm
  · rfl

omit hA in
theorem spared_found (h : A.bearerOf l = some (v, rest)) : A.spared l = A.spared rest := by
  conv_lhs => unfold spared
  split
  · rename_i m hm
    obtain rfl := Option.some.inj (h.symm.trans hm)
    rfl
  · rename_i hm
    rw [h] at hm
    cases hm

omit hA in
theorem exists_of_bearerOf' (h : A.bearerOf l = some (v, rest)) :
    ∃ front, l = front ++ (v ++ rest) ∧ front ≠ [] := by
  obtain ⟨b, l', rfl, hb, htoken⟩ := exists_of_bearerOf h
  obtain ⟨s, w, e, rfl, hread⟩ := reading_of_token htoken
  refine ⟨b ++ s, by rw [hread.split]; simp, ?_⟩
  intro hnil
  have hlength := hb.length
  rw [(List.append_eq_nil_iff.mp hnil).1] at hlength
  simp at hlength

omit hA in
/-- The letters that are found, and those that are not, are letters of the text. -/
theorem subset_of_scan (l : List α) : A.values l ⊆ l ∧ A.spared l ⊆ l := by
  induction hn : l.length using Nat.strongRecOn generalizing l with
  | ind n ih =>
    cases hm : A.bearerOf l with
    | some m =>
      obtain ⟨v, rest⟩ := m
      obtain ⟨hvalues, hspared⟩ := ih _ (hn ▸ length_of_bearerOf hm) rest rfl
      obtain ⟨front, hsplit, -⟩ := exists_of_bearerOf' hm
      have hrest : rest ⊆ l := by
        intro x hx
        rw [hsplit]
        simp [hx]
      rw [values_found hm, spared_found hm]
      refine ⟨List.append_subset.mpr ⟨?_, List.Subset.trans hvalues hrest⟩,
        List.Subset.trans hspared hrest⟩
      intro x hx
      rw [hsplit]
      simp [hx]
    | none =>
      cases l with
      | nil =>
        rw [values_nil, spared_nil]
        exact ⟨List.Subset.refl _, List.Subset.refl _⟩
      | cons x l =>
        obtain ⟨hvalues, hspared⟩ := ih l.length (by simp at hn; omega) l rfl
        rw [values_cons hm, spared_cons hm]
        exact ⟨List.subset_cons_of_subset x hvalues, List.cons_subset_cons x hspared⟩

omit hA in
/-- Letters at which no match begins are passed over. -/
theorem values_append (h : ∀ x w', w = x ++ w' → w' ≠ [] → A.bearerOf (w' ++ l) = none) :
    A.values (w ++ l) = A.values l := by
  induction w with
  | nil => rfl
  | cons c w ih =>
    have hhere : A.bearerOf (c :: (w ++ l)) = none := h [] (c :: w) rfl (List.cons_ne_nil c w)
    rw [List.cons_append, values_cons hhere]
    exact ih fun x w' hw hne => h (c :: x) w' (by rw [hw]; rfl) hne

omit hA in
theorem spared_append (h : ∀ x w', w = x ++ w' → w' ≠ [] → A.bearerOf (w' ++ l) = none) :
    A.spared (w ++ l) = w ++ A.spared l := by
  induction w with
  | nil => rfl
  | cons c w ih =>
    have hhere : A.bearerOf (c :: (w ++ l)) = none := h [] (c :: w) rfl (List.cons_ne_nil c w)
    rw [List.cons_append, spared_cons hhere,
      ih fun x w' hw hne => h (c :: x) w' (by rw [hw]; rfl) hne]
    rfl

omit hA in
/-- A first letter of another kind than that of `bearer` is passed over, too. -/
theorem bearerOf_none_of_forall (h : ∀ x ∈ w, A.lower x ≠ 'b') (x w' : List α)
    (hw : w = x ++ w') (hne : w' ≠ []) : A.bearerOf (w' ++ l) = none := by
  obtain ⟨c, w', rfl⟩ := List.exists_cons_of_ne_nil hne
  refine bearerOf_cons (h c ?_)
  rw [hw]
  exact List.mem_append_right x List.mem_cons_self

theorem lower_of_blank {x : α} (h : A.blank x = true) : A.lower x ≠ 'b' := by
  intro hlower
  have htoken := hA.token_of_lower x (by rw [hlower]; decide)
  rw [hA.token_of_blank x h] at htoken
  cases htoken

/-! ### Letters of no token -/

/-- No blank, no letter of a token and no padding. -/
structure Wall (A : Alphabet α) (x : α) : Prop where
  blank : A.blank x = false
  inToken : A.inToken x = false
  padding : A.padding x = false

omit hA in
theorem Reading.not_mem {s e : List α} {x : α} (h : A.Reading l s w e rest) (hx : A.Wall x) :
    x ∉ s ++ (w ++ e) := by
  intro hmem
  rcases List.mem_append.mp hmem with hin | hin
  · have hblank := h.blanks x hin
    rw [hx.blank] at hblank
    cases hblank
  · rcases List.mem_append.mp hin with hin | hin
    · have htoken := h.letters x hin
      rw [hx.inToken] at htoken
      cases htoken
    · have hpadding := h.padding x hin
      rw [hx.padding] at hpadding
      cases hpadding

theorem token_wall {x : α} (hx : A.Wall x) (g l : List α) :
    A.token (g ++ x :: l) = (A.token g).map fun m => (m.1, m.2 ++ x :: l) := by
  cases hm : A.token (g ++ x :: l) with
  | none =>
    cases hg : A.token g with
    | none => rfl
    | some m =>
      have hsome : (A.token (g ++ x :: l)).isSome = true :=
        token_append_isSome hA (by rw [hg]; rfl)
      rw [hm] at hsome
      cases hsome
  | some m =>
    obtain ⟨v, rest⟩ := m
    obtain ⟨s, w, e, rfl, hread⟩ := reading_of_token hm
    have hsplit : g ++ x :: l = (s ++ (w ++ e)) ++ rest := by
      rw [hread.split]
      simp
    obtain ⟨rest', rfl, rfl⟩ : ∃ rest', g = (s ++ (w ++ e)) ++ rest' ∧
        rest = rest' ++ x :: l := by
      rcases List.append_eq_append_iff.mp hsplit with ⟨a, hin, ha⟩ | ⟨rest', hg, hrest⟩
      · cases a with
        | nil => exact ⟨[], by simpa using hin.symm, by simpa using ha.symm⟩
        | cons y a =>
          obtain rfl : x = y := (List.cons.inj ha).1
          exact absurd (by rw [hin]; simp) (hread.not_mem hx)
      · exact ⟨rest', hg, hrest⟩
    have hread' : A.Reading ((s ++ (w ++ e)) ++ rest') s w e rest' := by
      refine ⟨by simp, hread.gap, hread.blanks, hread.nonempty, hread.letters, hread.padding,
        fun y hy => ?_, fun y hy => ?_⟩
      · refine hread.endsToken y ?_
        rw [← List.append_assoc, List.head?_append, hy]
        rfl
      · refine hread.endsPadding y ?_
        rw [List.head?_append, hy]
        rfl
    rw [token_of_reading hA hread']
    rfl

theorem bearerOf_wall {x : α} (hx : A.Wall x) (g l : List α) :
    A.bearerOf (g ++ x :: l) = (A.bearerOf g).map fun m => (m.1, m.2 ++ x :: l) := by
  have hlonger : ∀ {b g' : List α}, A.IsBearer b → g = b ++ g' →
      A.bearerOf (g ++ x :: l) = (A.bearerOf g).map fun m => (m.1, m.2 ++ x :: l) := by
    rintro b g' hb rfl
    rw [List.append_assoc, bearerOf_append hb, bearerOf_append hb, token_wall hA hx]
  cases hg : A.bearerOf g with
  | some m =>
    obtain ⟨b, g', hsplit, hb, -⟩ := exists_of_bearerOf hg
    rw [← hg, hlonger hb hsplit]
  | none =>
    rw [Option.map_none, Option.eq_none_iff_forall_ne_some]
    intro m hm
    obtain ⟨b, l', hsplit, hb, -⟩ := exists_of_bearerOf hm
    rcases List.append_eq_append_iff.mp hsplit with ⟨a, hba, ha⟩ | ⟨g', hg', -⟩
    · cases a with
      | nil =>
        have hsame : g = b ++ [] := by simpa using hba.symm
        rw [hlonger hb hsame, hg] at hm
        cases hm
      | cons y a =>
        obtain rfl : x = y := (List.cons.inj ha).1
        have htoken := hb.inToken hA x (by rw [hba]; simp)
        rw [hx.inToken] at htoken
        cases htoken
    · rw [hlonger hb hg', hg] at hm
      cases hm

/-- What is left on the two sides of such a letter is left. -/
theorem spared_wall {x : α} (hx : A.Wall x) (g l : List α) :
    A.spared (g ++ x :: l) = A.spared g ++ x :: A.spared l := by
  induction hn : g.length using Nat.strongRecOn generalizing g with
  | ind n ih =>
    have hwall := bearerOf_wall hA hx g l
    cases hm : A.bearerOf g with
    | some m =>
      obtain ⟨v, rest⟩ := m
      rw [hm] at hwall
      rw [spared_found hwall, spared_found hm]
      exact ih rest.length (hn ▸ length_of_bearerOf hm) rest rfl
    | none =>
      rw [hm] at hwall
      cases g with
      | nil =>
        rw [List.nil_append] at hwall ⊢
        rw [spared_cons hwall, spared_nil]
        rfl
      | cons c g =>
        rw [List.cons_append] at hwall ⊢
        rw [spared_cons hwall, spared_cons hm, ih g.length (by simp at hn; omega) g rfl]
        rfl

/-! ### Texts that end before a match -/

variable (A)

/-- A match that begins in the text and ends behind it has its `bearer` at the end of the text. -/
def Closed (w l : List α) : Prop :=
  ∀ x y, w = x ++ y → y ≠ [] → A.bearerOf (y ++ l) ≠ none → A.IsBearer y

variable {A}

omit hA in
theorem endsInBearer_iff : A.EndsInBearer w ↔ ∃ m b, w = m ++ b ∧ A.IsBearer b := by
  constructor
  · rintro ⟨m', hm⟩
    obtain ⟨m, b, rfl, -, hb⟩ := List.map_eq_append_iff.mp hm.symm
    exact ⟨m, b, rfl, hb⟩
  · rintro ⟨m, b, rfl, hb⟩
    refine ⟨m.map A.lower, ?_⟩
    rw [List.map_append, show b.map A.lower = _ from hb]

omit hA in
theorem Closed.values_of_not (h : A.Closed w l) (hend : ¬ A.EndsInBearer w) :
    A.values (w ++ l) = A.values l := by
  refine values_append fun x y hw hne => ?_
  by_contra hsome
  exact hend (endsInBearer_iff.mpr ⟨x, y, hw, h x y hw hne hsome⟩)

omit hA in
theorem Closed.values_of_end (h : A.Closed (w ++ b) l) (hb : A.IsBearer b) :
    A.values ((w ++ b) ++ l) = A.values (b ++ l) := by
  rw [List.append_assoc]
  refine values_append fun x y hw hne => ?_
  by_contra hsome
  have hword : A.IsBearer (y ++ b) := by
    refine h x (y ++ b) (by rw [hw, List.append_assoc]) (by simp [hne]) ?_
    rwa [List.append_assoc]
  have hlength := hword.length
  rw [List.length_append, hb.length] at hlength
  exact hne (List.length_eq_zero_iff.mp (by omega))

omit hA in
theorem Closed.suffix (h : A.Closed (w ++ g) l) : A.Closed g l :=
  fun x y hg hne hsome => h (w ++ x) y (by rw [hg, List.append_assoc]) hne hsome

/-! ### A piece of a text -/

variable (A)

/-- What stands behind a piece: it begins with a letter of a token, but not inside a `bearer`; and
wherever a token ends that begins there, the same tokens are found afterwards. -/
structure Entry (more front after : List α) : Prop where
  head : ∀ x ∈ more.head?, A.inToken x = true
  start : ∀ y a l, A.IsBearer (y ++ a) → y ≠ [] → more = a ++ l → a = []
  subset : front ⊆ more
  resume : ∀ w e rest, more = w ++ (e ++ rest) → (∀ x ∈ w, A.inToken x = true) →
    (∀ x ∈ e, A.padding x = true) → A.values rest = after ∧ w ++ e ⊆ front

variable {A} {front after : List α}

/-- What the first match of a longer text is. -/
theorem bearerOf_append_none (hne : A.bearerOf (g ++ more) = none) : A.bearerOf g = none := by
  rw [Option.eq_none_iff_forall_ne_some]
  intro m hm
  obtain ⟨b, l, rfl, hb, htoken⟩ := exists_of_bearerOf hm
  rw [List.append_assoc, bearerOf_append hb] at hne
  have hsome : (A.token (l ++ more)).isSome = true :=
    token_append_isSome hA (Option.isSome_iff_exists.mpr ⟨m, htoken⟩)
  rw [hne] at hsome
  cases hsome

theorem exists_cut (hentry : A.Entry more front after) (hg : g ≠ [])
    (h : A.bearerOf (g ++ more) = some (v, rest)) :
    ∃ b g', g = b ++ g' ∧ A.IsBearer b ∧ A.Cut g' more v rest := by
  obtain ⟨b, l, hsplit, hb, htoken⟩ := exists_of_bearerOf h
  rcases List.append_eq_append_iff.mp hsplit with ⟨a, rfl, hmore⟩ | ⟨g', rfl, rfl⟩
  · obtain rfl := hentry.start g a l hb hg hmore
    refine ⟨g, [], by simp, by simpa using hb, cut_of_token hA hentry.head ?_⟩
    rw [List.nil_append] at hmore ⊢
    rwa [hmore]
  · exact ⟨b, g', rfl, hb, cut_of_token hA hentry.head htoken⟩

/-- What is found in a piece by itself is what is found in the whole text, as far as the piece
goes. -/
theorem values_piece (hentry : A.Entry more front after) (g : List α) :
    ∃ found, A.values (g ++ more) = found ++ after ∧ found ⊆ g ++ front ∧
      ((g ++ more).Nodup → found.Disjoint (A.spared g)) := by
  induction hn : g.length using Nat.strongRecOn generalizing g with
  | ind n ih =>
    cases g with
    | nil =>
      refine ⟨[], ?_, List.nil_subset _, fun _ => List.disjoint_nil_left _⟩
      exact (hentry.resume [] [] more rfl nofun nofun).1
    | cons c g =>
      cases hm : A.bearerOf ((c :: g) ++ more) with
      | none =>
        have hhere := bearerOf_append_none hA hm
        obtain ⟨found, hvalues, hsubset, hdisjoint⟩ := ih g.length (by simp at hn; omega) g rfl
        refine ⟨found, ?_, ?_, fun hnodup => ?_⟩
        · rw [← hvalues]
          exact values_cons hm
        · exact List.Subset.trans hsubset (List.subset_cons_self c _)
        · obtain ⟨hc, hnodup⟩ := List.nodup_cons.mp hnodup
          rw [spared_cons hhere, List.disjoint_cons_right]
          refine ⟨fun hfound => hc ?_, hdisjoint hnodup⟩
          rcases List.mem_append.mp (hsubset hfound) with hin | hin
          · exact List.mem_append_left _ hin
          · exact List.mem_append_right _ (hentry.subset hin)
      | some m =>
        obtain ⟨v, rest⟩ := m
        obtain ⟨b, g', hg, hb, hcut⟩ := exists_cut hA hentry (List.cons_ne_nil c g) hm
        rw [hg] at hm hn ⊢
        clear hg
        have hvalues := values_found hm
        have hinside : ∀ {w : List α}, w ⊆ front → (b ++ g' ++ more).Nodup →
            w.Disjoint (A.spared (b ++ g')) := by
          intro w hw hnodup x hx hspared
          exact List.disjoint_of_nodup_append hnodup ((subset_of_scan _).2 hspared)
            (hentry.subset (hw hx))
        cases hcut with
        | behind w e _ hv hmore hw he =>
          obtain ⟨hafter, hfront⟩ := hentry.resume w e rest hmore hw he
          refine ⟨v, by rw [hvalues, hafter], ?_, hinside (hv ▸ hfront)⟩
          exact List.Subset.trans (hv ▸ hfront) (List.subset_append_right _ _)
        | front rest' hrest hsome =>
          obtain rfl := hrest
          have hpiece : A.bearerOf (b ++ g') = some (v, rest') := by
            rw [bearerOf_append hb, hsome]
          obtain ⟨found, hfound, hsubset, hdisjoint⟩ :=
            ih rest'.length (hn ▸ length_of_bearerOf hpiece) rest' rfl
          obtain ⟨opening, hsplit, -⟩ := exists_of_bearerOf' hpiece
          refine ⟨v ++ found, by rw [hvalues, hfound, List.append_assoc], ?_, fun hnodup => ?_⟩
          · rw [hsplit]
            intro x hx
            rcases List.mem_append.mp hx with hx | hx
            · simp [hx]
            · rcases List.mem_append.mp (hsubset hx) with hx | hx <;> simp [hx]
          · rw [spared_found hpiece, List.disjoint_append_left]
            rw [hsplit, List.append_assoc, List.append_assoc] at hnodup
            obtain ⟨-, hnodup, -⟩ := List.nodup_append.mp hnodup
            refine ⟨fun x hx hspared => ?_, hdisjoint (List.nodup_append.mp hnodup).2.1⟩
            exact List.disjoint_of_nodup_append hnodup hx
              (List.mem_append_left _ ((subset_of_scan _).2 hspared))
        | both v' w e hsome hv hmore hw he =>
          obtain ⟨hafter, hfront⟩ := hentry.resume w e rest hmore hw he
          have hpiece : A.bearerOf (b ++ g') = some (v', []) := by
            rw [bearerOf_append hb, hsome]
          obtain ⟨opening, hsplit, -⟩ := exists_of_bearerOf' hpiece
          refine ⟨v, by rw [hvalues, hafter], ?_, fun _ => ?_⟩
          · rw [hv, hsplit]
            intro x hx
            rcases List.mem_append.mp hx with hx | hx
            · simp [hx]
            · exact List.mem_append_right _ (hfront hx)
          · rw [spared_found hpiece, spared_nil]
            exact List.disjoint_nil_right _

/-! ### A piece behind a `bearer` that is gone -/

variable (A)

/-- Behind a `bearer` that is gone there is no token; or the token is itself a `bearer` with a token
behind it, and the same holds behind that one if it ends in `bearer`. -/
inductive Paired : List α → Prop
  | none {g : List α} (hnone : A.token g = none) : Paired g
  | done {g w g' v rest : List α} (hsome : A.token g = some (w, g')) (hw : A.IsBearer w)
      (hnext : A.token g' = some (v, rest)) (hend : ¬ A.EndsInBearer v) : Paired g
  | more {g w g' v rest : List α} (hsome : A.token g = some (w, g')) (hw : A.IsBearer w)
      (hnext : A.token g' = some (v, rest)) (hend : A.EndsInBearer v) (hrest : Paired rest) :
      Paired g

variable {A}

omit hA in
/-- What a token says of what it stands in. -/
theorem paired_iff_of_token {g' : List α} (h : A.token g = some (w, g')) :
    A.Paired g ↔ A.IsBearer w ∧
      ∃ m, A.token g' = some m ∧ (A.EndsInBearer m.1 → A.Paired m.2) := by
  constructor
  · intro hpaired
    cases hpaired with
    | none hnone =>
      rw [h] at hnone
      cases hnone
    | done hsome hw hnext hend =>
      obtain ⟨rfl, rfl⟩ := Prod.mk.inj (Option.some.inj (h.symm.trans hsome))
      exact ⟨hw, _, hnext, fun h => absurd h hend⟩
    | more hsome hw hnext hend hrest =>
      obtain ⟨rfl, rfl⟩ := Prod.mk.inj (Option.some.inj (h.symm.trans hsome))
      exact ⟨hw, _, hnext, fun _ => hrest⟩
  · rintro ⟨hw, ⟨v, rest⟩, hnext, hrest⟩
    by_cases hend : A.EndsInBearer v
    · exact .more h hw hnext hend (hrest hend)
    · exact .done h hw hnext hend

omit hA in
/-- What a token that is no `bearer` before a token means. -/
theorem not_paired {g' : List α} (h : A.token g = some (w, g'))
    (hnone : A.bearerOf (w ++ g') = none) : ¬ A.Paired g := by
  rw [paired_iff_of_token h]
  rintro ⟨hw, m, hnext, -⟩
  rw [bearerOf_append hw, hnext] at hnone
  cases hnone

omit hA in
theorem paired_iff {g' : List α} (h : A.token g = some (w, g')) (hw : A.IsBearer w)
    (hnext : A.token g' = some (v, rest)) :
    A.Paired g ↔ (A.EndsInBearer v → A.Paired rest) := by
  rw [paired_iff_of_token h, hnext]
  simp [hw]

/-- Blanks are passed over. -/
theorem spared_blanks {s : List α} (hs : ∀ x ∈ s, A.blank x = true) (l : List α) :
    A.spared (s ++ l) = s ++ A.spared l :=
  spared_append (bearerOf_none_of_forall fun x hx => lower_of_blank hA (hs x hx))

theorem values_blanks {s : List α} (hs : ∀ x ∈ s, A.blank x = true) (l : List α) :
    A.values (s ++ l) = A.values l :=
  values_append (bearerOf_none_of_forall fun x hx => lower_of_blank hA (hs x hx))

omit hA in
/-- No match begins inside a `bearer`. -/
theorem values_bearer (hb : A.IsBearer b) (h : A.token l = none) :
    A.values (b ++ l) = A.values l := by
  refine values_append fun x y hsplit hne => ?_
  by_contra hsome
  obtain ⟨m, hm⟩ := Option.ne_none_iff_exists'.mp hsome
  have hword : "bearer".toList = x.map A.lower ++ y.map A.lower := by
    rw [← List.map_append, ← hsplit, show b.map A.lower = _ from hb]
  obtain ⟨c, y, rfl⟩ := List.exists_cons_of_ne_nil hne
  have hc : A.lower c = 'b' := by
    by_contra hc
    rw [List.cons_append, bearerOf_cons hc] at hm
    cases hm
  cases x with
  | nil =>
    rw [List.nil_append] at hsplit
    rw [← hsplit, bearerOf_append hb, h] at hm
    cases hm
  | cons d x =>
    have htail : 'b' ∈ "earer".toList := by
      have htail : "earer".toList = x.map A.lower ++ (A.lower c :: y.map A.lower) :=
        (List.cons.inj hword).2
      rw [htail, hc]
      simp
    exact absurd htail (by decide)

/-- No `bearer` goes beyond the end of a token. -/
theorem closed_token (hentry : A.Entry more front after) (h : A.token g = some (v, rest)) :
    A.Closed v (rest ++ more) := by
  obtain ⟨s, w, e, rfl, hread⟩ := reading_of_token h
  intro x y hsplit hne hsome
  obtain ⟨m, hm⟩ := Option.ne_none_iff_exists'.mp hsome
  obtain ⟨b, l, hy, hb, htoken⟩ := exists_of_bearerOf hm
  rcases List.append_eq_append_iff.mp hy with ⟨a, rfl, ha⟩ | ⟨a, rfl, ha⟩
  · cases a with
    | nil => simpa using hb
    | cons z a =>
      have hz : A.inToken z = true := hb.inToken hA z (by simp)
      cases rest with
      | nil => exact absurd (hentry.start y (z :: a) l hb hne ha) (List.cons_ne_nil z a)
      | cons z' rest =>
        obtain rfl : z' = z := (List.cons.inj ha).1
        rcases List.eq_nil_or_concat e with rfl | ⟨e', p, rfl⟩
        · rw [hread.endsToken z' rfl] at hz
          cases hz
        · -- the last letter is padding, and none of a `bearer`
          obtain ⟨y', q, rfl⟩ := (List.eq_nil_or_concat y).resolve_left hne
          have hlast := congrArg List.getLast? hsplit
          simp only [← List.append_assoc, List.concat_eq_append, List.getLast?_concat] at hlast
          obtain rfl := Option.some.inj hlast
          have htoken := hb.inToken hA p (by simp)
          rw [hA.token_of_padding p (hread.padding p (by simp))] at htoken
          cases htoken
  · cases a with
    | nil => simpa using hb
    | cons z a =>
      obtain ⟨v', rest'⟩ := m
      obtain ⟨s', w', e', -, hread'⟩ := reading_of_token htoken
      obtain ⟨z', s', rfl⟩ := List.exists_cons_of_ne_nil hread'.gap
      have hhead := hread'.split
      rw [ha] at hhead
      obtain rfl : z = z' := (List.cons.inj hhead).1
      have hblank := hread'.blanks z (by simp)
      have hmem : z ∈ w ++ e := by rw [hsplit]; simp
      rcases List.mem_append.mp hmem with hin | hin
      · have htoken := hread.letters z hin
        rw [hA.token_of_blank z hblank] at htoken
        cases htoken
      · have hpadding := hread.padding z hin
        rw [hA.padding_of_blank z hblank] at hpadding
        cases hpadding

/-- A token that is a `bearer` before a token. -/
theorem bearer_of_token {m : List α × List α} (h : A.token g = some (v, rest))
    (hnext : A.bearerOf (v ++ rest) = some m) : A.IsBearer v ∧ A.token rest = some m := by
  obtain ⟨s, w, e, rfl, hread⟩ := reading_of_token h
  obtain ⟨b, l, hsplit, hb, htoken⟩ := exists_of_bearerOf hnext
  obtain ⟨z, l, rfl, hz⟩ : ∃ z l', l = z :: l' ∧ A.blank z = true := by
    obtain ⟨v', rest'⟩ := m
    obtain ⟨s', w', e', -, hread'⟩ := reading_of_token htoken
    obtain ⟨z, s', rfl⟩ := List.exists_cons_of_ne_nil hread'.gap
    exact ⟨z, _, hread'.split, hread'.blanks z (by simp)⟩
  rw [List.append_assoc] at hsplit
  have hletters := takeWhile_of_append hread.letters hread.endsToken
  have hbearer := @takeWhile_of_append _ _ b (z :: l) (hb.inToken hA) fun x hx => by
    obtain rfl := Option.some.inj hx
    exact hA.token_of_blank z hz
  rw [hsplit, hbearer.1, hbearer.2] at hletters
  obtain ⟨rfl, hrest⟩ := hletters
  have hnil : e = [] := by
    cases e with
    | nil => rfl
    | cons x e =>
      obtain rfl : z = x := (List.cons.inj hrest).1
      have hpadding := hread.padding z (by simp)
      rw [hA.padding_of_blank z hz] at hpadding
      cases hpadding
  subst hnil
  rw [List.nil_append] at hrest
  rw [← hrest, List.append_nil]
  exact ⟨hb, htoken⟩

omit hA in
theorem exists_of_token (h : A.token g = some (v, rest)) :
    ∃ s, g = s ++ (v ++ rest) ∧ (∀ x ∈ s, A.blank x = true) ∧ v ≠ [] := by
  obtain ⟨s, w, e, rfl, hread⟩ := reading_of_token h
  refine ⟨s, ?_, hread.blanks, ?_⟩
  · rw [hread.split, List.append_assoc]
  · simp [hread.nonempty]

/-- A token that does not begin a match is left. -/
theorem exists_spared (h : A.token g = some (v, rest)) (hnone : A.bearerOf (v ++ rest) = none) :
    ∃ x ∈ v, x ∈ A.spared g := by
  obtain ⟨s, rfl, hblanks, hne⟩ := exists_of_token h
  obtain ⟨x, v, rfl⟩ := List.exists_cons_of_ne_nil hne
  refine ⟨x, List.mem_cons_self, ?_⟩
  have hhere : A.bearerOf (x :: (v ++ rest)) = none := hnone
  rw [spared_blanks hA hblanks, List.cons_append, spared_cons hhere]
  simp

/-- What is found behind a `bearer` that is gone is removed if tokens and `bearer`s pair up. -/
theorem values_behind (hentry : A.Entry more front after) (hb : A.IsBearer b) (g : List α) :
    ∃ found, A.values (b ++ (g ++ more)) = found ++ after ∧ found ⊆ g ++ front ∧
      ((g ++ more).Nodup → (found.Disjoint (A.spared g) ↔ A.Paired g)) := by
  induction hn : g.length using Nat.strongRecOn generalizing g b with
  | ind n ih =>
    cases hm : A.token (g ++ more) with
    | none =>
      have hnone : A.token g = none := by
        by_contra hsome
        have hlonger : (A.token (g ++ more)).isSome = true :=
          token_append_isSome hA (Option.isSome_iff_ne_none.mpr hsome)
        rw [hm] at hlonger
        cases hlonger
      obtain ⟨found, hvalues, hsubset, hdisjoint⟩ := values_piece hA hentry g
      refine ⟨found, by rw [values_bearer hb hm, hvalues], hsubset, fun hnodup => ?_⟩
      exact iff_of_true (hdisjoint hnodup) (.none hnone)
    | some m =>
      obtain ⟨v, rest⟩ := m
      have hvalues : A.values (b ++ (g ++ more)) = v ++ A.values rest :=
        values_found (by rw [bearerOf_append hb, hm])
      cases cut_of_token hA hentry.head hm with
      | behind w e hnone hv hmore hw he =>
        obtain ⟨hafter, hfront⟩ := hentry.resume w e rest hmore hw he
        refine ⟨v, by rw [hvalues, hafter], ?_, fun hnodup => ?_⟩
        · exact List.Subset.trans (hv ▸ hfront) (List.subset_append_right _ _)
        · refine iff_of_true (fun x hx hspared => ?_) (.none hnone)
          exact List.disjoint_of_nodup_append hnodup ((subset_of_scan _).2 hspared)
            (hentry.subset (hfront (hv ▸ hx)))
      | both v' w e hsome hv hmore hw he =>
        obtain ⟨hafter, hfront⟩ := hentry.resume w e rest hmore hw he
        have hnone : A.bearerOf (v' ++ []) = none := by
          rw [Option.eq_none_iff_forall_ne_some]
          intro m hm
          have htoken := (bearer_of_token hA hsome hm).2
          unfold token at htoken
          simp at htoken
        obtain ⟨s, hsplit, -, -⟩ := exists_of_token hsome
        obtain ⟨x, hx, hspared⟩ := exists_spared hA hsome hnone
        refine ⟨v, by rw [hvalues, hafter], ?_, fun _ => ?_⟩
        · rw [hv, hsplit]
          intro y hy
          rcases List.mem_append.mp hy with hy | hy
          · simp [hy]
          · exact List.mem_append_right _ (hfront hy)
        · refine iff_of_false (fun hdisjoint => ?_) (not_paired hsome hnone)
          exact hdisjoint (by rw [hv]; exact List.mem_append_left _ hx) hspared
      | front rest' hrest hsome =>
        obtain rfl := hrest
        obtain ⟨s, hsplit, hblanks, -⟩ := exists_of_token hsome
        have hspared : A.spared g = s ++ A.spared (v ++ rest') := by
          rw [hsplit, spared_blanks hA hblanks]
        cases hnext : A.bearerOf (v ++ rest') with
        | none =>
          obtain ⟨x, hx, hleft⟩ := exists_spared hA hsome hnext
          obtain ⟨found, hfound, hsubset, -⟩ := values_piece hA hentry rest'
          refine ⟨v ++ found, by rw [hvalues, hfound, List.append_assoc], ?_, fun _ => ?_⟩
          · rw [hsplit]
            intro y hy
            rcases List.mem_append.mp hy with hy | hy
            · simp [hy]
            · rcases List.mem_append.mp (hsubset hy) with hy | hy <;> simp [hy]
          · refine iff_of_false (fun hdisjoint => ?_) (not_paired hsome hnext)
            exact hdisjoint (List.mem_append_left _ hx) hleft
        | some m =>
          obtain ⟨v₂, rest₂⟩ := m
          obtain ⟨hbearer, htoken⟩ := bearer_of_token hA hsome hnext
          obtain ⟨s₂, hsplit₂, hblanks₂, -⟩ := exists_of_token htoken
          have hclosed := closed_token hA hentry htoken
          rw [spared_found hnext] at hspared
          have hbehind : A.values (rest' ++ more) = A.values (v₂ ++ (rest₂ ++ more)) := by
            rw [hsplit₂, List.append_assoc, values_blanks hA hblanks₂, List.append_assoc]
          have hlength : rest₂.length < n := by
            rw [← hn, hsplit]
            have hless := length_of_bearerOf hnext
            simp only [List.length_append] at hless ⊢
            omega
          have hsuffix : rest₂ <:+ g := ⟨s ++ (v ++ (s₂ ++ v₂)), by rw [hsplit, hsplit₂]; simp⟩
          have hless : (g ++ more).Nodup → (rest₂ ++ more).Nodup :=
            List.Nodup.sublist (hsuffix.sublist.append_right more)
          -- it is the letters behind the second token that count
          have hfinish : ∀ {found : List α}, A.values (v₂ ++ (rest₂ ++ more)) = found ++ after →
              found ⊆ rest₂ ++ front → ∃ found', A.values (b ++ (g ++ more)) = found' ++ after ∧
                found' ⊆ g ++ front ∧ ((g ++ more).Nodup → (found'.Disjoint (A.spared g) ↔
                  found.Disjoint (A.spared rest₂))) := by
            intro found hfound hsubset
            refine ⟨v ++ found, by rw [hvalues, hbehind, hfound, List.append_assoc], ?_, ?_⟩
            · rw [hsplit, hsplit₂]
              intro y hy
              rcases List.mem_append.mp hy with hy | hy
              · simp [hy]
              · rcases List.mem_append.mp (hsubset hy) with hy | hy <;> simp [hy]
            · intro hnodup
              have hall : g ++ more = s ++ (v ++ (s₂ ++ (v₂ ++ (rest₂ ++ more)))) := by
                rw [hsplit, hsplit₂]
                simp
              rw [hall] at hnodup
              have hopen : s.Disjoint (v ++ (s₂ ++ (v₂ ++ (rest₂ ++ more)))) :=
                List.disjoint_of_nodup_append hnodup
              have hvalue : v.Disjoint (s₂ ++ (v₂ ++ (rest₂ ++ more))) :=
                List.disjoint_of_nodup_append (List.nodup_append.mp hnodup).2.1
              rw [hspared, List.disjoint_append_left, List.disjoint_append_right,
                List.disjoint_append_right]
              refine ⟨fun h => h.2.2, fun h => ⟨⟨?_, ?_⟩, ?_, h⟩⟩
              · exact fun x hx hs => hopen hs (List.mem_append_left _ hx)
              · intro x hx hleft
                have hrest := (subset_of_scan rest₂).2 hleft
                exact hvalue hx (by simp [hrest])
              · intro x hx hs
                rcases List.mem_append.mp (hsubset hx) with hin | hin
                · exact hopen hs (by simp [hin])
                · exact hopen hs (by simp [hentry.subset hin])
          by_cases hend : A.EndsInBearer v₂
          · obtain ⟨m, b₂, rfl, hb₂⟩ := endsInBearer_iff.mp hend
            obtain ⟨found, hfound, hsubset, hdisjoint⟩ := ih rest₂.length hlength hb₂ rest₂ rfl
            rw [← hclosed.values_of_end hb₂] at hfound
            obtain ⟨found', hvalues', hsubset', hdisjoint'⟩ := hfinish hfound hsubset
            refine ⟨found', hvalues', hsubset', fun hnodup => ?_⟩
            rw [hdisjoint' hnodup, hdisjoint (hless hnodup), paired_iff hsome hbearer htoken]
            exact ⟨fun h _ => h, fun h => h hend⟩
          · obtain ⟨found, hfound, hsubset, hdisjoint⟩ := values_piece hA hentry rest₂
            rw [← hclosed.values_of_not hend] at hfound
            obtain ⟨found', hvalues', hsubset', hdisjoint'⟩ := hfinish hfound hsubset
            refine ⟨found', hvalues', hsubset', fun hnodup => ?_⟩
            rw [hdisjoint' hnodup, paired_iff hsome hbearer htoken]
            exact iff_of_true (hdisjoint (hless hnodup)) fun h => absurd h hend

/-! ### Letters that are looked at through a function -/

section

variable {β : Type} (B : Alphabet β) (f : α → β)

def comap : Alphabet α where
  lower := B.lower ∘ f
  blank := B.blank ∘ f
  inToken := B.inToken ∘ f
  padding := B.padding ∘ f

omit hA

theorem token_comap (l : List α) :
    B.token (l.map f) = ((B.comap f).token l).map fun m => (m.1.map f, m.2.map f) := by
  have hany : ∀ (l : List α) (p : β → Bool), (l.map f).head?.any p = l.head?.any (p ∘ f) := by
    intro l p
    cases l <;> rfl
  by_cases hopen : (l.head?.any (B.blank ∘ f) &&
      (l.dropWhile (B.blank ∘ f)).head?.any (B.inToken ∘ f)) = true
  · have hseen : (B.comap f).token l = some _ := if_pos hopen
    rw [hseen, Option.map_some]
    unfold token
    simp only [List.dropWhile_map, List.takeWhile_map, hany]
    rw [if_pos hopen, List.map_append]
    rfl
  · have hseen : (B.comap f).token l = none := if_neg hopen
    rw [hseen, Option.map_none]
    unfold token
    simp only [List.dropWhile_map, hany]
    exact if_neg hopen

theorem isBearer_comap (w : List α) : (B.comap f).IsBearer w ↔ B.IsBearer (w.map f) := by
  unfold IsBearer
  rw [List.map_map]
  rfl

theorem endsInBearer_comap (w : List α) :
    (B.comap f).EndsInBearer w ↔ B.EndsInBearer (w.map f) := by
  unfold EndsInBearer
  rw [List.map_map]
  rfl

theorem paired_comap (g : List α) : (B.comap f).Paired g ↔ B.Paired (g.map f) := by
  induction hn : g.length using Nat.strongRecOn generalizing g with
  | ind n ih =>
    have htoken := token_comap B f g
    cases h : (B.comap f).token g with
    | none =>
      rw [h] at htoken
      exact iff_of_true (.none h) (.none htoken)
    | some m =>
      obtain ⟨w, g'⟩ := m
      rw [h] at htoken
      rw [paired_iff_of_token h, paired_iff_of_token htoken, isBearer_comap, token_comap]
      refine and_congr_right fun _ => ?_
      cases hnext : (B.comap f).token g' with
      | none => simp
      | some m =>
        have hless : m.2.length < n := by
          rw [← hn]
          exact (length_of_token hnext).trans (length_of_token h)
        simp [endsInBearer_comap, ih _ hless m.2 rfl]

end

end Alphabet

end BlueTeam.Gateway.Redact
