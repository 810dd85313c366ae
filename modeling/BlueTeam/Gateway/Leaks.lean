/- GID: BlueTeam/Gateway/Leaks
   generality: I
   source: services/ai-gateway/app/gateway.py
   digest: Which credentials the redaction of a prompt leaves. -/

import BlueTeam.Gateway.Tokens
import Mathlib.Data.List.Chain

set_option autoImplicit false
set_option relaxedAutoImplicit false

namespace BlueTeam.Gateway.Redact

open BlueTeam.Python.Re BlueTeam.Lib BlueTeam.Lib.Regex

namespace Alphabet

variable {α : Type} {A : Alphabet α} {l g v rest b front after : List α} (hA : A.Lawful)

include hA

/-! ### Matches of the first pattern -/

/-- What the first pattern takes for a keyword. -/
def keywords : List String :=
  ["password", "secret", "apikey", "api_key", "api-key", "token"]

/-- A match of the first pattern: a keyword, a sign and letters that are not blank, as many as there
are. -/
structure Assignment (A : Alphabet α) (n rest k s₁ : List α) (c : α) (s₂ run : List α) : Prop where
  split : n = k ++ (s₁ ++ (c :: (s₂ ++ run)))
  keyword : ∃ word ∈ keywords, k.map A.lower = word.toList
  blanks₁ : ∀ x ∈ s₁, A.blank x = true
  sign : A.inToken c = false
  solidSign : A.blank c = false
  blanks₂ : ∀ x ∈ s₂, A.blank x = true
  nonempty : run ≠ []
  solid : ∀ x ∈ run, A.blank x = false
  ends : ∀ x ∈ rest.head?, A.blank x = true

variable {n k s₁ s₂ run : List α} {c : α}

theorem Assignment.inToken (h : A.Assignment n rest k s₁ c s₂ run) :
    ∀ x ∈ k, A.inToken x = true := by
  obtain ⟨word, hword, hk⟩ := h.keyword
  intro x hx
  have hlower : A.lower x ∈ word.toList := hk ▸ List.mem_map_of_mem hx
  have hall : ∀ word ∈ keywords, (word.toList.all fun c => isTokenChar c) = true := by decide
  exact hA.token_of_lower x (List.all_eq_true.mp (hall word hword) _ hlower)

theorem Assignment.keyword_solid (h : A.Assignment n rest k s₁ c s₂ run) :
    ∀ x ∈ k, A.blank x = false := by
  intro x hx
  rw [Bool.eq_false_iff]
  intro hblank
  have htoken := h.inToken hA x hx
  rw [hA.token_of_blank x hblank] at htoken
  cases htoken

/-- No blank of a match stands behind an `r`. -/
theorem Assignment.chain (h : A.Assignment n rest k s₁ c s₂ run) :
    List.IsChain (fun x y => A.blank y = true → A.blank x = false → A.lower x ≠ 'r') n := by
  have hsolid : ∀ {w : List α}, (∀ x ∈ w, A.blank x = false) → List.IsChain
      (fun x y => A.blank y = true → A.blank x = false → A.lower x ≠ 'r') w := by
    intro w hw
    refine List.Pairwise.isChain (List.pairwise_of_forall_mem_list fun x _ y hy hblank => ?_)
    rw [hw y hy] at hblank
    cases hblank
  have hblanks : ∀ {w : List α}, (∀ x ∈ w, A.blank x = true) → List.IsChain
      (fun x y => A.blank y = true → A.blank x = false → A.lower x ≠ 'r') w := by
    intro w hw
    refine List.Pairwise.isChain (List.pairwise_of_forall_mem_list fun x hx y _ _ hnot => ?_)
    rw [hw x hx] at hnot
    cases hnot
  have hsign : A.lower c ≠ 'r' := by
    intro hlower
    have htoken := hA.token_of_lower c (by rw [hlower]; decide)
    rw [h.sign] at htoken
    cases htoken
  rw [h.split]
  have hrun : List.IsChain (fun x y => A.blank y = true → A.blank x = false → A.lower x ≠ 'r')
      (s₂ ++ run) := by
    refine List.isChain_append.mpr ⟨hblanks h.blanks₂, hsolid h.solid, fun x hx y _ _ hnot => ?_⟩
    rw [h.blanks₂ x (List.mem_of_getLast? hx)] at hnot
    cases hnot
  have hbehind : List.IsChain (fun x y => A.blank y = true → A.blank x = false → A.lower x ≠ 'r')
      (s₁ ++ (c :: (s₂ ++ run))) := by
    refine List.isChain_append.mpr ⟨hblanks h.blanks₁,
      List.isChain_cons.mpr ⟨fun _ _ _ _ => hsign, hrun⟩, fun x hx y _ _ hnot => ?_⟩
    rw [h.blanks₁ x (List.mem_of_getLast? hx)] at hnot
    cases hnot
  refine List.isChain_append.mpr ⟨hsolid (h.keyword_solid hA), hbehind, fun x hx y _ _ _ => ?_⟩
  obtain ⟨word, hword, hk⟩ := h.keyword
  have hall : ∀ word ∈ keywords, word.toList.getLast? ≠ some 'r' := by decide
  intro hlower
  refine hall word hword ?_
  rw [← hk, List.getLast?_map, show k.getLast? = some x from hx, Option.map_some, hlower]

/-- A `bearer` that is found in a match is at its end. -/
theorem Assignment.closed (h : A.Assignment n rest k s₁ c s₂ run) : A.Closed n rest := by
  intro x y hsplit hne hsome
  obtain ⟨m, hm⟩ := Option.ne_none_iff_exists'.mp hsome
  obtain ⟨b, l, hy, hb, htoken⟩ := exists_of_bearerOf hm
  rcases List.append_eq_append_iff.mp hy with ⟨a, rfl, ha⟩ | ⟨a, rfl, ha⟩
  · cases a with
    | nil => simpa using hb
    | cons z a =>
      have hblank := h.ends z (by rw [ha]; rfl)
      rw [hb.not_blank hA z (by simp)] at hblank
      cases hblank
  · cases a with
    | nil => simpa using hb
    | cons z a =>
      obtain ⟨v, rest'⟩ := m
      obtain ⟨s', w', e', -, hread⟩ := reading_of_token htoken
      obtain ⟨z', s', rfl⟩ := List.exists_cons_of_ne_nil hread.gap
      have hhead := hread.split
      rw [ha] at hhead
      obtain rfl : z = z' := (List.cons.inj hhead).1
      -- the blank stands behind the last letter of `bearer`
      obtain ⟨b', r, rfl⟩ : ∃ b' r, b = b' ++ [r] := by
        rcases List.eq_nil_or_concat b with rfl | ⟨b', r, rfl⟩
        · cases hb
        · exact ⟨b', r, List.concat_eq_append⟩
      have hlast : A.lower r = 'r' := by
        have hword := congrArg List.getLast? hb
        simpa using hword
      have hchain := h.chain hA
      rw [hsplit, ← List.append_assoc, show x ++ (b' ++ [r]) ++ z :: a =
        (x ++ b') ++ r :: z :: a by simp, List.isChain_append_cons_cons] at hchain
      exact absurd hlast (hchain.2.1 (hread.blanks z (by simp)) (hb.not_blank hA r (by simp)))

omit hA in
theorem Assignment.start (h : A.Assignment n rest k s₁ c s₂ run) (y a l : List α)
    (hb : A.IsBearer (y ++ a)) (hne : y ≠ []) (hsplit : n ++ rest = a ++ l) : a = [] := by
  obtain ⟨word, hword, hk⟩ := h.keyword
  have hprefix : word.toList <+: (n ++ rest).map A.lower := by
    rw [h.split, List.append_assoc, List.map_append, hk]
    exact List.prefix_append _ _
  have hprefix' : a.map A.lower <+: (n ++ rest).map A.lower := by
    rw [hsplit, List.map_append]
    exact List.prefix_append _ _
  have hsuffix : a.map A.lower ∈ "bearer".toList.tail.tails := by
    obtain ⟨z, y, rfl⟩ := List.exists_cons_of_ne_nil hne
    rw [List.mem_tails]
    have htail := congrArg List.tail hb
    rw [← htail]
    exact ⟨y.map A.lower, by simp⟩
  have hall : ∀ word ∈ keywords, ∀ a ∈ "bearer".toList.tail.tails, a ≠ [] →
      ¬ word.toList <+: a ∧ ¬ a <+: word.toList := by
    decide
  by_contra ha
  obtain ⟨hnot, hnot'⟩ := hall word hword _ hsuffix (by simpa using ha)
  exact (List.prefix_or_prefix_of_prefix hprefix hprefix').elim hnot hnot'

theorem Assignment.head (h : A.Assignment n rest k s₁ c s₂ run) :
    ∀ x ∈ (n ++ rest).head?, A.inToken x = true := by
  obtain ⟨word, hword, hk⟩ := h.keyword
  have hne : ∀ word ∈ keywords, word.toList ≠ [] := by decide
  cases hk' : k with
  | nil =>
    rw [hk'] at hk
    exact absurd hk.symm (hne word hword)
  | cons x k' =>
    intro y hy
    rw [h.split, hk'] at hy
    obtain rfl : x = y := Option.some.inj hy
    exact h.inToken hA x (hk' ▸ List.mem_cons_self)

/-- What a token takes of a match, it takes of its beginning. -/
theorem Assignment.taken (h : A.Assignment n rest k s₁ c s₂ run) {w e l : List α}
    (hsplit : n ++ rest = w ++ (e ++ l)) (hw : ∀ x ∈ w, A.inToken x = true)
    (he : ∀ x ∈ e, A.padding x = true) : ∃ n', n = (w ++ e) ++ n' ∧ l = n' ++ rest := by
  rw [← List.append_assoc] at hsplit
  rcases List.append_eq_append_iff.mp hsplit with ⟨a, hwe, ha⟩ | ⟨n', hn, hl⟩
  · cases a with
    | nil => exact ⟨[], by simpa using hwe.symm, by simpa using ha.symm⟩
    | cons z a =>
      have hblank := h.ends z (by rw [ha]; rfl)
      have hmem : z ∈ w ++ e := by rw [hwe]; simp
      rcases List.mem_append.mp hmem with hin | hin
      · have htoken := hw z hin
        rw [hA.token_of_blank z hblank] at htoken
        cases htoken
      · have hpadding := he z hin
        rw [hA.padding_of_blank z hblank] at hpadding
        cases hpadding
  · exact ⟨n', hn, hl⟩

/-- A token does not reach a `bearer` at the end of a match, for the sign is before it. -/
theorem Assignment.bearer_left (h : A.Assignment n rest k s₁ c s₂ run) {w e n' m : List α}
    (hn : n = (w ++ e) ++ n') (hm : n = m ++ b) (hb : A.IsBearer b)
    (hw : ∀ x ∈ w, A.inToken x = true) (he : ∀ x ∈ e, A.padding x = true) :
    ∃ m', n' = m' ++ b := by
  have hsign : c ∈ m := by
    have hmem : c ∈ m ++ b := by rw [← hm, h.split]; simp
    refine (List.mem_append.mp hmem).resolve_right fun hin => ?_
    have htoken := hb.inToken hA c hin
    rw [h.sign] at htoken
    cases htoken
  rcases List.append_eq_append_iff.mp (hn.symm.trans hm) with ⟨m', -, hn'⟩ | ⟨a, ha, hb'⟩
  · exact ⟨m', hn'⟩
  · rcases List.eq_nil_or_concat a with rfl | ⟨a, q, rfl⟩
    · exact ⟨[], by simpa using hb'.symm⟩
    · have hc : c ∈ e := by
        have hmem : c ∈ w ++ e := by rw [ha]; simp [hsign]
        refine (List.mem_append.mp hmem).resolve_left fun hin => ?_
        have htoken := hw c hin
        rw [h.sign] at htoken
        cases htoken
      rcases List.eq_nil_or_concat e with rfl | ⟨e, p, rfl⟩
      · cases hc
      · have hlast := congrArg List.getLast? ha
        simp only [← List.append_assoc, List.concat_eq_append, List.getLast?_concat] at hlast
        obtain rfl := Option.some.inj hlast
        have htoken := hb.inToken hA p (by rw [hb']; simp)
        rw [hA.token_of_padding p (he p (by simp))] at htoken
        cases htoken

theorem Assignment.entry_of_not (h : A.Assignment n rest k s₁ c s₂ run)
    (hend : ¬ A.EndsInBearer n) : A.Entry (n ++ rest) n (A.values rest) := by
  refine ⟨h.head hA, h.start, List.subset_append_left _ _, fun w e l hsplit hw he => ?_⟩
  obtain ⟨n', hn, rfl⟩ := h.taken hA hsplit hw he
  have hclosed : A.Closed ((w ++ e) ++ n') rest := hn ▸ h.closed hA
  refine ⟨hclosed.suffix.values_of_not fun hend' => hend ?_, ?_⟩
  · obtain ⟨m, b, rfl, hb⟩ := endsInBearer_iff.mp hend'
    exact endsInBearer_iff.mpr ⟨(w ++ e) ++ m, b, by rw [hn]; simp, hb⟩
  · rw [hn]
    exact List.subset_append_left _ _

theorem Assignment.entry_of_end (h : A.Assignment n rest k s₁ c s₂ run) {m : List α}
    (hm : n = m ++ b) (hb : A.IsBearer b) : A.Entry (n ++ rest) n (A.values (b ++ rest)) := by
  refine ⟨h.head hA, h.start, List.subset_append_left _ _, fun w e l hsplit hw he => ?_⟩
  obtain ⟨n', hn, rfl⟩ := h.taken hA hsplit hw he
  obtain ⟨m', rfl⟩ := h.bearer_left hA hn hm hb hw he
  have hclosed : A.Closed ((w ++ e) ++ (m' ++ b)) rest := hn ▸ h.closed hA
  refine ⟨hclosed.suffix.values_of_end hb, ?_⟩
  rw [hn]
  exact List.subset_append_left _ _

/-! ### Whole texts -/

/-- Matches, each with the piece behind it, as they stand in the text. -/
def glue : List (List α × List α) → List α
  | [] => []
  | (n, g) :: more => n ++ (g ++ glue more)

/-- The first pattern finds each of the matches. -/
def Cuts (A : Alphabet α) : List (List α × List α) → Prop
  | [] => True
  | (n, g) :: more =>
      (∃ k s₁ c s₂ run, A.Assignment n (g ++ glue more) k s₁ c s₂ run) ∧ Cuts A more

/-- What is left of the pieces. -/
def left (A : Alphabet α) (more : List (List α × List α)) : List α :=
  more.flatMap fun p => A.spared p.2

omit hA in
theorem left_subset (more : List (List α × List α)) : left A more ⊆ glue more := by
  induction more with
  | nil => exact List.Subset.refl _
  | cons p more ih =>
    intro x hx
    show x ∈ p.1 ++ (p.2 ++ glue more)
    rcases List.mem_append.mp hx with hx | hx
    · simp [(subset_of_scan p.2).2 hx]
    · simp [ih hx]

omit hA in
/-- What is found in a piece and its match is removed with the piece or not at all. -/
theorem disjoint_iff {more : List (List α × List α)} {found : List α}
    (hfound : found ⊆ g ++ front) (hfront : front.Disjoint (left A more))
    (hafter : after ⊆ glue more)
    (hnodup : (g ++ glue more).Nodup) :
    (found ++ after).Disjoint (A.spared g ++ left A more) ↔
      found.Disjoint (A.spared g) ∧ after.Disjoint (left A more) := by
  have happart : g.Disjoint (glue more) := List.disjoint_of_nodup_append hnodup
  rw [List.disjoint_append_left, List.disjoint_append_right, List.disjoint_append_right]
  constructor
  · exact fun h => ⟨h.1.1, h.2.2⟩
  · rintro ⟨hpiece, hlater⟩
    refine ⟨⟨hpiece, fun x hx hleft => ?_⟩, fun x hx hspared => ?_, hlater⟩
    · rcases List.mem_append.mp (hfound hx) with hin | hin
      · exact happart hin (left_subset more hleft)
      · exact hfront hin hleft
    · exact happart ((subset_of_scan g).2 hspared) (hafter hx)

omit hA in
/-- The matches are removed. -/
theorem disjoint_left_of_mem {more : List (List α × List α)} (hnodup : (glue more).Nodup)
    {p : List α × List α} (hp : p ∈ more) : p.1 ⊆ glue more ∧ p.1.Disjoint (left A more) := by
  induction more with
  | nil => cases hp
  | cons q more ih =>
    have hnodup' : (q.1 ++ (q.2 ++ glue more)).Nodup := hnodup
    have hpiece : (q.2 ++ glue more).Nodup := (List.nodup_append.mp hnodup').2.1
    have hleft : left A (q :: more) ⊆ q.2 ++ glue more := by
      intro x hx
      rcases List.mem_append.mp hx with hin | hin
      · exact List.mem_append_left _ ((subset_of_scan q.2).2 hin)
      · exact List.mem_append_right _ (left_subset more hin)
    rcases List.mem_cons.mp hp with rfl | hp
    · refine ⟨List.subset_append_left _ _, fun x hx hin => ?_⟩
      exact List.disjoint_of_nodup_append hnodup' hx (hleft hin)
    · obtain ⟨hsubset, hdisjoint⟩ := ih (List.nodup_append.mp hpiece).2.1 hp
      refine ⟨fun x hx => ?_, fun x hx hin => ?_⟩
      · exact List.mem_append_right q.1 (List.mem_append_right q.2 (hsubset hx))
      · rcases List.mem_append.mp hin with hin | hin
        · exact List.disjoint_of_nodup_append hpiece ((subset_of_scan q.2).2 hin) (hsubset hx)
        · exact hdisjoint hx hin

/-- What stands behind a piece, and what is found there. -/
theorem exists_entry (more : List (List α × List α)) (hcuts : Cuts A more)
    (hnodup : (glue more).Nodup) :
    ∃ front after, A.Entry (glue more) front after ∧ after ⊆ glue more ∧
      front.Disjoint (left A more) ∧
      (after.Disjoint (left A more) ↔ ∀ p ∈ more, A.EndsInBearer p.1 → A.Paired p.2) := by
  induction more with
  | nil =>
    refine ⟨[], [], ⟨nofun, ?_, List.nil_subset _, ?_⟩, List.nil_subset _, List.disjoint_nil_left _,
      iff_of_true (List.disjoint_nil_left _) nofun⟩
    · intro y a l _ _ hsplit
      exact (List.append_eq_nil_iff.mp hsplit.symm).1
    · intro w e rest hsplit _ _
      obtain ⟨rfl, hrest⟩ := List.append_eq_nil_iff.mp hsplit.symm
      obtain ⟨rfl, rfl⟩ := List.append_eq_nil_iff.mp hrest
      exact ⟨values_nil, List.Subset.refl _⟩
  | cons p more ih =>
    obtain ⟨n, g⟩ := p
    obtain ⟨⟨k, s₁, c, s₂, run, hassign⟩, hcuts⟩ := hcuts
    have hnodup' : (n ++ (g ++ glue more)).Nodup := hnodup
    have hpiece : (g ++ glue more).Nodup := (List.nodup_append.mp hnodup').2.1
    obtain ⟨front, after, hentry, hafter, hfront, hiff⟩ :=
      ih hcuts (List.nodup_append.mp hpiece).2.1
    have hleft : n.Disjoint (left A ((n, g) :: more)) := fun x hx hleft => by
      refine List.disjoint_of_nodup_append hnodup' hx ?_
      rcases List.mem_append.mp hleft with hin | hin
      · exact List.mem_append_left _ ((subset_of_scan g).2 hin)
      · exact List.mem_append_right _ (left_subset more hin)
    by_cases hend : A.EndsInBearer n
    · obtain ⟨m, b, hm, hb⟩ := endsInBearer_iff.mp hend
      obtain ⟨found, hvalues, hfound, hdisjoint⟩ := values_behind hA hentry hb g
      refine ⟨n, _, hassign.entry_of_end hA hm hb, ?_, hleft, ?_⟩
      · intro x hx
        show x ∈ n ++ (g ++ glue more)
        rcases List.mem_append.mp ((subset_of_scan _).1 hx) with hin | hin
        · rw [hm]
          simp [hin]
        · exact List.mem_append_right _ hin
      · rw [hvalues]
        refine (disjoint_iff hfound hfront hafter hpiece).trans ?_
        rw [hdisjoint hpiece, hiff, List.forall_mem_cons]
        exact and_congr_left fun _ => ⟨fun h _ => h, fun h => h hend⟩
    · obtain ⟨found, hvalues, hfound, hdisjoint⟩ := values_piece hA hentry g
      refine ⟨n, _, hassign.entry_of_not hA hend, ?_, hleft, ?_⟩
      · exact List.Subset.trans (subset_of_scan _).1 (List.subset_append_right _ _)
      · rw [hvalues]
        refine (disjoint_iff hfound hfront hafter hpiece).trans ?_
        rw [hiff, List.forall_mem_cons]
        exact and_congr_left fun _ =>
          iff_of_true (hdisjoint hpiece) fun h => absurd h hend

/-- What is found in a text is removed if tokens and `bearer`s pair up wherever a match ends in
`bearer`. -/
theorem disjoint_left_iff {more : List (List α × List α)} (hcuts : Cuts A more)
    (hnodup : (g ++ glue more).Nodup) :
    (A.values (g ++ glue more)).Disjoint (A.spared g ++ left A more) ↔
      ∀ p ∈ more, A.EndsInBearer p.1 → A.Paired p.2 := by
  obtain ⟨front, after, hentry, hafter, hfront, hiff⟩ :=
    exists_entry hA more hcuts (List.nodup_append.mp hnodup).2.1
  obtain ⟨found, hvalues, hfound, hdisjoint⟩ := values_piece hA hentry g
  rw [hvalues, disjoint_iff hfound hfront hafter hnodup, hiff]
  exact and_iff_right (hdisjoint hnodup)

end Alphabet

/-! ### The patterns on letters of any kind -/

section

variable {α : Type} (u : CharTables) (key : α → Char)

def alphabet : Alphabet α where
  lower x := u.fold (key x)
  blank x := u.space (key x)
  inToken x := isTokenChar (key x) || isTokenChar (u.fold (key x))
  padding x := key x = '='

theorem ascii_of_isTokenChar {c : Char} (h : isTokenChar c = true) :
    c.toNat < 128 ∧ isAsciiSpace c = false := by
  have hletter : ∀ c : Char, 33 ≤ c.toNat → c.toNat < 128 →
      c.toNat < 128 ∧ isAsciiSpace c = false := by
    intro c hlow hhigh
    have hblank : c ≠ ' ' := by
      rintro rfl
      exact absurd hlow (by decide)
    refine ⟨hhigh, ?_⟩
    simp only [isAsciiSpace, hblank, decide_false, Bool.false_or, Bool.or_eq_false_iff,
      Bool.and_eq_false_iff, decide_eq_false_iff_not]
    omega
  simp only [isTokenChar, Bool.or_eq_true, Bool.and_eq_true, decide_eq_true_eq] at h
  rcases h with (h | h) | h
  · exact hletter c (by omega) (by omega)
  · have hascii := ascii_of_isDigit h
    simp only [Char.isDigit, Bool.and_eq_true, decide_eq_true_eq] at h
    have hlow : 48 ≤ c.val.toNat := UInt32.le_iff_toNat_le.mp h.1
    exact hletter c (show 33 ≤ c.val.toNat by omega) hascii
  · have hall : ∀ c ∈ ['-', '.', '_', '~', '+', '/'], 33 ≤ c.toNat ∧ c.toNat < 128 :=
      forall_of_all (by decide)
    exact hletter c (hall c h).1 (hall c h).2

variable {u} (hu : u.Ascii)

include hu

theorem lawful_alphabet (hblank : ∀ c, u.space c = true → u.fold c = c) :
    (alphabet u key).Lawful := by
  have htoken : ∀ c, u.space c = true → isTokenChar c = false := by
    intro c hspace
    rw [Bool.eq_false_iff]
    intro hc
    obtain ⟨hascii, hnot⟩ := ascii_of_isTokenChar hc
    rw [hu.space c hascii, hnot] at hspace
    cases hspace
  have hequals : u.space '=' = false := (hu.space '=' (by decide)).trans (by decide)
  constructor
  case token_of_blank =>
    intro x hx
    show (isTokenChar (key x) || isTokenChar (u.fold (key x))) = false
    rw [hblank (key x) hx, htoken (key x) hx]
    rfl
  case padding_of_blank =>
    intro x hx
    refine decide_eq_false fun hkey => ?_
    have hspace : u.space (key x) = true := hx
    rw [hkey, hequals] at hspace
    cases hspace
  case token_of_padding =>
    intro x hx
    have hkey : key x = '=' := of_decide_eq_true hx
    show (isTokenChar (key x) || isTokenChar (u.fold (key x))) = false
    rw [hkey, hu.fold '=' (by decide)]
    decide
  case token_of_lower =>
    intro x hx
    show (isTokenChar (key x) || isTokenChar (u.fold (key x))) = true
    rw [show isTokenChar (u.fold (key x)) = true from hx, Bool.or_true]

omit hu
variable {key}

theorem comap_anyCase (word : String) : (anyCase u word).comap key =
    all (word.toList.map fun c => .one fun x => c = (alphabet u key).lower x) := by
  unfold anyCase
  rw [comap_all, List.map_map]
  rfl

theorem reads_word {word : String} {w rest : List α}
    (h : w.map (alphabet u key).lower = word.toList) :
    Reads ((anyCase u word).comap key) w rest [] := by
  rw [comap_anyCase]
  refine reads_letters ?_
  rw [← h, List.forall₂_map_left_iff]
  exact List.forall₂_same.mpr fun c _ => decide_eq_true rfl

theorem mem_word {word : String} {s t : Cursor α} (ht : t ∈ ((anyCase u word).comap key).run s) :
    ∃ w, w.map (alphabet u key).lower = word.toList ∧ s.after = w ++ t.after := by
  rw [comap_anyCase] at ht
  obtain ⟨w, hw, hafter⟩ := mem_letters ht
  refine ⟨w, ?_, hafter⟩
  rw [eq_comm, ← List.forall₂_eq_eq_eq, List.forall₂_map_right_iff]
  exact hw.imp fun c d hcd => of_decide_eq_true hcd

variable {l v rest before : List α}

/-- The second pattern takes a `bearer` and its token. -/
theorem first_bearer (hA : (alphabet u key).Lawful)
    (h : (alphabet u key).bearerOf l = some (v, rest)) :
    ∃ w, w ≠ [] ∧ l = w ++ rest ∧ ((bearerRegex u).comap key).first ⟨before, l, []⟩ =
      some ⟨w.reverse ++ before, rest, [("credential", v)]⟩ := by
  obtain ⟨b, l, rfl, hb, htoken⟩ := Alphabet.exists_of_bearerOf h
  obtain ⟨s, w, e, rfl, hread⟩ := Alphabet.reading_of_token htoken
  have hword : Reads ((anyCase u "bearer").comap key) b ((s ++ (w ++ e)) ++ rest) [] :=
    reads_word hb
  have hspaces : Reads ((spaces u).comap key) s ((w ++ e) ++ rest) [] := by
    refine reads_plus_one hread.gap hread.blanks fun x hx => ?_
    obtain ⟨y, w', hw⟩ := List.exists_cons_of_ne_nil hread.nonempty
    rw [hw] at hx
    obtain rfl := Option.some.inj hx
    rw [Bool.eq_false_iff]
    intro hblank
    have hin := hread.letters y (hw ▸ List.mem_cons_self)
    rw [hA.token_of_blank y hblank] at hin
    cases hin
  have hvalue : Reads (.group "credential"
      ((Regex.seq (plus (.one fun c => isTokenChar c || isTokenChar (u.fold c)))
        (.star (.one fun c => c = '='))).comap key)) (w ++ e) rest [("credential", w ++ e)] := by
    have htokens : Reads (plus (.one (alphabet u key).inToken)) w (e ++ rest) [] :=
      reads_plus_one hread.nonempty hread.letters hread.endsToken
    have hpadding : Reads (.star (.one (alphabet u key).padding)) e rest [] :=
      reads_star_one hread.padding hread.endsPadding
    exact Reads.group (htokens.seq hpadding)
  have hall := hword.cons (hspaces.cons hvalue.last)
  refine ⟨b ++ (s ++ (w ++ e)), ?_, ?_, ?_⟩
  · have hlength := hb.length
    rintro hnil
    rw [(List.append_eq_nil_iff.mp hnil).1] at hlength
    cases hlength
  · rw [hread.split]
    simp
  · have hfirst := hall before []
    rw [show (b ++ (s ++ (w ++ e))) ++ rest = b ++ l by rw [hread.split]; simp] at hfirst
    exact hfirst

theorem first_bearer_none (hA : (alphabet u key).Lawful)
    (h : (alphabet u key).bearerOf l = none) :
    ((bearerRegex u).comap key).first ⟨before, l, []⟩ = none := by
  refine first_eq_none_iff.mpr (List.eq_nil_iff_forall_not_mem.mpr fun t ht => ?_)
  obtain ⟨m₁, h₁, ht⟩ := mem_seq ht
  obtain ⟨m₂, h₂, ht⟩ := mem_seq ht
  obtain ⟨m₃, h₃, -⟩ := mem_seq ht
  obtain ⟨b, hb, hl⟩ := mem_word h₁
  obtain ⟨s, hne, hblanks, hs⟩ := mem_plus_one h₂
  obtain ⟨m₄, h₄, -⟩ := mem_group h₃
  obtain ⟨m₅, h₅, -⟩ := mem_seq h₄
  obtain ⟨w, hw, hletters, hafter⟩ := mem_plus_one h₅
  obtain ⟨x, w, rfl⟩ := List.exists_cons_of_ne_nil hw
  have htoken : ((alphabet u key).token (s ++ x :: (w ++ m₅.after))).isSome = true :=
    Alphabet.token_isSome hA hne hblanks (hletters x List.mem_cons_self)
  have hsplit : l = b ++ (s ++ x :: (w ++ m₅.after)) := by
    rw [show l = b ++ m₁.after from hl, hs, hafter]
    rfl
  rw [hsplit, Alphabet.bearerOf_append hb] at h
  rw [h] at htoken
  cases htoken

/-- What the second pattern finds in a text, and what it leaves. -/
theorem parts_bearer (hA : (alphabet u key).Lawful) (l : List α) (before : List α) :
    ((parts ((bearerRegex u).comap key) before l).filterMap Part.found?).flatMap credential =
        (alphabet u key).values l ∧
      (parts ((bearerRegex u).comap key) before l).filterMap Part.kept? =
        (alphabet u key).spared l := by
  induction hn : l.length using Nat.strongRecOn generalizing l before with
  | ind n ih =>
    cases hm : (alphabet u key).bearerOf l with
    | some m =>
      obtain ⟨v, rest⟩ := m
      obtain ⟨w, -, -, hfirst⟩ := @first_bearer _ _ _ _ _ _ before hA hm
      have hless := Alphabet.length_of_bearerOf hm
      obtain ⟨hvalues, hspared⟩ := ih _ (hn ▸ hless) rest (w.reverse ++ before) rfl
      rw [parts_found hfirst hless, Alphabet.values_found hm, Alphabet.spared_found hm, ← hvalues,
        ← hspared]
      exact ⟨rfl, rfl⟩
    | none =>
      have hfirst := @first_bearer_none _ _ _ _ before hA hm
      cases l with
      | nil =>
        rw [parts_nil hfirst, Alphabet.values_nil, Alphabet.spared_nil]
        exact ⟨rfl, rfl⟩
      | cons x l =>
        obtain ⟨hvalues, hspared⟩ := ih l.length (by simp at hn; omega) l (x :: before) rfl
        rw [parts_kept hfirst, Alphabet.values_cons hm, Alphabet.spared_cons hm, ← hvalues,
          ← hspared]
        exact ⟨rfl, rfl⟩

theorem mem_keyword {s t : Cursor α} (hu : u.Ascii)
    (ht : t ∈ ((keywordRegex u).comap key).run s) :
    ∃ k, s.after = k ++ t.after ∧
      ∃ word ∈ Alphabet.keywords, k.map (alphabet u key).lower = word.toList := by
  have hword : ∀ word ∈ Alphabet.keywords, t ∈ ((anyCase u word).comap key).run s →
      ∃ k, s.after = k ++ t.after ∧
        ∃ word ∈ Alphabet.keywords, k.map (alphabet u key).lower = word.toList := by
    intro word hmem ht
    obtain ⟨k, hk, hafter⟩ := mem_word ht
    exact ⟨k, hafter, word, hmem, hk⟩
  rcases List.mem_append.mp ht with ht | ht
  · exact hword "password" (by decide) ht
  · rcases List.mem_append.mp ht with ht | ht
    · exact hword "secret" (by decide) ht
    · rcases List.mem_append.mp ht with ht | ht
      · obtain ⟨m₁, h₁, ht⟩ := mem_seq ht
        obtain ⟨m₂, h₂, ht⟩ := mem_seq ht
        obtain ⟨m₃, h₃, ht⟩ := mem_seq ht
        obtain rfl := List.mem_singleton.mp ht
        obtain ⟨k, hk, hs⟩ := mem_word h₁
        obtain ⟨k', hk', hm₂⟩ := mem_word h₃
        rcases List.mem_append.mp h₂ with h₂ | h₂
        · obtain ⟨x, hm₁, hx⟩ := mem_one h₂
          have hkey : key x = '_' ∨ key x = '-' := by simpa using hx
          have hlower : (alphabet u key).lower x = key x := by
            show u.fold (key x) = key x
            rcases hkey with h | h
            · rw [h, hu.fold '_' (by decide)]
              decide
            · rw [h, hu.fold '-' (by decide)]
              decide
          refine ⟨k ++ x :: k', by rw [hs, hm₁, hm₂]; simp, ?_⟩
          rcases hkey with h | h
          · refine ⟨"api_key", by decide, ?_⟩
            rw [List.map_append, List.map_cons, hk, hk', hlower, h]
            decide
          · refine ⟨"api-key", by decide, ?_⟩
            rw [List.map_append, List.map_cons, hk, hk', hlower, h]
            decide
        · obtain rfl := List.mem_singleton.mp h₂
          refine ⟨k ++ k', by rw [hs, hm₂]; simp, "apikey", by decide, ?_⟩
          rw [List.map_append, hk, hk']
          decide
      · exact hword "token" (by decide) ht

/-- The first pattern takes an assignment, with all the letters up to a blank. -/
theorem first_assignment (hu : u.Ascii) {t : Cursor α}
    (h : ((assignmentRegex u).comap key).first ⟨before, l, []⟩ = some t) :
    ∃ n k s₁ c s₂ run, l = n ++ t.after ∧ t.before = n.reverse ++ before ∧ credential t = run ∧
      (alphabet u key).Assignment n t.after k s₁ c s₂ run := by
  obtain ⟨m₁, h₁, hfirst⟩ := exists_of_first_seq h
  obtain ⟨m₂, h₂, hfirst⟩ := exists_of_first_seq hfirst
  obtain ⟨m₃, h₃, hfirst⟩ := exists_of_first_seq hfirst
  obtain ⟨m₄, h₄, hfirst⟩ := exists_of_first_seq hfirst
  have hlast : (Regex.group "credential" ((solid u).comap key)).first m₄ = some t :=
    first_seq_empty.symm.trans hfirst
  obtain ⟨m₅, h₅, rfl⟩ := exists_of_first_group hlast
  obtain ⟨m₀, h₀, rfl⟩ := List.mem_map.mp h₁
  obtain ⟨k, hl, hk⟩ := mem_keyword hu h₀
  obtain ⟨s₁, hs₁, hafter₁, -⟩ := mem_star_one h₂
  obtain ⟨c, hafter₂, hc⟩ := mem_one h₃
  obtain ⟨s₂, hs₂, hafter₃, -⟩ := mem_star_one h₄
  obtain ⟨run, hne, hsolid, hafter₄, hends⟩ := exists_of_first_plus_one h₅
  have hsplit : l = (k ++ (s₁ ++ (c :: (s₂ ++ run)))) ++ m₅.after := by
    rw [show l = k ++ m₀.after from hl, show m₀.after = s₁ ++ m₂.after from hafter₁, hafter₂,
      hafter₃, hafter₄]
    simp
  obtain ⟨w, hw, hbefore⟩ := ahead_of_mem_run (List.mem_of_head? h)
  obtain ⟨w', hw', hbefore'⟩ := ahead_of_mem_run (List.mem_of_head? h₅)
  obtain rfl : w = k ++ (s₁ ++ (c :: (s₂ ++ run))) :=
    List.append_cancel_right (hw.symm.trans hsplit)
  obtain rfl : w' = run := List.append_cancel_right (hw'.symm.trans hafter₄)
  refine ⟨_, k, s₁, c, s₂, w', hsplit, hbefore, ?_, ?_⟩
  · have hgroups : m₅.groups = [("1", between ⟨before, l, []⟩ m₀)] := by
      have hkeyword : Groupless ((keywordRegex u).comap key) := by
        simp [keywordRegex, comap, comap_anyCase, Groupless, Regex.optional, all]
      have hcredential : Groupless ((solid u).comap key) := ⟨trivial, trivial⟩
      have hstart : m₀.groups = [] := groups_of_mem_run hkeyword h₀
      rw [groups_of_mem_run hcredential (List.mem_of_head? h₅),
        groups_of_mem_run (r := .star (.one _)) trivial h₄,
        groups_of_mem_run (r := .one _) trivial h₃,
        groups_of_mem_run (r := .star (.one _)) trivial h₂]
      show m₀.groups ++ _ = _
      rw [hstart, List.nil_append]
    show ((m₅.groups ++ [("credential", between m₄ m₅)]).lookup "credential").getD [] = w'
    rw [hgroups, between_of_ahead hbefore']
    rfl
  · have hsign : key c = ':' ∨ key c = '=' := by simpa [isSign] using hc
    refine ⟨rfl, hk, hs₁, ?_, ?_, hs₂, hne, fun x hx => ?_, fun x hx => ?_⟩
    · show (isTokenChar (key c) || isTokenChar (u.fold (key c))) = false
      rcases hsign with h | h
      · rw [h, hu.fold ':' (by decide)]
        decide
      · rw [h, hu.fold '=' (by decide)]
        decide
    · show u.space (key c) = false
      rcases hsign with h | h
      · exact h ▸ (hu.space ':' (by decide)).trans (by decide)
      · exact h ▸ (hu.space '=' (by decide)).trans (by decide)
    · show u.space (key x) = false
      simpa using hsolid x hx
    · show u.space (key x) = true
      simpa using hends x hx

open Alphabet in
/-- The first pattern cuts a text into pieces; the credentials that it finds are in its matches. -/
theorem pieces_assignment (hu : u.Ascii) (l : List α) (before : List α) :
    (pieces (parts ((assignmentRegex u).comap key) before l)).1 ++
        glue (pieces (parts ((assignmentRegex u).comap key) before l)).2 = l ∧
      Cuts (alphabet u key) (pieces (parts ((assignmentRegex u).comap key) before l)).2 ∧
      ∀ t ∈ (parts ((assignmentRegex u).comap key) before l).filterMap Part.found?,
        ∃ p ∈ (pieces (parts ((assignmentRegex u).comap key) before l)).2,
          credential t ⊆ p.1 := by
  induction hn : l.length using Nat.strongRecOn generalizing l before with
  | ind n ih =>
    cases hfirst : ((assignmentRegex u).comap key).first ⟨before, l, []⟩ with
    | some t =>
      obtain ⟨m, k, s₁, c, s₂, run, hl, hbefore, hcredential, hassign⟩ := first_assignment hu hfirst
      have hne : m ≠ [] := by
        rw [hassign.split]
        simp
      have hless : t.after.length < l.length := by
        have hlength := congrArg List.length hl
        have hpos := List.length_pos_iff.mpr hne
        rw [List.length_append] at hlength
        omega
      obtain ⟨hglue, hcuts, hfound⟩ := ih _ (hn ▸ hless) t.after t.before rfl
      rw [parts_found hfirst hless, between_of_ahead hbefore]
      refine ⟨?_, ⟨⟨k, s₁, c, s₂, run, ?_⟩, hcuts⟩, ?_⟩
      · show [] ++ (m ++ (_ ++ glue _)) = l
        rw [hglue, List.nil_append, ← hl]
      · rw [hglue]
        exact hassign
      · intro t' ht'
        rcases List.mem_cons.mp ht' with rfl | ht'
        · refine ⟨_, List.mem_cons_self, ?_⟩
          rw [hcredential, hassign.split]
          intro x hx
          simp [hx]
        · obtain ⟨p, hp, hsubset⟩ := hfound t' ht'
          exact ⟨p, List.mem_cons_of_mem _ hp, hsubset⟩
    | none =>
      cases l with
      | nil =>
        rw [parts_nil hfirst]
        exact ⟨rfl, trivial, nofun⟩
      | cons x l =>
        obtain ⟨hglue, hcuts, hfound⟩ := ih l.length (by simp at hn; omega) l (x :: before) rfl
        rw [parts_kept hfirst]
        exact ⟨congrArg (x :: ·) hglue, hcuts, hfound⟩

end

/-! ### What is left of a text -/

section

variable {u : CharTables} (hu : u.Ascii)

include hu

theorem wall_bracket {x : Letter} (hx : x.1 = '[' ∨ x.1 = ']') :
    (alphabet u (Prod.fst : Letter → Char)).Wall x := by
  have hwall : ∀ c : Char, c = '[' ∨ c = ']' → u.space c = false ∧
      (isTokenChar c || isTokenChar (u.fold c)) = false ∧ (c = '=') = False := by
    rintro c (rfl | rfl)
    · rw [hu.space '[' (by decide), hu.fold '[' (by decide)]
      decide
    · rw [hu.space ']' (by decide), hu.fold ']' (by decide)]
      decide
  obtain ⟨hspace, htoken, hequals⟩ := hwall x.1 hx
  exact ⟨hspace, htoken, decide_eq_false (hequals ▸ id)⟩

/-- What was put in is left as it is, and the pieces are gone through by themselves. -/
theorem spared_replaced (hA : (alphabet u (Prod.fst : Letter → Char)).Lawful) (g : List Letter)
    (more : List (List Letter × List Letter)) :
    (alphabet u Prod.fst).spared
        (g ++ more.flatMap fun p => replacement.map (·, none) ++ p.2) =
      (alphabet u Prod.fst).spared g ++
        more.flatMap fun p => replacement.map (·, none) ++ (alphabet u Prod.fst).spared p.2 := by
  induction more generalizing g with
  | nil => simp
  | cons p more ih =>
    obtain ⟨word, hword, hplain⟩ : ∃ word : List Letter,
        replacement.map (·, none) = ('[', none) :: (word ++ [(']', none)]) ∧
          ∀ x ∈ word, (alphabet u Prod.fst).lower x ≠ 'b' := by
      refine ⟨"REDACTED".toList.map (·, none), by decide, fun x hx => ?_⟩
      obtain ⟨c, hc, rfl⟩ := List.mem_map.mp hx
      have hall : ∀ c ∈ "REDACTED".toList, c.toNat < 128 ∧ c.toLower ≠ 'b' :=
        forall_of_all (by decide)
      show u.fold c ≠ 'b'
      rw [hu.fold c (hall c hc).1]
      exact (hall c hc).2
    have hmiddle : (alphabet u Prod.fst).spared word = word := by
      have happend := Alphabet.spared_append (l := [])
        (Alphabet.bearerOf_none_of_forall (l := []) hplain)
      rwa [List.append_nil, Alphabet.spared_nil, List.append_nil] at happend
    have hopen : (alphabet u Prod.fst).Wall (('[', none) : Letter) := wall_bracket hu (.inl rfl)
    have hclose : (alphabet u Prod.fst).Wall ((']', none) : Letter) := wall_bracket hu (.inr rfl)
    rw [hword] at ih ⊢
    simp only [List.flatMap_cons, List.cons_append, List.append_assoc, List.nil_append] at ih ⊢
    rw [Alphabet.spared_wall hA hopen, Alphabet.spared_wall hA hclose, hmiddle, ih p.2]

/-- What is left of a text, besides what was put in: what the second pattern does not find in the
pieces. -/
theorem mem_redactLetters (hA : (alphabet u (Prod.fst : Letter → Char)).Lawful)
    (text : List Letter) {x : Letter} (hx : x.2 ≠ none) :
    x ∈ redactLetters u text ↔
      x ∈ (alphabet u Prod.fst).spared
          (pieces (parts ((assignmentRegex u).comap Prod.fst) [] text)).1 ++
        Alphabet.left (alphabet u Prod.fst)
          (pieces (parts ((assignmentRegex u).comap Prod.fst) [] text)).2 := by
  have hnew : x ∉ replacement.map ((·, none) : Char → Letter) := by
    intro hmem
    obtain ⟨c, -, rfl⟩ := List.mem_map.mp hmem
    exact hx rfl
  unfold redactLetters secretPatterns
  rw [List.foldl_cons, List.foldl_cons, List.foldl_nil, mem_sub hnew, (parts_bearer hA _ _).2]
  unfold sub
  rw [flatMap_replaced, spared_replaced hu hA]
  simp only [List.mem_append, Alphabet.left, List.mem_flatMap, hnew, false_or]

end

/-- Redaction leaves no credential if and only if, behind every assignment that ends in `bearer`,
tokens and `bearer`s pair up to the next assignment. -/
theorem redacted_iff (u : CharTables) (hu : u.Ascii)
    (hblank : ∀ c, u.space c = true → u.fold c = c) (text : String) :
    Redacted u text ↔
      ∀ p ∈ (pieces (parts (assignmentRegex u) [] text.toList)).2,
        (alphabet u id).EndsInBearer p.1 → (alphabet u id).Paired p.2 := by
  have hA := lawful_alphabet (Prod.fst : Letter → Char) hu hblank
  obtain ⟨hglue, hcuts, hfound⟩ := @pieces_assignment Letter u Prod.fst hu (letters text) []
  have hseen := @parts_seen Letter Char Prod.fst (assignmentRegex u) [] (letters text)
  rw [map_letters, List.map_nil] at hseen
  have hmem := fun {x : Letter} => @mem_redactLetters u hu hA (letters text) x
  rw [hseen, pieces_seen]
  revert hglue hcuts hfound hmem
  generalize pieces (parts ((assignmentRegex u).comap Prod.fst) [] (letters text)) = cut
  obtain ⟨g, more⟩ := cut
  intro hglue hcuts hfound hmem
  have hnodup : (g ++ Alphabet.glue more).Nodup := hglue.symm ▸ nodup_letters text
  have hplace : ∀ {x : Letter}, x ∈ letters text → (x ∈ redactLetters u (letters text) ↔
      x ∈ (alphabet u Prod.fst).spared g ++ Alphabet.left (alphabet u Prod.fst) more) :=
    fun hx => hmem (place_letters hx)
  -- the credentials of the first pattern are removed with its matches
  have hassigned : ∀ t ∈ findAll ((assignmentRegex u).comap Prod.fst) (letters text),
      ∀ x ∈ credential t, x ∉ redactLetters u (letters text) := by
    intro t ht x hx hleft
    obtain ⟨p, hp, hsubset⟩ := hfound t ht
    obtain ⟨hin, hdisjoint⟩ := @Alphabet.disjoint_left_of_mem _ (alphabet u Prod.fst) more
      (List.nodup_append.mp hnodup).2.1 p hp
    have hx' : x ∈ letters text := by
      rw [← hglue]
      exact List.mem_append_right _ (hin (hsubset hx))
    rcases List.mem_append.mp ((hplace hx').mp hleft) with hspared | hspared
    · exact List.disjoint_of_nodup_append hnodup ((Alphabet.subset_of_scan g).2 hspared)
        (hin (hsubset hx))
    · exact hdisjoint (hsubset hx) hspared
  have hvalues : (∀ t ∈ findAll ((bearerRegex u).comap Prod.fst) (letters text),
      ∀ x ∈ credential t, x ∉ redactLetters u (letters text)) ↔
      ((alphabet u Prod.fst).values (g ++ Alphabet.glue more)).Disjoint
        ((alphabet u Prod.fst).spared g ++ Alphabet.left (alphabet u Prod.fst) more) := by
    rw [show g ++ Alphabet.glue more = letters text from hglue,
      ← (parts_bearer hA (letters text) []).1]
    constructor
    · intro h x hx hspared
      obtain ⟨t, ht, hxt⟩ := List.mem_flatMap.mp hx
      have hin : x ∈ letters text := by
        have hsubset := (@Alphabet.subset_of_scan _ (alphabet u Prod.fst) (letters text)).1
        rw [← (parts_bearer hA (letters text) []).1] at hsubset
        exact hsubset hx
      exact h t ht x hxt ((hplace hin).mpr hspared)
    · intro h t ht x hxt hleft
      have hx := List.mem_flatMap.mpr ⟨t, ht, hxt⟩
      have hin : x ∈ letters text := by
        have hsubset := (@Alphabet.subset_of_scan _ (alphabet u Prod.fst) (letters text)).1
        rw [← (parts_bearer hA (letters text) []).1] at hsubset
        exact hsubset hx
      exact h hx ((hplace hin).mp hleft)
  unfold Redacted secretPatterns
  rw [List.forall_mem_cons, List.forall_mem_singleton, and_iff_right hassigned, hvalues,
    Alphabet.disjoint_left_iff hA hcuts hnodup]
  simp only [List.forall_mem_map, ← Alphabet.endsInBearer_comap, ← Alphabet.paired_comap]
  rfl

/-! ### Samples -/

theorem fold_asciiTables (c : Char) (h : asciiTables.space c = true) : asciiTables.fold c = c := by
  have hspace : c = ' ' ∨ (9 ≤ c.toNat ∧ c.toNat ≤ 13) ∨ 28 ≤ c.toNat ∧ c.toNat ≤ 31 := by
    simpa [asciiTables, isAsciiSpace, or_assoc] using h
  show c.toLower = c
  rcases hspace with rfl | hcode
  · decide
  · unfold Char.toLower
    refine dif_neg fun hupper => ?_
    have hle : 65 ≤ c.val.toNat := UInt32.le_iff_toNat_le.mp hupper.1
    have hcode' : (9 ≤ c.val.toNat ∧ c.val.toNat ≤ 13) ∨ 28 ≤ c.val.toNat ∧ c.val.toNat ≤ 31 :=
      hcode
    omega

theorem redacted_password : Redacted asciiTables "password=hunter2, Bearer abc" := by
  refine (redacted_iff asciiTables ascii_asciiTables fold_asciiTables _).mpr ?_
  have hplain : ∀ p ∈ (pieces (parts (assignmentRegex asciiTables) []
      "password=hunter2, Bearer abc".toList)).2,
      ¬ "bearer".toList <:+ p.1.map Char.toLower := by
    decide +kernel
  exact fun p hp hend => absurd hend (hplain p hp)

/-- Behind a name for the token the scheme is taken for its value, and the token is left. -/
theorem bearer_token_left : ¬ Redacted asciiTables "token: bearer abc123" := by
  unfold Redacted
  decide +kernel

end BlueTeam.Gateway.Redact
