/- GID: BlueTeam/Lib/Chains
   generality: G
   digest: Chains of steps through a list in the order of time, and the search that takes first matches. -/

import BlueTeam.Lib.Exec
import Mathlib.Data.List.Chain
import Mathlib.Data.List.Forall2

set_option autoImplicit false
set_option relaxedAutoImplicit false

namespace BlueTeam.Lib

section

variable {α σ : Type}

/-- Elements that satisfy the steps one after the other, in the order of the list, each of them close
to the one before. -/
structure StepChain (sat : σ → α → Prop) (close : α → α → Bool) (steps : List σ) (as chain : List α) :
    Prop where
  sublist : chain.Sublist as
  sat : List.Forall₂ sat steps chain
  close : chain.IsChain fun a b => close a b = true

/-- The first match of each step, each after the match of the step before. -/
inductive Earliest (sat : σ → α → Prop) : List σ → List α → List α → Prop
  | nil (as : List α) : Earliest sat [] as []
  | cons {step : σ} {steps : List σ} {skipped : List α} {a : α} {rest chain : List α}
      (hskipped : ∀ x ∈ skipped, ¬ sat step x) (ha : sat step a)
      (h : Earliest sat steps rest chain) :
      Earliest sat (step :: steps) (skipped ++ a :: rest) (a :: chain)

/-- A chain that starts somewhere in the list and goes on with first matches. -/
structure Leads (sat : σ → α → Prop) (close : α → α → Bool) (first : σ) (more : List σ)
    (as chain : List α) : Prop where
  split : ∃ before start rest matched, as = before ++ start :: rest ∧ chain = start :: matched ∧
    sat first start ∧ Earliest sat more rest matched
  close : chain.IsChain fun a b => close a b = true

variable {sat : σ → α → Prop} {close close' : α → α → Bool} {first : σ} {steps more : List σ}
  {as chain : List α}

theorem Earliest.sublist (h : Earliest sat steps as chain) : chain.Sublist as := by
  induction h with
  | nil as => exact List.nil_sublist as
  | @cons step steps skipped a rest chain _ _ _ ih =>
      exact (ih.cons_cons a).trans (List.sublist_append_right skipped _)

theorem Earliest.forall₂ (h : Earliest sat steps as chain) : List.Forall₂ sat steps chain := by
  induction h with
  | nil as => exact .nil
  | cons _ ha _ ih => exact .cons ha ih

theorem Leads.stepChain (h : Leads sat close first more as chain) :
    StepChain sat close (first :: more) as chain := by
  obtain ⟨before, start, rest, matched, rfl, rfl, hstart, hmatched⟩ := h.split
  refine ⟨?_, .cons hstart hmatched.forall₂, h.close⟩
  exact (hmatched.sublist.cons_cons start).trans (List.sublist_append_right before _)

/-- A wider notion of closeness keeps the chains of first matches. -/
theorem Leads.widen (h : Leads sat close first more as chain)
    (hwiden : ∀ a b, close a b = true → close' a b = true) :
    Leads sat close' first more as chain where
  split := h.split
  close := h.close.imp hwiden

/-- What holds somewhere in a list holds somewhere first. -/
theorem exists_first {p : α → Prop} (h : ∃ b ∈ as, p b) :
    ∃ skipped a rest, as = skipped ++ a :: rest ∧ (∀ x ∈ skipped, ¬ p x) ∧ p a := by
  induction as with
  | nil =>
      obtain ⟨b, hb, -⟩ := h
      cases hb
  | cons c as ih =>
      by_cases hc : p c
      · exact ⟨[], c, as, rfl, by simp, hc⟩
      · have hlater : ∃ b ∈ as, p b := by
          obtain ⟨b, hb, hp⟩ := h
          rcases List.mem_cons.mp hb with rfl | hb
          · exact absurd hp hc
          · exact ⟨b, hb, hp⟩
        obtain ⟨skipped, a, rest, rfl, hskipped, ha⟩ := ih hlater
        refine ⟨c :: skipped, a, rest, rfl, ?_, ha⟩
        intro x hx
        rcases List.mem_cons.mp hx with rfl | hx
        · exact hc
        · exact hskipped x hx

theorem first_unique {p : α → Prop} {skipped skipped' rest rest' : List α} {a b : α}
    (hsplit : skipped ++ a :: rest = skipped' ++ b :: rest') (hskipped : ∀ x ∈ skipped, ¬ p x)
    (ha : p a) (hskipped' : ∀ x ∈ skipped', ¬ p x) (hb : p b) :
    skipped = skipped' ∧ a = b ∧ rest = rest' := by
  induction skipped generalizing skipped' with
  | nil =>
      cases skipped' with
      | nil => simpa using hsplit
      | cons y skipped' =>
          obtain ⟨rfl, -⟩ := List.cons.inj hsplit
          exact absurd ha (hskipped' a List.mem_cons_self)
  | cons x skipped ih =>
      cases skipped' with
      | nil =>
          obtain ⟨rfl, -⟩ := List.cons.inj hsplit
          exact absurd hb (hskipped x List.mem_cons_self)
      | cons y skipped' =>
          obtain ⟨rfl, htail⟩ := List.cons.inj hsplit
          obtain ⟨rfl, hab, hrest⟩ := ih htail
            (fun z hz => hskipped z (List.mem_cons_of_mem x hz))
            (fun z hz => hskipped' z (List.mem_cons_of_mem x hz))
          exact ⟨rfl, hab, hrest⟩

theorem Earliest.unique {chain' : List α} (h : Earliest sat steps as chain)
    (h' : Earliest sat steps as chain') : chain = chain' := by
  induction h generalizing chain' with
  | nil as =>
      cases h'
      rfl
  | @cons step steps skipped a rest chain hskipped ha _ ih =>
      generalize hsplit : skipped ++ a :: rest = as at h'
      cases h' with
      | @cons _ _ skipped' b rest' chain' hskipped' hb h' =>
          obtain ⟨-, rfl, rfl⟩ := first_unique hsplit hskipped ha hskipped' hb
          rw [ih h']

/-- Where there are matches there are first ones, and they come no later. -/
theorem exists_earliest {le : α → α → Prop} (hrefl : ∀ a, le a a) (hsorted : as.Pairwise le)
    (hsub : chain.Sublist as) (hsat : List.Forall₂ sat steps chain) :
    ∃ found, Earliest sat steps as found ∧ List.Forall₂ le found chain := by
  induction hsat generalizing as with
  | nil => exact ⟨[], .nil as, .nil⟩
  | @cons step b steps chain hb _ ih =>
      obtain ⟨skipped, a, rest, rfl, hskipped, ha⟩ :=
        exists_first ⟨b, hsub.subset List.mem_cons_self, hb⟩
      have hrest : (b :: chain).Sublist (a :: rest) := by
        obtain ⟨l, l', hsplit, hl, hl'⟩ := List.sublist_append_iff.mp hsub
        cases l with
        | nil =>
            rw [hsplit]
            exact hl'
        | cons c l =>
            obtain ⟨rfl, -⟩ := List.cons.inj hsplit
            exact absurd hb (hskipped b (hl.subset List.mem_cons_self))
      have hsuffix := (List.pairwise_append.mp hsorted).2.1
      rw [List.pairwise_cons] at hsuffix
      rcases List.cons_sublist_cons'.mp hrest with hlater | ⟨rfl, htail⟩
      · obtain ⟨found, hfound, hle⟩ := ih hsuffix.2 ((List.sublist_cons_self b chain).trans hlater)
        exact ⟨a :: found, .cons hskipped ha hfound,
          .cons (hsuffix.1 b (hlater.subset List.mem_cons_self)) hle⟩
      · obtain ⟨found, hfound, hle⟩ := ih hsuffix.2 htail
        exact ⟨b :: found, .cons hskipped hb hfound, .cons (hrefl b) hle⟩

end

/-! ### The search -/

section

variable {α σ ε : Type} (ask : σ → α → Except ε Bool) (close : α → α → Bool)

/-- The next element that satisfies the step, with those after it. An element that is not close to
`prev` any more ends the search. -/
def nextMatch (step : σ) (prev : α) : List α → Except ε (Option (α × List α))
  | [] => .ok none
  | a :: rest =>
      if close prev a then do
        let found ← ask step a
        if found then pure (some (a, rest)) else nextMatch step prev rest
      else .ok none

/-- Matches of the steps, one after the other. -/
def matchAll : List σ → α → List α → Except ε (Option (List α))
  | [], _, _ => .ok (some [])
  | step :: steps, prev, as => do
      match ← nextMatch ask close step prev as with
      | none => pure none
      | some (a, rest) => do
          let chain ← matchAll steps a rest
          pure (chain.map (a :: ·))

def chainAt (first : σ) (more : List σ) (start : α) (rest : List α) :
    Except ε (Option (List α)) := do
  let starts ← ask first start
  if starts then do
    let chain ← matchAll ask close more start rest
    pure (chain.map (start :: ·))
  else pure none

/-- The elements of all chains, by the element each starts from. -/
def allChains (first : σ) (more : List σ) : List α → Except ε (List α)
  | [] => .ok []
  | start :: rest => do
      let chain ← chainAt ask close first more start rest
      let others ← allChains first more rest
      pure (chain.getD [] ++ others)

/-- The question whether an element satisfies a step has no answer. -/
def Fails (step : σ) (a : α) : Prop :=
  ∃ e, ask step a = .error e

/-- A search for matches asks a question that is `bad`. -/
inductive Breaks (bad : σ → α → Prop) : List σ → α → List α → Prop
  | here {step : σ} {steps : List σ} {prev a : α} {skipped rest : List α}
      (hskipped : ∀ x ∈ skipped, ask step x = .ok false) (hclose : close prev a = true)
      (h : bad step a) : Breaks bad (step :: steps) prev (skipped ++ a :: rest)
  | later {step : σ} {steps : List σ} {prev a : α} {skipped rest : List α}
      (hskipped : ∀ x ∈ skipped, ask step x = .ok false) (hclose : close prev a = true)
      (ha : ask step a = .ok true) (h : Breaks bad steps a rest) :
      Breaks bad (step :: steps) prev (skipped ++ a :: rest)

def BreaksAt (bad : σ → α → Prop) (first : σ) (more : List σ) (start : α) (rest : List α) : Prop :=
  bad first start ∨ (ask first start = .ok true ∧ Breaks ask close bad more start rest)

/-- No question that the search asks fails. -/
def Quiet (first : σ) (more : List σ) (as : List α) : Prop :=
  ∀ before start rest, as = before ++ start :: rest →
    ¬ BreaksAt ask close (Fails ask) first more start rest

/-- A question that the search asks before any other has failed is `bad`. -/
def Raises (bad : σ → α → Prop) (first : σ) (more : List σ) (as : List α) : Prop :=
  ∃ before start rest, as = before ++ start :: rest ∧ BreaksAt ask close bad first more start rest ∧
    ∀ pre x post, before = pre ++ x :: post →
      ¬ BreaksAt ask close (Fails ask) first more x (post ++ start :: rest)

/-- The elements that are close come first. -/
def Sorted (as : List α) : Prop :=
  ∀ prev, as.Pairwise fun a b => close prev b = true → close prev a = true

end

/-- What a step is satisfied by. -/
def Answers {α σ ε : Type} (ask : σ → α → Except ε Bool) (step : σ) (a : α) : Prop :=
  ask step a = .ok true

instance {α σ ε : Type} [DecidableEq ε] (ask : σ → α → Except ε Bool) (step : σ) (a : α) :
    Decidable (Answers ask step a) :=
  inferInstanceAs (Decidable (_ = _))

section

variable {α σ ε : Type} {ask : σ → α → Except ε Bool} {close : α → α → Bool} {step first : σ}
  {steps more : List σ} {prev start a : α} {as rest chain : List α} {e : ε}
  {bad : σ → α → Prop}

theorem Sorted.suffix (skipped : List α) (h : Sorted close (skipped ++ as)) : Sorted close as :=
  fun prev => (List.pairwise_append.mp (h prev)).2.1

theorem Sorted.tail (h : Sorted close (a :: as)) : Sorted close as :=
  h.suffix [a]

theorem Sorted.close_skipped {skipped : List α} (h : Sorted close (skipped ++ a :: rest))
    (ha : close prev a = true) : ∀ x ∈ skipped, close prev x = true :=
  fun x hx => (List.pairwise_append.mp (h prev)).2.2 x hx a List.mem_cons_self ha

theorem nextMatch_skip {skipped : List α}
    (h : ∀ x ∈ skipped, close prev x = true ∧ ask step x = .ok false) (as : List α) :
    nextMatch ask close step prev (skipped ++ as) = nextMatch ask close step prev as := by
  induction skipped with
  | nil => rfl
  | cons x skipped ih =>
      obtain ⟨hclose, hask⟩ := h x List.mem_cons_self
      have htail := ih fun y hy => h y (List.mem_cons_of_mem x hy)
      rw [List.cons_append, nextMatch, if_pos hclose, hask]
      exact htail

theorem nextMatch_some (h : nextMatch ask close step prev as = .ok (some (a, rest))) :
    ∃ skipped, as = skipped ++ a :: rest ∧ (∀ x ∈ skipped, ask step x = .ok false) ∧
      ask step a = .ok true ∧ close prev a = true := by
  induction as with
  | nil => cases h
  | cons x as ih =>
      rw [nextMatch] at h
      split at h
      · rename_i hclose
        obtain ⟨found, hask, h⟩ := except_of_bind h
        cases found with
        | true =>
            obtain ⟨rfl, rfl⟩ := Prod.mk.inj (Option.some.inj (Except.ok.inj h))
            exact ⟨[], rfl, by simp, hask, hclose⟩
        | false =>
            obtain ⟨skipped, rfl, hskipped, ha, hclose'⟩ := ih h
            refine ⟨x :: skipped, rfl, ?_, ha, hclose'⟩
            intro y hy
            rcases List.mem_cons.mp hy with rfl | hy
            · exact hask
            · exact hskipped y hy
      · cases h

/-- A search that finds nothing has passed no match that is close. -/
theorem nextMatch_none (hs : Sorted close as) (h : nextMatch ask close step prev as = .ok none)
    {skipped : List α} (hsplit : as = skipped ++ a :: rest)
    (hskipped : ∀ x ∈ skipped, ¬ Answers ask step x) (ha : Answers ask step a) :
    close prev a = false := by
  induction skipped generalizing as with
  | nil =>
      subst hsplit
      rw [List.nil_append, nextMatch] at h
      split at h
      · rw [show ask step a = .ok true from ha] at h
        cases h
      · rename_i hclose
        exact Bool.eq_false_iff.mpr hclose
  | cons x skipped ih =>
      subst hsplit
      rw [List.cons_append, nextMatch] at h
      split at h
      · obtain ⟨found, hask, h⟩ := except_of_bind h
        cases found with
        | true => exact absurd hask (hskipped x List.mem_cons_self)
        | false =>
            exact ih (hs.suffix [x]) h rfl
              fun y hy => hskipped y (List.mem_cons_of_mem x hy)
      · rename_i hclose
        refine Bool.eq_false_iff.mpr fun hclose' => hclose ?_
        exact hs.close_skipped hclose' x List.mem_cons_self

theorem nextMatch_error (h : nextMatch ask close step prev as = .error e) :
    ∃ skipped a rest, as = skipped ++ a :: rest ∧ (∀ x ∈ skipped, ask step x = .ok false) ∧
      ask step a = .error e ∧ close prev a = true := by
  induction as with
  | nil => cases h
  | cons x as ih =>
      rw [nextMatch] at h
      split at h
      · rename_i hclose
        rcases except_error_of_bind h with hask | ⟨found, hask, h⟩
        · exact ⟨[], x, as, rfl, by simp, hask, hclose⟩
        · cases found with
          | true => cases h
          | false =>
              obtain ⟨skipped, a, rest, rfl, hskipped, ha, hclose'⟩ := ih h
              refine ⟨x :: skipped, a, rest, rfl, ?_, ha, hclose'⟩
              intro y hy
              rcases List.mem_cons.mp hy with rfl | hy
              · exact hask
              · exact hskipped y hy
      · cases h

theorem matchAll_some (h : matchAll ask close steps prev as = .ok (some chain)) :
    Earliest (Answers ask) steps as chain ∧ (prev :: chain).IsChain fun a b => close a b = true := by
  induction steps generalizing prev as chain with
  | nil =>
      obtain rfl := Option.some.inj (Except.ok.inj h)
      exact ⟨.nil as, List.isChain_singleton _⟩
  | cons step steps ih =>
      rw [matchAll] at h
      obtain ⟨found, hfound, h⟩ := except_of_bind h
      rcases found with _ | ⟨a, rest⟩
      · cases h
      · obtain ⟨later, hlater, h⟩ := except_of_bind h
        obtain ⟨matched, rfl, rfl⟩ := Option.map_eq_some_iff.mp (Except.ok.inj h)
        obtain ⟨skipped, rfl, hskipped, ha, hclose⟩ := nextMatch_some hfound
        obtain ⟨hearliest, hchain⟩ := ih hlater
        refine ⟨.cons ?_ ha hearliest, hchain.cons_cons hclose⟩
        intro x hx hanswer
        rw [Answers, hskipped x hx] at hanswer
        cases hanswer

theorem matchAll_none (hs : Sorted close as) (h : matchAll ask close steps prev as = .ok none)
    (hearliest : Earliest (Answers ask) steps as chain) :
    ¬ (prev :: chain).IsChain fun a b => close a b = true := by
  induction steps generalizing prev as chain with
  | nil => cases h
  | cons step steps ih =>
      cases hearliest with
      | @cons _ _ skipped a rest chain hskipped ha hearliest =>
          intro hchain
          rw [List.isChain_cons_cons] at hchain
          rw [matchAll] at h
          obtain ⟨found, hfound, h⟩ := except_of_bind h
          rcases found with _ | ⟨b, rest'⟩
          · have hclose := nextMatch_none hs hfound rfl hskipped ha
            rw [hclose] at hchain
            exact Bool.false_ne_true hchain.1
          · obtain ⟨later, hlater, h⟩ := except_of_bind h
            have hnone : later = none := Option.map_eq_none_iff.mp (Except.ok.inj h)
            obtain ⟨skipped', hsplit, hskipped', hb, -⟩ := nextMatch_some hfound
            obtain ⟨-, rfl, rfl⟩ := first_unique hsplit hskipped ha (fun x hx hanswer => by
              rw [Answers, hskipped' x hx] at hanswer
              cases hanswer) hb
            rw [hnone] at hlater
            exact ih (hs.suffix skipped).tail hlater hearliest hchain.2

theorem matchAll_error (h : matchAll ask close steps prev as = .error e) :
    Breaks ask close (fun step a => ask step a = .error e) steps prev as := by
  induction steps generalizing prev as with
  | nil => cases h
  | cons step steps ih =>
      rcases except_error_of_bind h with hfind | ⟨found, hfound, hrest⟩
      · obtain ⟨skipped, a, rest, rfl, hskipped, ha, hclose⟩ := nextMatch_error hfind
        exact .here hskipped hclose ha
      · rcases found with _ | ⟨a, rest⟩
        · cases hrest
        · obtain ⟨skipped, rfl, hskipped, ha, hclose⟩ := nextMatch_some hfound
          rcases except_error_of_bind hrest with hlater | ⟨later, -, hlater⟩
          · exact .later hskipped hclose ha (ih hlater)
          · cases hlater

theorem Breaks.matchAll_error (hs : Sorted close as)
    (h : Breaks ask close (fun step a => ask step a = .error e) steps prev as) :
    matchAll ask close steps prev as = .error e := by
  induction h with
  | @here step steps prev a skipped rest hskipped hclose h =>
      have hskip : nextMatch ask close step prev (skipped ++ a :: rest) = _ :=
        nextMatch_skip (fun x hx => ⟨hs.close_skipped hclose x hx, hskipped x hx⟩) (a :: rest)
      rw [matchAll, hskip, nextMatch, if_pos hclose, h]
      rfl
  | @later step steps prev a skipped rest hskipped hclose ha _ ih =>
      have hskip : nextMatch ask close step prev (skipped ++ a :: rest) = _ :=
        nextMatch_skip (fun x hx => ⟨hs.close_skipped hclose x hx, hskipped x hx⟩) (a :: rest)
      have hrest := ih (hs.suffix skipped).tail
      rw [matchAll, hskip, nextMatch, if_pos hclose, ha]
      show (matchAll ask close steps a rest >>= _) = _
      rw [hrest]
      rfl

theorem chainAt_error_iff (hs : Sorted close rest) :
    chainAt ask close first more start rest = .error e ↔
      BreaksAt ask close (fun step a => ask step a = .error e) first more start rest := by
  constructor
  · intro h
    rcases except_error_of_bind h with hfirst | ⟨starts, hstarts, h⟩
    · exact .inl hfirst
    · cases starts with
      | false => cases h
      | true =>
          rcases except_error_of_bind h with hmore | ⟨later, -, h⟩
          · exact .inr ⟨hstarts, BlueTeam.Lib.matchAll_error hmore⟩
          · cases h
  · rintro (hfirst | ⟨hstarts, hmore⟩)
    · rw [chainAt, hfirst]
      rfl
    · rw [chainAt, hstarts]
      show (matchAll ask close more start rest >>= _) = _
      rw [hmore.matchAll_error hs]
      rfl

theorem Breaks.imp {bad bad' : σ → α → Prop} (h : Breaks ask close bad steps prev as)
    (hbad : ∀ step a, bad step a → bad' step a) : Breaks ask close bad' steps prev as := by
  induction h with
  | here hskipped hclose h => exact .here hskipped hclose (hbad _ _ h)
  | later hskipped hclose ha _ ih => exact .later hskipped hclose ha ih

theorem Breaks.exists_bad (h : Breaks ask close bad steps prev as) : ∃ step a, bad step a := by
  induction h with
  | here _ _ h => exact ⟨_, _, h⟩
  | later _ _ _ _ ih => exact ih

theorem Raises.exists_bad (h : Raises ask close bad first more as) : ∃ step a, bad step a := by
  obtain ⟨before, start, rest, -, hbreaks, -⟩ := h
  rcases hbreaks with hstart | ⟨-, hmore⟩
  · exact ⟨_, _, hstart⟩
  · exact hmore.exists_bad

theorem breaks_fails_iff :
    Breaks ask close (Fails ask) steps prev as ↔
      ∃ e, Breaks ask close (fun step a => ask step a = .error e) steps prev as := by
  constructor
  · intro h
    induction h with
    | here hskipped hclose h =>
        obtain ⟨e, h⟩ := h
        exact ⟨e, .here hskipped hclose h⟩
    | later hskipped hclose ha _ ih =>
        obtain ⟨e, h⟩ := ih
        exact ⟨e, .later hskipped hclose ha h⟩
  · rintro ⟨e, h⟩
    exact h.imp fun step a h => ⟨e, h⟩

theorem chainAt_fails_iff (hs : Sorted close rest) :
    (∃ e, chainAt ask close first more start rest = .error e) ↔
      BreaksAt ask close (Fails ask) first more start rest := by
  simp only [chainAt_error_iff hs, BreaksAt, Fails, exists_or, exists_and_left, breaks_fails_iff]

theorem chainAt_some (h : chainAt ask close first more start rest = .ok (some chain)) :
    ∃ matched, chain = start :: matched ∧ Answers ask first start ∧
      Earliest (Answers ask) more rest matched ∧
      chain.IsChain fun a b => close a b = true := by
  obtain ⟨starts, hstarts, h⟩ := except_of_bind h
  cases starts with
  | false => cases h
  | true =>
      obtain ⟨later, hlater, h⟩ := except_of_bind h
      obtain ⟨matched, rfl, rfl⟩ := Option.map_eq_some_iff.mp (Except.ok.inj h)
      obtain ⟨hearliest, hchain⟩ := matchAll_some hlater
      exact ⟨matched, rfl, hstarts, hearliest, hchain⟩

theorem chainAt_none (hs : Sorted close rest)
    (h : chainAt ask close first more start rest = .ok none) (hstart : Answers ask first start)
    {matched : List α} (hmatched : Earliest (Answers ask) more rest matched) :
    ¬ (start :: matched).IsChain fun a b => close a b = true := by
  obtain ⟨starts, hstarts, h⟩ := except_of_bind h
  cases starts with
  | false =>
      rw [Answers, hstarts] at hstart
      cases hstart
  | true =>
      obtain ⟨later, hlater, h⟩ := except_of_bind h
      have hnone : later = none := Option.map_eq_none_iff.mp (Except.ok.inj h)
      rw [hnone] at hlater
      exact matchAll_none hs hlater hmatched

/-! ### The whole list -/

theorem leads_cons {sat : σ → α → Prop} :
    Leads sat close first more (a :: as) chain ↔
      (∃ matched, chain = a :: matched ∧ sat first a ∧ Earliest sat more as matched ∧
        chain.IsChain fun x y => close x y = true) ∨
      Leads sat close first more as chain := by
  constructor
  · rintro ⟨⟨before, start, rest, matched, hsplit, hchain, hstart, hmatched⟩, hclose⟩
    cases before with
    | nil =>
        obtain ⟨rfl, rfl⟩ := List.cons.inj hsplit
        exact .inl ⟨matched, hchain, hstart, hmatched, hclose⟩
    | cons x before =>
        obtain ⟨rfl, rfl⟩ := List.cons.inj hsplit
        exact .inr ⟨⟨before, start, rest, matched, rfl, hchain, hstart, hmatched⟩, hclose⟩
  · rintro (⟨matched, hchain, hstart, hmatched, hclose⟩ |
      ⟨⟨before, start, rest, matched, rfl, hchain, hstart, hmatched⟩, hclose⟩)
    · exact ⟨⟨[], a, as, matched, rfl, hchain, hstart, hmatched⟩, hclose⟩
    · exact ⟨⟨a :: before, start, rest, matched, rfl, hchain, hstart, hmatched⟩, hclose⟩

theorem not_leads_nil {sat : σ → α → Prop} : ¬ Leads sat close first more [] chain := by
  rintro ⟨⟨before, start, rest, matched, hsplit, -⟩, -⟩
  cases before <;> cases hsplit

/-- The search returns the elements of the chains of first matches. -/
theorem mem_allChains_iff (hs : Sorted close as) {hits : List α}
    (h : allChains ask close first more as = .ok hits) {x : α} :
    x ∈ hits ↔ ∃ chain, Leads (Answers ask) close first more as chain ∧ x ∈ chain := by
  induction as generalizing hits with
  | nil =>
      obtain rfl := Except.ok.inj h
      constructor
      · intro hx
        cases hx
      · rintro ⟨chain, hleads, -⟩
        exact absurd hleads not_leads_nil
  | cons a as ih =>
      obtain ⟨found, hfound, hrest⟩ := except_of_bind h
      obtain ⟨others, hothers, hhits⟩ := except_of_bind hrest
      obtain rfl := Except.ok.inj hhits
      have htail := ih hs.tail hothers
      rw [List.mem_append, htail]
      constructor
      · rintro (hx | ⟨chain, hleads, hx⟩)
        · cases found with
          | none => cases hx
          | some chain => exact ⟨chain, leads_cons.mpr (.inl (chainAt_some hfound)), hx⟩
        · exact ⟨chain, leads_cons.mpr (.inr hleads), hx⟩
      · rintro ⟨chain, hleads, hx⟩
        rcases leads_cons.mp hleads with ⟨matched, rfl, hstart, hmatched, hclose⟩ | hleads
        · cases found with
          | none => exact absurd hclose (chainAt_none hs.tail hfound hstart hmatched)
          | some chain =>
              obtain ⟨matched', rfl, -, hmatched', -⟩ := chainAt_some hfound
              obtain rfl := hmatched.unique hmatched'
              exact .inl hx
        · exact .inr ⟨chain, hleads, hx⟩

theorem raises_cons :
    Raises ask close bad first more (a :: as) ↔
      BreaksAt ask close bad first more a as ∨
        ¬ BreaksAt ask close (Fails ask) first more a as ∧ Raises ask close bad first more as := by
  constructor
  · rintro ⟨before, start, rest, hsplit, hbreaks, hquiet⟩
    cases before with
    | nil =>
        obtain ⟨rfl, rfl⟩ := List.cons.inj hsplit
        exact .inl hbreaks
    | cons x before =>
        obtain ⟨rfl, rfl⟩ := List.cons.inj hsplit
        refine .inr ⟨hquiet [] a before rfl, before, start, rest, rfl, hbreaks, ?_⟩
        intro pre x post hpre
        exact hquiet (a :: pre) x post (by rw [hpre, List.cons_append])
  · rintro (hbreaks | ⟨ha, before, start, rest, rfl, hbreaks, hquiet⟩)
    · refine ⟨[], a, as, rfl, hbreaks, ?_⟩
      intro pre x post hpre
      cases pre <;> cases hpre
    · refine ⟨a :: before, start, rest, rfl, hbreaks, ?_⟩
      intro pre x post hpre
      cases pre with
      | nil =>
          obtain ⟨rfl, rfl⟩ := List.cons.inj hpre
          exact ha
      | cons y pre =>
          obtain ⟨rfl, rfl⟩ := List.cons.inj hpre
          exact hquiet pre x post rfl

theorem not_raises_nil : ¬ Raises ask close bad first more [] := by
  rintro ⟨before, start, rest, hsplit, -⟩
  cases before <;> cases hsplit

theorem quiet_cons :
    Quiet ask close first more (a :: as) ↔
      ¬ BreaksAt ask close (Fails ask) first more a as ∧ Quiet ask close first more as := by
  constructor
  · intro h
    refine ⟨h [] a as rfl, ?_⟩
    intro before start rest hsplit
    exact h (a :: before) start rest (by rw [hsplit, List.cons_append])
  · rintro ⟨ha, h⟩ before start rest hsplit
    cases before with
    | nil =>
        obtain ⟨rfl, rfl⟩ := List.cons.inj hsplit
        exact ha
    | cons x before =>
        obtain ⟨rfl, rfl⟩ := List.cons.inj hsplit
        exact h before start rest rfl

theorem allChains_error_iff (hs : Sorted close as) :
    allChains ask close first more as = .error e ↔
      Raises ask close (fun step a => ask step a = .error e) first more as := by
  induction as with
  | nil =>
      constructor
      · intro h
        cases h
      · intro h
        exact absurd h not_raises_nil
  | cons a as ih =>
      have htail := ih hs.tail
      have hhead : chainAt ask close first more a as = .error e ↔ _ := chainAt_error_iff hs.tail
      rw [raises_cons, ← chainAt_fails_iff hs.tail, ← hhead]
      constructor
      · intro h
        rcases except_error_of_bind h with hfound | ⟨found, hfound, hrest⟩
        · exact .inl hfound
        · rcases except_error_of_bind hrest with hothers | ⟨others, -, hhits⟩
          · refine .inr ⟨?_, htail.mp hothers⟩
            rintro ⟨e', hfails⟩
            rw [hfails] at hfound
            cases hfound
          · cases hhits
      · rintro (hfound | ⟨hquiet, hraises⟩)
        · rw [allChains, hfound]
          rfl
        · cases hfound : chainAt ask close first more a as with
          | error e' => exact absurd ⟨e', hfound⟩ hquiet
          | ok found =>
              rw [allChains, hfound, htail.mpr hraises]
              rfl

/-- The search returns exactly if no question that it asks raises. -/
theorem allChains_ok_iff (hs : Sorted close as) :
    (∃ hits, allChains ask close first more as = .ok hits) ↔ Quiet ask close first more as := by
  induction as with
  | nil =>
      constructor
      · rintro - before start rest hsplit
        cases before <;> cases hsplit
      · rintro -
        exact ⟨[], rfl⟩
  | cons a as ih =>
      have htail := ih hs.tail
      rw [quiet_cons, ← chainAt_fails_iff hs.tail]
      constructor
      · rintro ⟨hits, h⟩
        obtain ⟨found, hfound, hrest⟩ := except_of_bind h
        obtain ⟨others, hothers, -⟩ := except_of_bind hrest
        refine ⟨?_, htail.mp ⟨others, hothers⟩⟩
        rintro ⟨e, hfails⟩
        rw [hfails] at hfound
        cases hfound
      · rintro ⟨hquiet, hrest⟩
        obtain ⟨others, hothers⟩ := htail.mpr hrest
        cases hfound : chainAt ask close first more a as with
        | error e => exact absurd ⟨e, hfound⟩ hquiet
        | ok found =>
            refine ⟨found.getD [] ++ others, ?_⟩
            rw [allChains, hfound, hothers]
            rfl

end

end BlueTeam.Lib
