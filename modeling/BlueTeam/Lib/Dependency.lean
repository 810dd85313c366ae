/- GID: BlueTeam/Lib/Dependency
   generality: G
   digest: The nodes of a dependency relation that can ever be completed. -/

import Mathlib.Data.Set.Finite.Basic
import Mathlib.Logic.Relation
import Mathlib.Order.WellFounded
import Mathlib.Order.RelIso.Basic
import Mathlib.Data.Fintype.Card

set_option autoImplicit false
set_option relaxedAutoImplicit false

namespace BlueTeam.Lib.Dependency

open Relation

variable {α : Type*} {deps : α → α → Prop} {ok ok' : α → Prop}

/-- A node can be completed when it is admissible and all it depends on can be completed. -/
inductive Enabled (deps : α → α → Prop) (ok : α → Prop) : α → Prop
  | intro {a : α} : ok a → (∀ d, deps a d → Enabled deps ok d) → Enabled deps ok a

theorem Enabled.admissible {a : α} (h : Enabled deps ok a) : ok a := by
  cases h with
  | intro ha _ => exact ha

theorem Enabled.dependency {a d : α} (h : Enabled deps ok a) (had : deps a d) :
    Enabled deps ok d := by
  cases h with
  | intro _ hd => exact hd d had

theorem Enabled.mono {a : α} (h : Enabled deps ok a) (imp : ∀ b, ok b → ok' b) :
    Enabled deps ok' a := by
  induction h with
  | intro ha _ ih => exact .intro (imp _ ha) ih

theorem Enabled.reaches {a b : α} (h : Enabled deps ok a) (hab : ReflTransGen deps a b) :
    Enabled deps ok b := by
  induction hab with
  | refl => exact h
  | tail _ hbc ih => exact ih.dependency hbc

/-- Completable nodes lie on no dependency cycle. -/
theorem Enabled.acyclic {a : α} (h : Enabled deps ok a) : ¬ TransGen deps a a := by
  induction h with
  | @intro a _ _ ih =>
      intro cycle
      obtain ⟨d, had, hda⟩ := TransGen.head'_iff.mp cycle
      exact ih d had (TransGen.tail' hda had)

/-- A node from which an inadmissible node or a cycle is reachable is never completable. -/
theorem not_enabled_of_stuck {a b : α} (hab : ReflTransGen deps a b)
    (stuck : ¬ ok b ∨ TransGen deps b b) : ¬ Enabled deps ok a := by
  intro h
  rcases stuck with hb | cycle
  · exact hb (h.reaches hab).admissible
  · exact (h.reaches hab).acyclic cycle

/-- Completable nodes belong to every set that is closed under completion. -/
theorem Enabled.subset_of_closed {S : α → Prop} {a : α} (h : Enabled deps ok a)
    (closed : ∀ b, ok b → (∀ d, deps b d → S d) → S b) : S a := by
  induction h with
  | intro ha _ ih => exact closed _ ha ih

section Finite

variable {S : Set α}

/-- Induction along the dependencies of a finite acyclic set of nodes. -/
theorem induction_of_acyclic (finite : S.Finite) (closed : ∀ a ∈ S, ∀ d, deps a d → d ∈ S)
    (acyclic : ∀ a ∈ S, ¬ TransGen deps a a) {P : α → Prop}
    (step : ∀ a ∈ S, (∀ d, deps a d → P d) → P a) {a : α} (ha : a ∈ S) : P a := by
  have : Finite S := finite
  let below : S → S → Prop := fun x y => TransGen deps y.1 x.1
  have : IsTrans S below := ⟨fun _ _ _ hxy hyz => hyz.trans hxy⟩
  have : Std.Irrefl below := ⟨fun x => acyclic x.1 x.2⟩
  have wf : WellFounded below := Finite.wellFounded_of_trans_of_irrefl below
  suffices h : ∀ x : S, P x.1 from h ⟨a, ha⟩
  intro x
  induction x using wf.induction with
  | h x ih => exact step x.1 x.2 fun d hd => ih ⟨d, closed x.1 x.2 d hd⟩ (.single hd)

/-- In a finite acyclic set, admissibility of all that a node leads to is enough. -/
theorem enabled_of_acyclic (finite : S.Finite) (closed : ∀ a ∈ S, ∀ d, deps a d → d ∈ S)
    (acyclic : ∀ a ∈ S, ¬ TransGen deps a a) {a : α} (ha : a ∈ S)
    (admissible : ∀ b, ReflTransGen deps a b → ok b) : Enabled deps ok a := by
  refine induction_of_acyclic (P := fun a => (∀ b, ReflTransGen deps a b → ok b) →
    Enabled deps ok a) finite closed acyclic ?_ ha admissible
  intro a _ ih hok
  exact .intro (hok a .refl) fun d hd => ih d hd fun b hb => hok b (.head hd hb)

end Finite

end BlueTeam.Lib.Dependency
