/- GID: BlueTeam/Lib/Trace
   generality: G
   digest: Properties of every event of a trace relative to what came before it. -/

import Mathlib.Data.List.Basic

set_option autoImplicit false
set_option relaxedAutoImplicit false

namespace BlueTeam.Lib.Trace

variable {ε : Type*} {good good' : List ε → ε → Prop}

/-- Every event of the trace is good after the events that precede it. -/
def Always (good : List ε → ε → Prop) (trace : List ε) : Prop :=
  ∀ pre e post, trace = pre ++ e :: post → good pre e

@[simp] theorem always_nil : Always good [] := by
  intro pre e post h
  simp at h

theorem always_append (l m : List ε) :
    Always good (l ++ m) ↔ Always good l ∧ Always (fun pre e => good (l ++ pre) e) m := by
  constructor
  · intro h
    refine ⟨?_, ?_⟩
    · rintro pre e post rfl
      exact h pre e (post ++ m) (by simp)
    · rintro pre e post rfl
      exact h (l ++ pre) e post (by simp)
  · rintro ⟨hl, hm⟩ pre e post h
    rcases List.append_eq_append_iff.mp h with ⟨mid, rfl, hmid⟩ | ⟨mid, rfl, hmid⟩
    · exact hm mid e post hmid
    · cases mid with
      | nil => simpa using hm [] e post (by simpa using hmid.symm)
      | cons x mid =>
          obtain ⟨rfl, -⟩ := List.cons_eq_cons.mp hmid
          exact hl pre e mid rfl

theorem always_singleton (e : ε) : Always good [e] ↔ good [] e := by
  constructor
  · intro h
    exact h [] e [] rfl
  · intro h pre x post hx
    rcases List.append_eq_singleton_iff.mp hx.symm with ⟨rfl, hc⟩ | ⟨-, hc⟩
    · obtain ⟨rfl, -⟩ := List.cons_eq_cons.mp hc
      exact h
    · simp at hc

theorem always_concat (l : List ε) (e : ε) :
    Always good (l ++ [e]) ↔ Always good l ∧ good l e := by
  rw [always_append, always_singleton, List.append_nil]

/-- A stable way to extend a trace: all new events are good already after the old ones. -/
theorem Always.append_of_stable {l m : List ε} (hl : Always good l)
    (stable : ∀ pre more e, good pre e → good (pre ++ more) e) (hm : ∀ e ∈ m, good l e) :
    Always good (l ++ m) := by
  rw [always_append]
  refine ⟨hl, ?_⟩
  rintro pre e post rfl
  exact stable l pre e (hm e (by simp))

theorem Always.imp {l : List ε} (h : Always good l) (imp : ∀ pre e, good pre e → good' pre e) :
    Always good' l :=
  fun pre e post hl => imp pre e (h pre e post hl)

theorem Always.mem {l : List ε} {P : ε → Prop} (h : Always (fun _ e => P e) l) {e : ε}
    (he : e ∈ l) : P e := by
  obtain ⟨pre, post, rfl⟩ := List.append_of_mem he
  exact h pre e post rfl

end BlueTeam.Lib.Trace
