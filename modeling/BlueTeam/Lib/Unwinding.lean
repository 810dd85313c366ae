/- GID: BlueTeam/Lib/Unwinding
   generality: G
   digest: What a machine answers to some of its callers, with and without the calls of the rest. -/

import BlueTeam.Lib.Trace
import Mathlib.Data.List.Induction

set_option autoImplicit false
set_option relaxedAutoImplicit false

namespace BlueTeam.Lib.Unwinding

open BlueTeam.Lib.Trace

variable {σ κ ρ : Type*} (step : σ → κ → ρ × σ)

/-- The calls with what the machine answers to each. -/
def answers : σ → List κ → List (κ × ρ)
  | _, [] => []
  | s, call :: calls => (call, (step s call).1) :: answers (step s call).2 calls

def after (s : σ) (calls : List κ) : σ :=
  calls.foldl (fun s call => (step s call).2) s

@[simp] theorem after_nil (s : σ) : after step s [] = s := rfl

theorem after_concat (s : σ) (calls : List κ) (call : κ) :
    after step s (calls ++ [call]) = (step (after step s calls) call).2 := by
  simp [after]

theorem answers_concat (s : σ) (calls : List κ) (call : κ) :
    answers step s (calls ++ [call]) =
      answers step s calls ++ [(call, (step (after step s calls) call).1)] := by
  induction calls generalizing s with
  | nil => rfl
  | cons first calls ih =>
      show (first, (step s first).1) :: answers step (step s first).2 (calls ++ [call]) = _
      rw [ih]
      rfl

theorem mem_calls_of_mem_answers {s : σ} {calls : List κ} {answered : κ × ρ}
    (h : answered ∈ answers step s calls) : answered.1 ∈ calls := by
  induction calls generalizing s with
  | nil => cases h
  | cons call calls ih =>
      rcases List.mem_cons.mp h with rfl | h
      · exact List.mem_cons_self
      · exact List.mem_cons_of_mem _ (ih h)

/-- A relation between a machine that takes all calls and one that takes the shown ones only: a
shown call is answered alike by both, and a hidden one changes nothing of what they share. The calls
that were taken before are at hand, for what is asked of the next one. -/
structure Unwinds (shown : κ → Bool) (good : List κ → κ → Prop)
    (alike : List κ → σ → σ → Prop) : Prop where
  answer : ∀ before s s' call, alike before s s' → good before call → shown call = true →
    (step s call).1 = (step s' call).1
  taken : ∀ before s s' call, alike before s s' → good before call → shown call = true →
    alike (before ++ [call]) (step s call).2 (step s' call).2
  skipped : ∀ before s s' call, alike before s s' → good before call → shown call = false →
    alike (before ++ [call]) (step s call).2 s'

section

variable {step} {shown : κ → Bool} {good : List κ → κ → Prop} {alike : List κ → σ → σ → Prop}
variable {s s' : σ} {calls : List κ}

/-- What the two machines share is kept along the calls. -/
theorem Unwinds.alike_after (h : Unwinds step shown good alike) (hs : alike [] s s')
    (hgood : Always good calls) :
    alike calls (after step s calls) (after step s' (calls.filter shown)) := by
  induction calls using List.reverseRecOn with
  | nil => exact hs
  | append_singleton calls call ih =>
      obtain ⟨hcalls, hcall⟩ := (always_concat calls call).mp hgood
      have hbefore := ih hcalls
      rw [after_concat, List.filter_append]
      cases hshown : shown call with
      | true =>
          rw [List.filter_cons_of_pos hshown, List.filter_nil, after_concat]
          exact h.taken _ _ _ call hbefore hcall hshown
      | false =>
          rw [List.filter_cons_of_neg (by simp [hshown]), List.filter_nil, List.append_nil]
          exact h.skipped _ _ _ call hbefore hcall hshown

/-- The shown calls are answered as if the hidden ones had not been made. -/
theorem Unwinds.answers_eq (h : Unwinds step shown good alike) (hs : alike [] s s')
    (hgood : Always good calls) :
    (answers step s calls).filter (fun answered => shown answered.1) =
      answers step s' (calls.filter shown) := by
  induction calls using List.reverseRecOn with
  | nil => rfl
  | append_singleton calls call ih =>
      obtain ⟨hcalls, hcall⟩ := (always_concat calls call).mp hgood
      have hbefore := h.alike_after hs hcalls
      rw [answers_concat, List.filter_append, List.filter_append, ih hcalls]
      cases hshown : shown call with
      | true =>
          rw [List.filter_cons_of_pos (by exact hshown), List.filter_cons_of_pos hshown,
            List.filter_nil, List.filter_nil, answers_concat,
            h.answer _ _ _ call hbefore hcall hshown]
      | false =>
          have hnot : ¬ shown call = true := by simp [hshown]
          rw [List.filter_cons_of_neg (by exact hnot), List.filter_cons_of_neg hnot,
            List.filter_nil, List.filter_nil, List.append_nil, List.append_nil]

end

end BlueTeam.Lib.Unwinding
