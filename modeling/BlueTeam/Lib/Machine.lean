/- GID: BlueTeam/Lib/Machine
   generality: G
   digest: Runs of a machine that takes call after call, and what holds along them. -/

import Mathlib.Data.List.Basic

set_option autoImplicit false
set_option relaxedAutoImplicit false

namespace BlueTeam.Lib.Machine

variable {σ κ : Type*} (step : σ → κ → σ)

/-- The state after the calls. -/
def run (s : σ) (calls : List κ) : σ :=
  calls.foldl step s

/-- Every call of the run is good in the state it meets. -/
def Along (good : σ → κ → Prop) : σ → List κ → Prop
  | _, [] => True
  | s, call :: calls => good s call ∧ Along good (step s call) calls

@[simp] theorem run_nil (s : σ) : run step s [] = s := rfl

@[simp] theorem run_cons (s : σ) (call : κ) (calls : List κ) :
    run step s (call :: calls) = run step (step s call) calls := rfl

theorem run_append (s : σ) (calls more : List κ) :
    run step s (calls ++ more) = run step (run step s calls) more :=
  List.foldl_append

variable {step} (inv : σ → Prop) {good good' : σ → κ → Prop}

theorem Along.prefix {s : σ} {calls more : List κ} (h : Along step good s (calls ++ more)) :
    Along step good s calls := by
  induction calls generalizing s with
  | nil => trivial
  | cons call calls ih => exact ⟨h.1, ih h.2⟩

/-- What every good call keeps holds at the end of a run of good calls. -/
theorem Along.run_inv (hkeep : ∀ s call, inv s → good s call → inv (step s call)) {s : σ}
    {calls : List κ} (hs : inv s) (h : Along step good s calls) : inv (run step s calls) := by
  induction calls generalizing s with
  | nil => exact hs
  | cons call calls ih => exact ih (hkeep s call hs h.1) h.2

theorem run_inv (hkeep : ∀ s call, inv s → inv (step s call)) {s : σ} (hs : inv s)
    (calls : List κ) : inv (run step s calls) := by
  induction calls generalizing s with
  | nil => exact hs
  | cons call calls ih => exact ih (hkeep s call hs)

/-- Along calls that are good, what is the same of each good call is the same along the run. -/
theorem Along.congr {fine : σ → κ → Prop} {s : σ} {calls : List κ} (h : Along step fine s calls)
    (hsame : ∀ s call, fine s call → (good s call ↔ good' s call)) :
    Along step good s calls ↔ Along step good' s calls := by
  induction calls generalizing s with
  | nil => exact Iff.rfl
  | cons call calls ih => exact and_congr (hsame s call h.1) (ih h.2)

/-- Under an invariant, what is the same of each call is the same along the run. -/
theorem along_iff (hkeep : ∀ s call, inv s → inv (step s call))
    (hsame : ∀ s call, inv s → (good s call ↔ good' s call)) {s : σ} (hs : inv s)
    (calls : List κ) : Along step good s calls ↔ Along step good' s calls := by
  induction calls generalizing s with
  | nil => exact Iff.rfl
  | cons call calls ih => exact and_congr (hsame s call hs) (ih (hkeep s call hs))

theorem along_iff_forall {s : σ} {calls : List κ} :
    Along step good s calls ↔
      ∀ pre call post, calls = pre ++ call :: post → good (run step s pre) call := by
  induction calls generalizing s with
  | nil =>
      constructor
      · intro _ pre call post h
        simp at h
      · intro _
        trivial
  | cons call calls ih =>
      constructor
      · rintro ⟨hgood, hrest⟩ pre other post h
        cases pre with
        | nil =>
            obtain ⟨rfl, -⟩ := List.cons_eq_cons.mp h
            exact hgood
        | cons first pre =>
            obtain ⟨rfl, htail⟩ := List.cons_eq_cons.mp h
            exact ih.mp hrest pre other post htail
      · intro h
        constructor
        · exact h [] call calls rfl
        · apply ih.mpr
          intro pre other post htail
          exact h (call :: pre) other post (by rw [htail]; rfl)

/-- What differs after a run was changed by one of its calls. -/
theorem exists_change (hkeep : ∀ s call, inv s → inv (step s call)) {γ : Type*} (part : σ → γ)
    {s : σ} (hs : inv s) {calls : List κ} (h : part (run step s calls) ≠ part s) :
    ∃ pre call post, calls = pre ++ call :: post ∧ inv (run step s pre) ∧
      part (step (run step s pre) call) ≠ part (run step s pre) := by
  induction calls generalizing s with
  | nil => exact absurd rfl h
  | cons call calls ih =>
      by_cases hfirst : part (step s call) = part s
      · rw [run_cons, ← hfirst] at h
        obtain ⟨pre, changing, post, rfl, hinv, hchange⟩ := ih (hkeep s call hs) h
        exact ⟨call :: pre, changing, post, rfl, hinv, hchange⟩
      · exact ⟨[], call, calls, rfl, hs, hfirst⟩

/-- Where each call only adds to a part, what a run has added was added by its calls. -/
theorem exists_author (hkeep : ∀ s call, inv s → inv (step s call)) {β : Type*} (part : σ → List β)
    {author : σ → κ → β → Prop} (hgrow : ∀ s call, inv s → ∃ new,
      part (step s call) = part s ++ new ∧ ∀ b ∈ new, author s call b) {s : σ} (hs : inv s)
    (calls : List κ) : ∃ new, part (run step s calls) = part s ++ new ∧ ∀ b ∈ new,
      ∃ pre call post, calls = pre ++ call :: post ∧ author (run step s pre) call b := by
  induction calls generalizing s with
  | nil => exact ⟨[], (List.append_nil _).symm, fun b hb => (by cases hb)⟩
  | cons call calls ih =>
      obtain ⟨new, hnew, hby⟩ := hgrow s call hs
      obtain ⟨more, hmore, hlater⟩ := ih (hkeep s call hs)
      refine ⟨new ++ more, ?_, fun b hb => ?_⟩
      · rw [run_cons, hmore, hnew, List.append_assoc]
      · rcases List.mem_append.mp hb with hb | hb
        · exact ⟨[], call, calls, rfl, hby b hb⟩
        · obtain ⟨pre, author, post, rfl, hauthor⟩ := hlater b hb
          exact ⟨call :: pre, author, post, rfl, hauthor⟩

end BlueTeam.Lib.Machine
