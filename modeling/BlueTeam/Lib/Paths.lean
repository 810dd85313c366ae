/- GID: BlueTeam/Lib/Paths
   generality: G
   digest: Paths with their dots resolved, and what a sequence of writes leaves at a key. -/

import Mathlib.Data.List.Infix
import Mathlib.Logic.Function.Basic

set_option autoImplicit false
set_option relaxedAutoImplicit false

namespace BlueTeam.Lib.Paths

/-! ### Paths -/

/-- The names from the topmost directory down. -/
abbrev Path := List String

/-- A step of a path; the topmost directory is its own parent. -/
def enter (dir : Path) (part : String) : Path :=
  if part = "" ∨ part = "." then dir
  else if part = ".." then dir.dropLast
  else dir ++ [part]

/-- The normalised path of some components seen from a directory. -/
def resolve (dir : Path) (parts : List String) : Path :=
  parts.foldl enter dir

theorem resolve_cons (dir : Path) (part : String) (parts : List String) :
    resolve dir (part :: parts) = resolve (enter dir part) parts := rfl

/-- Without a step up, a path stays in its directory. -/
theorem prefix_resolve {parts : List String} (h : ".." ∉ parts) (dir : Path) :
    dir <+: resolve dir parts := by
  induction parts generalizing dir with
  | nil => exact List.prefix_rfl
  | cons part parts ih =>
      obtain ⟨hpart, hparts⟩ : ¬ ".." = part ∧ ".." ∉ parts := by simpa using h
      have hstep : dir <+: enter dir part := by
        unfold enter
        rw [if_neg (Ne.symm hpart)]
        split
        · exact List.prefix_rfl
        · exact List.prefix_append _ _
      exact hstep.trans (ih hparts _)

/-! ### Writes -/

section

variable {κ β : Type} [DecidableEq κ]

/-- What the last write to a key wrote. -/
def lastWrite (writes : List (κ × β)) (key : κ) : Option β :=
  (writes.reverse.find? fun w => w.1 = key).map Prod.snd

/-- What is there once all the writes are done. -/
def writeAll (files : κ → Option β) (writes : List (κ × β)) : κ → Option β :=
  writes.foldl (fun files w => Function.update files w.1 (some w.2)) files

theorem lastWrite_concat (writes : List (κ × β)) (w : κ × β) (key : κ) :
    lastWrite (writes ++ [w]) key = if w.1 = key then some w.2 else lastWrite writes key := by
  unfold lastWrite
  rw [List.reverse_concat, List.find?_cons]
  by_cases h : w.1 = key
  · simp [h]
  · simp [h]

theorem writeAll_eq (files : κ → Option β) (writes : List (κ × β)) (key : κ) :
    writeAll files writes key = (lastWrite writes key).or (files key) := by
  induction writes using List.reverseRecOn with
  | nil => rfl
  | append_singleton writes w ih =>
      have hstep : writeAll files (writes ++ [w]) =
          Function.update (writeAll files writes) w.1 (some w.2) :=
        List.foldl_concat _ _ _ _
      rw [hstep, lastWrite_concat]
      by_cases h : w.1 = key
      · subst h
        rw [Function.update_self, if_pos rfl, Option.some_or]
      · rw [Function.update_of_ne (Ne.symm h), if_neg h, ih]

theorem exists_lastWrite {writes : List (κ × β)} {w : κ × β} (h : w ∈ writes) :
    ∃ content, lastWrite writes w.1 = some content := by
  rw [← Option.isSome_iff_exists]
  unfold lastWrite
  rw [Option.isSome_map, List.find?_isSome]
  exact ⟨w, List.mem_reverse.mpr h, by simp⟩

/-- A key that was written to holds what the last write wrote. -/
theorem writeAll_of_mem (files : κ → Option β) {writes : List (κ × β)} {w : κ × β}
    (h : w ∈ writes) : writeAll files writes w.1 = lastWrite writes w.1 := by
  obtain ⟨content, hcontent⟩ := exists_lastWrite h
  rw [writeAll_eq, hcontent, Option.some_or]

end

end BlueTeam.Lib.Paths
