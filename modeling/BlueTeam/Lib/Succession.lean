/- GID: BlueTeam/Lib/Succession
   generality: G
   digest: What has become of the rows that were there, whatever a session has written since. -/

import BlueTeam.Lib.Store

set_option autoImplicit false
set_option relaxedAutoImplicit false

namespace BlueTeam.Lib

variable {S : Schema} {t : S.Table} {R : S.Row t → S.Row t → Prop} {old : List (S.Row t)}
  {s s' : Session S}

/-- A row that was added and written is there. -/
theorem Session.mem_of_add_flush {r : S.Row t} (h : (s.add r).flush = .ok s') :
    r ∈ s'.stored t := by
  rw [(Session.flush_ok h).2, Session.add_all_self]
  exact List.mem_append_right _ (List.mem_singleton.mpr rfl)

/-- Each of the old rows has a successor among those that are stored. -/
def Succeeded (R : S.Row t → S.Row t → Prop) (old : List (S.Row t)) (s : Session S) : Prop :=
  ∀ r ∈ old, ∃ r' ∈ s.stored t, R r r'

namespace Succeeded

theorem start (hrefl : ∀ r, R r r) (s : Session S) : Succeeded R (s.stored t) s :=
  fun r hr => ⟨r, hr, hrefl r⟩

/-- Rows that only stay are still there. -/
theorem subset (h : Succeeded Eq old s) : old ⊆ s.stored t := by
  intro r hr
  obtain ⟨r', hr', rfl⟩ := h r hr
  exact hr'

theorem add (h : Succeeded R old s) {u : S.Table} (r : S.Row u) : Succeeded R old (s.add r) :=
  h

theorem flush (h : Succeeded R old s) (hflush : s.flush = .ok s') : Succeeded R old s' := by
  intro r hr
  obtain ⟨r', hr', hsucc⟩ := h r hr
  refine ⟨r', ?_, hsucc⟩
  rw [(Session.flush_ok hflush).2]
  exact List.mem_append_left _ hr'

theorem update_of_ne (h : Succeeded R old s) {u : S.Table} (hu : u ≠ t) (f : S.Row u → S.Row u) :
    Succeeded R old (s.update u f) := by
  intro r hr
  rw [Session.update_stored_of_ne s hu]
  exact h r hr

theorem delete_of_ne (h : Succeeded R old s) {u : S.Table} (hu : u ≠ t) (p : S.Row u → Bool) :
    Succeeded R old (s.delete u p) := by
  intro r hr
  rw [Session.delete_stored_of_ne s hu]
  exact h r hr

/-- A change that leads every row to a successor. -/
theorem update (h : Succeeded R old s) (htrans : ∀ a b c, R a b → R b c → R a c)
    {f : S.Row t → S.Row t} (hf : ∀ r ∈ s.stored t, R r (f r)) :
    Succeeded R old (s.update t f) := by
  intro r hr
  obtain ⟨r', hr', hsucc⟩ := h r hr
  refine ⟨f r', ?_, htrans _ _ _ hsucc (hf r' hr')⟩
  rw [Session.update_stored_self]
  exact List.mem_map_of_mem hr'

end Succeeded

end BlueTeam.Lib
