/- GID: BlueTeam/Services/Pairing
   generality: I
   source: services/api/app/core/db.py
   digest: Two runs of a service for one tenant, in databases that agree on the tenant's rows. -/

import BlueTeam.Lib.Tenancy
import BlueTeam.Services.Drawing

set_option autoImplicit false
set_option relaxedAutoImplicit false

namespace BlueTeam.Services

open BlueTeam.Python BlueTeam.Schema BlueTeam.Lib BlueTeam.Lib.Exec

/-- Two worlds with the same clock and the same generator, whose sessions agree on the tenant. -/
structure Paired (T : Tenancy schema) (n : Nat) (w₁ w₂ : World) : Prop where
  ticks : w₁.ticks = w₂.ticks
  drawn : From n w₁.ticks
  agree : T.Agree w₁.session w₂.session

section

variable {T : Tenancy schema} {n : Nat} {α : Type} {Q : α → Prop} {t : Table}

theorem Paired.session {w₁ w₂ : World} (h : Paired T n w₁ w₂) {s₁ s₂ : Session schema}
    (hs : T.Agree s₁ s₂) : Paired T n { w₁ with session := s₁ } { w₂ with session := s₂ } :=
  ⟨h.ticks, h.drawn, hs⟩

theorem coupled_draw {m : Draw α} (h : Draws n m Q) : Coupled (Paired T n) (draw m) Q := by
  refine coupled_zoom (fun w₁ w₂ hw => hw.ticks) ?_
  intro w₁ w₂ a ticks hw hrun
  have hpost := h.run w₁.ticks hw.drawn
  rw [hrun] at hpost
  cases a with
  | error e => exact ⟨⟨rfl, hpost, hw.agree⟩, fun v hv => (by cases hv)⟩
  | ok a =>
      refine ⟨⟨rfl, hpost.2, hw.agree⟩, ?_⟩
      rintro v hv
      obtain rfl := Except.ok.inj hv
      exact hpost.1

theorem coupled_compute {r : Except Exn α} (h : ∀ a, r = .ok a → Q a) :
    Coupled (Paired T n) (compute r) Q := by
  refine coupled_lift ?_
  intro a ha
  cases r with
  | error e => cases ha
  | ok b =>
      obtain rfl := Except.ok.inj ha
      exact h _ rfl

/-- A row that the tenant has. -/
def Owned (T : Tenancy schema) (r : t.Row) : Prop :=
  Table.tenantId r = T.tenant ∧ T.Good t r

theorem coupled_select (p : t.Row → Bool) :
    Coupled (Paired T n) (select t T.tenant p) (fun rows => ∀ r ∈ rows, Owned T r) := by
  refine coupled_gets ?_
  intro w₁ w₂ hw
  have hrows : ∀ w : World, ((w.session.stored t).filter fun r =>
      decide (Table.tenantId r = T.tenant) && p r) =
        (w.session.stored.own T.tenant t).filter p := by
    intro w
    unfold Database.own
    rw [List.filter_filter]
    exact List.filter_congr fun r _ => Bool.and_comm _ _
  rw [hrows w₁, hrows w₂, hw.agree.own t]
  refine ⟨rfl, ?_⟩
  intro r hr
  have hown := (List.mem_filter.mp hr).1
  exact ⟨(Database.mem_own.mp hown).2, hw.agree.good t r (by rwa [hw.agree.own t])⟩

theorem coupled_selectOne (p : t.Row → Bool) :
    Coupled (Paired T n) (selectOne t T.tenant p) (fun r => ∀ x, r = some x → Owned T x) := by
  refine coupled_bind (coupled_select p) fun rows hrows => coupled_lift ?_
  intro a ha x hx
  subst hx
  rcases rows with _ | ⟨r, _ | ⟨r', rest⟩⟩
  · cases ha
  · cases ha
    exact hrows x List.mem_cons_self
  · cases ha

/-- A key of the tenant, held by none of the others. -/
def Unheld (T : Tenancy schema) (t : Table) (id : String) : Prop :=
  ∀ r : t.Row, r ∈ T.left t ∨ r ∈ T.right t → Table.id r ≠ id

theorem Owned.unheld {r : t.Row} (h : Owned T r) : Unheld T t (Table.id r) :=
  T.free t r h.2

theorem coupled_get {id : String} (h : Unheld T t id) :
    Coupled (Paired T n) (get t id) (fun r => ∀ x, r = some x → Owned T x) := by
  refine coupled_gets ?_
  intro w₁ w₂ hw
  have hown : ∀ {w : World}, (∀ r ∈ w.session.stored.others T.tenant t, Table.id r ≠ id) →
      ((w.session.stored t).find? fun r => Table.id r = id) =
        (w.session.stored.own T.tenant t).find? fun r => Table.id r = id := by
    intro w hw
    refine Database.find_own (S := schema) (t := t) fun r hr hid => ?_
    by_contra hother
    exact hw r (Database.mem_others.mpr ⟨hr, hother⟩) (of_decide_eq_true hid)
  have hleft : ∀ r ∈ w₁.session.stored.others T.tenant t, Table.id r ≠ id := by
    intro r hr
    rw [hw.agree.left] at hr
    exact h r (.inl hr)
  have hright : ∀ r ∈ w₂.session.stored.others T.tenant t, Table.id r ≠ id := by
    intro r hr
    rw [hw.agree.right] at hr
    exact h r (.inr hr)
  rw [hown hleft, hown hright, hw.agree.own t]
  refine ⟨rfl, ?_⟩
  intro x hx
  have hmem := List.mem_of_find?_eq_some hx
  exact ⟨(Database.mem_own.mp hmem).2, hw.agree.good t x (by rwa [hw.agree.own t])⟩

theorem coupled_add {r : t.Row} (h : Owned T r) : Coupled (Paired T n) (add r) (fun _ => True) :=
  coupled_modify (fun _ _ hw => hw.session (hw.agree.add h.1 h.2)) trivial

theorem coupled_flush : Coupled (Paired T n) flush (fun _ => True) := by
  constructor
  intro w₁ w₂ hw
  unfold flush
  rcases hw.agree.flush with ⟨c, h₁, h₂⟩ | ⟨s₁, s₂, h₁, h₂, hagree⟩
  · rw [h₁, h₂]
    exact ⟨rfl, hw, fun _ _ => trivial⟩
  · rw [h₁, h₂]
    exact ⟨rfl, hw.session hagree, fun _ _ => trivial⟩

theorem coupled_update {f : t.Row → t.Row} (hown : ∀ r, Owned T r → Owned T (f r))
    (hothers : ∀ r, Table.tenantId r ≠ T.tenant → f r = r) :
    Coupled (Paired T n) (update t f) (fun _ => True) :=
  coupled_modify (fun _ _ hw => hw.session
    (hw.agree.update (fun r hr htenant => hown r ⟨htenant, hr⟩) hothers)) trivial

theorem coupled_deleteAll (t : Table) :
    Coupled (Paired T n) (deleteAll t T.tenant) (fun _ => True) :=
  coupled_modify (fun _ _ hw => hw.session (hw.agree.delete t)) trivial

/-- A request commits in both worlds, or is rolled back in both. -/
theorem coupled_request {m : Service α} (h : Coupled (Paired T n) m Q) :
    Coupled (Paired T n) (request m) Q := by
  constructor
  intro w₁ w₂ hw
  have hcommit := coupled_bind h fun a ha =>
    coupled_bind coupled_flush fun _ _ => coupled_pure (R := Paired T n) (Q := Q) ha
  obtain ⟨hvalue, hpaired, hq⟩ := hcommit.run w₁ w₂ hw
  unfold request
  rcases h₁ : (m >>= fun a => flush >>= fun _ => pure a) w₁ with ⟨⟨e⟩ | ⟨a⟩, w₁'⟩ <;>
    rcases h₂ : (m >>= fun a => flush >>= fun _ => pure a) w₂ with ⟨⟨e'⟩ | ⟨a'⟩, w₂'⟩ <;>
    simp only [h₁, h₂] at hvalue hpaired hq
  · refine ⟨by simpa using hvalue, ⟨hpaired.ticks, hpaired.drawn, hw.agree⟩, ?_⟩
    intro a ha
    cases ha
  · cases hvalue
  · cases hvalue
  · exact ⟨hvalue, hpaired, hq⟩

end

end BlueTeam.Services
