/- GID: BlueTeam/Services/Sightings
   generality: I
   source: services/api/app/services/intel.py
   digest: What reading the indicators and recording sightings of them does to the database. -/

import BlueTeam.Services.Events
import Mathlib.Algebra.GroupWithZero.Nat

set_option autoImplicit false
set_option relaxedAutoImplicit false

namespace BlueTeam.Services

open BlueTeam.Python BlueTeam.Schema BlueTeam.Lib BlueTeam.Lib.Exec BlueTeam.Detection
  BlueTeam.Ingest

/-! ### The clock -/

/-- The state after one reading of the clock. -/
def World.tick (w : World) : World :=
  { w with ticks := { w.ticks with readings := w.ticks.readings + 1 } }

/-- What the next reading of the clock gives. -/
def World.now (rt : Runtime) (w : World) : DateTime :=
  rt.now w.ticks.readings

theorem draw_utcnow_run (rt : Runtime) (w : World) :
    draw (utcnow rt) w = (.ok (w.now rt), w.tick) := rfl

/-- Not expired, at an aware reading of the clock. -/
def live (now : DateTime) (row : IndicatorOfCompromise) : Bool :=
  decide (now.wall < row.expiresAt.asUtc.wall)

theorem unexpired_eq {now : DateTime} (h : now.offset = some 0) (row : IndicatorOfCompromise) :
    unexpired now row = .ok (live now row) := by
  obtain ⟨wall, offset⟩ := now
  subst h
  show Except.ok (decide (wall - 0 < row.expiresAt.asUtc.wall - 0)) = .ok (live ⟨wall, some 0⟩ row)
  refine congrArg Except.ok (decide_eq_decide.mpr ?_)
  simp only [Int.sub_zero]

/-- The tenant's indicators as `list_iocs` gives them at a reading of the clock. -/
def World.iocs (w : World) (tenantId : String) (now : DateTime) : List IndicatorOfCompromise :=
  (((w.rowsOf .indicators tenantId).insertionSort
    fun a b => b.updatedAt.wall ≤ a.updatedAt.wall).filter (·.active)).filter (live now)

theorem activeIntelMap_run {rt : Runtime} (hclock : rt.AwareClock) (tenantId : String)
    (w : World) : activeIntelMap rt tenantId w =
      (.ok (overlay [] ((w.iocs tenantId (w.now rt)).map (intelEntry rt))), w.tick) := by
  have hlive := fun rows : List IndicatorOfCompromise => filterRaising_eq fun row (_ : row ∈ rows) =>
    unexpired_eq (hclock w.ticks.readings) row
  simp only [activeIntelMap, listIocs, select, bind_run, gets, andThen, draw_utcnow_run,
    World.now, compute, hlive, lift, Except.mapError, Bool.and_true]
  rfl

/-! ### Sightings -/

/-- An indicator of the tenant that a candidate counts as a sighting of. -/
def Hits (rt : Runtime) (tenantId : String) (now : DateTime) (candidate : String)
    (r : IndicatorOfCompromise) : Prop :=
  r.tenantId = tenantId ∧
    (r.value = rt.strip candidate ∨ r.value = rt.lower (rt.strip candidate)) ∧
    r.active = true ∧ unexpired now r = .ok true

/-- Some value of the event is an active indicator of the tenant that has not expired. -/
def Sighted (rt : Runtime) (tenantId : String) (now : DateTime) (event : CanonicalEvent)
    (s : Session schema) : Prop :=
  ∃ candidate ∈ sightingCandidates event, ∃ r ∈ s.stored .indicators,
    Hits rt tenantId now candidate r

/-- How often the tenant's indicators have been sighted. -/
def sightingsOf (tenantId : String) (s : Session schema) : Int :=
  (((s.stored .indicators).filter fun r => r.tenantId = tenantId).map (·.sightings)).sum

/-- What recording sightings does: if there are none, nothing; otherwise the count goes up. No
other table is touched. -/
structure Resighted (tenantId : String) (hit : Prop) (s s' : Session schema) : Prop where
  pending : s'.pending = s.pending
  others : ∀ t, t ≠ .indicators → s'.stored t = s.stored t
  same : ¬ hit → s' = s
  grows : sightingsOf tenantId s ≤ sightingsOf tenantId s'
  more : hit → sightingsOf tenantId s < sightingsOf tenantId s'

theorem Resighted.refl (tenantId : String) {hit : Prop} (h : ¬ hit) (s : Session schema) :
    Resighted tenantId hit s s :=
  ⟨rfl, fun _ _ => rfl, fun _ => rfl, le_refl _, fun hit => absurd hit h⟩

theorem Resighted.trans {tenantId : String} {hit hit' both : Prop} {s s' s'' : Session schema}
    (h : Resighted tenantId hit s s') (h' : Resighted tenantId hit' s' s'')
    (hboth : ¬ both → ¬ hit ∧ (s' = s → ¬ hit')) (heither : both → hit ∨ (s' = s → hit')) :
    Resighted tenantId both s s'' where
  pending := h'.pending.trans h.pending
  others t ht := (h'.others t ht).trans (h.others t ht)
  same hnot := by
    obtain ⟨hnone, hnone'⟩ := hboth hnot
    have hsame := h.same hnone
    rw [h'.same (hnone' hsame), hsame]
  grows := h.grows.trans h'.grows
  more hb := by
    by_cases hit : hit
    · exact lt_of_lt_of_le (h.more hit) h'.grows
    · rcases heither hb with hh | hh
      · exact absurd hh hit
      · exact lt_of_le_of_lt h.grows (h'.more (hh (h.same hit)))

/-- A row that was sighted. -/
def sightedRow (now : DateTime) (r : IndicatorOfCompromise) : IndicatorOfCompromise :=
  { r with sightings := r.sightings + 1, lastSeenAt := some now, updatedAt := now }

@[simp] theorem sightedRow_tenantId (now : DateTime) (r : IndicatorOfCompromise) :
    (sightedRow now r).tenantId = r.tenantId := rfl

@[simp] theorem sightedRow_sightings (now : DateTime) (r : IndicatorOfCompromise) :
    (sightedRow now r).sightings = r.sightings + 1 := rfl

theorem sum_sightings_map (tenantId : String) (now : DateTime) (hits rows : List IndicatorOfCompromise) :
    (((rows.map fun r => if r ∈ hits then sightedRow now r else r).filter
        fun r => r.tenantId = tenantId).map (·.sightings)).sum =
      ((rows.filter fun r => r.tenantId = tenantId).map (·.sightings)).sum +
        rows.countP fun r => r ∈ hits ∧ r.tenantId = tenantId := by
  induction rows with
  | nil => rfl
  | cons r rows ih =>
      by_cases hhit : r ∈ hits
      · by_cases hten : r.tenantId = tenantId
        · simp [hhit, hten, ih]
          omega
        · simp [hhit, hten, ih]
      · by_cases hten : r.tenantId = tenantId
        · simp [hhit, hten, ih]
          omega
        · simp [hhit, hten, ih]

/-- Raising the count of the sighted rows. -/
theorem update_resighted {tenantId : String} {now : DateTime} {s : Session schema}
    {hits : List IndicatorOfCompromise}
    (hsub : ∀ r ∈ hits, r ∈ s.stored .indicators ∧ r.tenantId = tenantId) :
    Resighted tenantId (hits ≠ []) s
      (s.update .indicators fun r => if r ∈ hits then sightedRow now r else r) := by
  have hsum : sightingsOf tenantId
      (s.update .indicators fun r => if r ∈ hits then sightedRow now r else r) =
        sightingsOf tenantId s +
          (s.stored .indicators).countP fun r => r ∈ hits ∧ r.tenantId = tenantId := by
    unfold sightingsOf
    rw [Session.update_stored_self (S := schema)]
    exact sum_sightings_map tenantId now hits (s.stored .indicators)
  refine ⟨rfl, ?_, ?_, ?_, ?_⟩
  · intro t ht
    exact Session.update_stored_of_ne (S := schema) s (Ne.symm ht) _
  · intro hnone
    obtain rfl := not_not.mp hnone
    exact Session.update_eq_self (S := schema) s fun r _ => by simp
  · rw [hsum]
    omega
  · intro hsome
    obtain ⟨r, hr⟩ := List.exists_mem_of_ne_nil _ hsome
    have hpos : 0 < (s.stored .indicators).countP fun r => r ∈ hits ∧ r.tenantId = tenantId := by
      rw [List.countP_pos_iff]
      exact ⟨r, (hsub r hr).1, by simp [hr, (hsub r hr).2]⟩
    rw [hsum]
    omega


section

variable {rt : Runtime} {tenantId : String}

/-- The indicators that a candidate counts as a sighting of. -/
def hitsOf (rt : Runtime) (tenantId : String) (now : DateTime) (candidate : String)
    (rows : List IndicatorOfCompromise) : List IndicatorOfCompromise :=
  (rows.filter fun r => r.tenantId = tenantId &&
    ((r.value = rt.strip candidate || r.value = rt.lower (rt.strip candidate)) &&
      r.active)).filter (live now)

theorem mem_hitsOf {now : DateTime} (hnow : now.offset = some 0) {candidate : String}
    {rows : List IndicatorOfCompromise} {r : IndicatorOfCompromise} :
    r ∈ hitsOf rt tenantId now candidate rows ↔ r ∈ rows ∧ Hits rt tenantId now candidate r := by
  simp only [hitsOf, List.mem_filter, Bool.and_eq_true, Bool.or_eq_true, decide_eq_true_eq, Hits,
    unexpired_eq hnow, Except.ok.injEq]
  tauto

theorem hitsOf_ne_nil {now : DateTime} (hnow : now.offset = some 0) {candidate : String}
    {rows : List IndicatorOfCompromise} :
    hitsOf rt tenantId now candidate rows ≠ [] ↔ ∃ r ∈ rows, Hits rt tenantId now candidate r := by
  constructor
  · intro hne
    obtain ⟨r, hr⟩ := List.exists_mem_of_ne_nil _ hne
    exact ⟨r, (mem_hitsOf hnow).mp hr⟩
  · rintro ⟨r, hr, hhit⟩
    exact List.ne_nil_of_mem ((mem_hitsOf hnow).mpr ⟨hr, hhit⟩)

variable (rt tenantId)

/-- What one candidate does to the stored indicators. -/
theorem sight_eq {now : DateTime} (hnow : now.offset = some 0) (matched : List String)
    (candidate : String) (w : World) : sight rt tenantId now matched candidate w =
      (.ok (matched ++ (hitsOf rt tenantId now candidate (w.session.stored .indicators)).map (·.id)),
        { w with session := w.session.update .indicators fun r =>
          if r ∈ hitsOf rt tenantId now candidate (w.session.stored .indicators) then
            sightedRow now r
          else r }) := by
  have hlive := fun rows : List IndicatorOfCompromise => filterRaising_eq fun row (_ : row ∈ rows) =>
    unexpired_eq hnow row
  simp only [sight, select, bind_run, gets, andThen, compute, hlive, lift, Except.mapError]
  rfl

theorem sight_run {now : DateTime} (hnow : now.offset = some 0) (matched : List String)
    (candidate : String) (w : World) :
    ∃ matched' s', sight rt tenantId now matched candidate w =
        (.ok matched', { w with session := s' }) ∧
      Resighted tenantId (∃ r ∈ w.session.stored .indicators, Hits rt tenantId now candidate r)
        w.session s' := by
  refine ⟨_, _, sight_eq rt tenantId hnow matched candidate w, ?_⟩
  rw [← hitsOf_ne_nil hnow]
  refine update_resighted ?_
  intro r hr
  obtain ⟨hmem, hhit⟩ := (mem_hitsOf hnow).mp hr
  exact ⟨hmem, hhit.1⟩

theorem sightLoop_run {now : DateTime} (hnow : now.offset = some 0) (candidates : List String)
    (matched : List String) (w : World) :
    ∃ matched' s', loop (sight rt tenantId now) matched candidates w =
        (.ok matched', { w with session := s' }) ∧
      Resighted tenantId (∃ candidate ∈ candidates, ∃ r ∈ w.session.stored .indicators,
        Hits rt tenantId now candidate r) w.session s' := by
  induction candidates generalizing matched w with
  | nil => exact ⟨matched, w.session, rfl, Resighted.refl tenantId (by simp) _⟩
  | cons candidate candidates ih =>
      obtain ⟨matched₁, s₁, hrun₁, h₁⟩ := sight_run rt tenantId hnow matched candidate w
      obtain ⟨matched₂, s₂, hrun₂, h₂⟩ := ih matched₁ { w with session := s₁ }
      refine ⟨matched₂, s₂, ?_, h₁.trans h₂ ?_ ?_⟩
      · show andThen _ (sight rt tenantId now matched candidate w) = _
        rw [hrun₁]
        exact hrun₂
      · intro hnone
        refine ⟨fun hhit => hnone ⟨candidate, by simp, hhit⟩, ?_⟩
        rintro rfl ⟨c, hc, hhit⟩
        exact hnone ⟨c, by simp [hc], hhit⟩
      · rintro ⟨c, hc, hhit⟩
        rcases List.mem_cons.mp hc with rfl | hc
        · exact .inl hhit
        · refine .inr ?_
          rintro rfl
          exact ⟨c, hc, hhit⟩

/-- Recording the sightings of an event takes one reading of the clock; if there are any, what
waits is written. -/
theorem recordSightings_run {rt : Runtime} (hclock : rt.AwareClock) (event : CanonicalEvent) (w : World) :
    ∃ matched s', recordSightings rt tenantId event w =
        (if matched.isEmpty then pure matched else flush >>= fun _ => pure matched : Service _)
          { w.tick with session := s' } ∧
      Resighted tenantId (Sighted rt tenantId (w.now rt) event w.session) w.session s' := by
  have hnow : (w.now rt).offset = some 0 := hclock w.ticks.readings
  obtain ⟨matched, s', hrun, h⟩ := sightLoop_run rt tenantId hnow
    (sightingCandidates event) [] w.tick
  refine ⟨matched, s', ?_, h⟩
  unfold recordSightings
  rw [bind_run, draw_utcnow_run]
  simp only [andThen, bind_run, hrun]

end

end BlueTeam.Services
