/- GID: BlueTeam/Services/Watchlist
   generality: I
   source: services/api/app/services/intel.py
   digest: The indicators as a watchlist: what the replies of the service have said of each. -/

import BlueTeam.Lib.Mirror
import BlueTeam.Services.Expiry
import BlueTeam.Services.Indicators

set_option autoImplicit false
set_option relaxedAutoImplicit false

namespace BlueTeam.Services

open BlueTeam.Python BlueTeam.Schema BlueTeam.Lib BlueTeam.Lib.Exec BlueTeam.Ingest

/-- The clock does not run backwards. -/
def SteadyClock (rt : Runtime) : Prop :=
  ∀ n, (rt.now n).wall ≤ (rt.now (n + 1)).wall

/-! ### The watchlist -/

/-- What has been said of an indicator. -/
structure IocState where
  id : String
  expiresAt : DateTime
  /-- it has not been deactivated since it was stored last -/
  on : Bool
  sightings : Int
  deriving DecidableEq, Repr

/-- A tenant, a type and a value. -/
abbrev IocKey := String × String × String

def iocKey (r : IndicatorOfCompromise) : IocKey :=
  (r.tenantId, r.indicatorType, r.value)

abbrev Watchlist := IocKey → Option IocState

/-- What can be asked of the service. -/
inductive IocCall
  | upsert (req : IocRequest)
  | deactivate (iocId actorId : String)
  | expire
  | sight (event : CanonicalEvent)

/-- What the service replies. -/
inductive IocNotice
  | stored (row : IndicatorOfCompromise)
  | deactivated (row : IndicatorOfCompromise)
  | expired (count : Nat)
  | sighted (ids : List String)

def IocCall.body (rt : Runtime) (tenantId : String) : IocCall → Service IocNotice
  | .upsert req => do
      let row ← upsertIoc rt tenantId req
      pure (.stored row)
  | .deactivate iocId actorId => do
      let found ← getIoc tenantId iocId
      let row ← deactivateIoc rt found actorId
      pure (.deactivated row)
  | .expire => do
      let count ← expireStale rt tenantId
      pure (.expired count)
  | .sight event => do
      let ids ← recordSightings rt tenantId event
      pure (.sighted ids)

/-- An indicator that is stored again keeps its count. -/
def Watchlist.stored (l : Watchlist) (row : IndicatorOfCompromise) : IocState where
  id := row.id
  expiresAt := row.expiresAt
  on := true
  sightings := ((l (iocKey row)).map (·.sightings)).getD 0

/-- An indicator is counted once for each time its id is returned. -/
def IocState.sightedIn (ids : List String) (e : IocState) : IocState :=
  { e with sightings := e.sightings + ids.count e.id }

/-- The watchlist after a reply. That some have expired changes nothing. -/
def Watchlist.observe (l : Watchlist) : IocNotice → Watchlist
  | .stored row => Function.update l (iocKey row) (some (l.stored row))
  | .deactivated row =>
      Function.update l (iocKey row) ((l (iocKey row)).map fun e => { e with on := false })
  | .expired _ => l
  | .sighted ids => fun k => (l k).map (IocState.sightedIn ids)

/-- What stands on the list for a tenant at a time: what is on it and has not expired. -/
def Watchlist.standing (l : Watchlist) (tenantId : String) (now : DateTime) : Watchlist :=
  fun k => (l k).filter fun e => k.1 = tenantId && e.on && now.wall < e.expiresAt.asUtc.wall

/-- A row as it is. -/
def watchedRow (r : IndicatorOfCompromise) : IocState where
  id := r.id
  expiresAt := r.expiresAt
  on := r.active
  sightings := r.sightings

/-- The database, and the watchlist of those who read the replies. -/
structure Lookout where
  world : World
  watchlist : Watchlist

/-- Before the first call the watchlist is read off the table. -/
def Lookout.opening (w : World) : Lookout where
  world := w
  watchlist := fun k =>
    ((w.session.stored .indicators).find? fun r => iocKey r = k).map watchedRow

/-- A tenant's call, as a transaction. -/
def Lookout.step (rt : Runtime) (d : Lookout) (call : String × IocCall) : Lookout where
  world := (request (call.2.body rt call.1) d.world).2
  watchlist :=
    match (request (call.2.body rt call.1) d.world).1 with
    | .ok notice => d.watchlist.observe notice
    | .error _ => d.watchlist

/-- What a row shows of an entry. -/
structure Shows (r : IndicatorOfCompromise) (e : IocState) : Prop where
  id : r.id = e.id
  expiresAt : r.expiresAt = e.expiresAt
  sightings : r.sightings = e.sightings

/-- What the service says of the indicators of a tenant is what the watchlist says. -/
structure Watches (rt : Runtime) (tenantId : String) (d : Lookout) : Prop where
  listed : ∃ rows, (listIocs rt tenantId d.world).1 = .ok rows ∧
    Mirrors iocKey Shows rows (d.watchlist.standing tenantId (d.world.now rt))
  all : ∃ rows, (listAllIocs tenantId d.world).1 = .ok rows ∧
    Mirrors iocKey Shows rows fun k => (d.watchlist k).filter fun _ => k.1 = tenantId
  sighted : ∀ event, ∃ ids, (recordSightings rt tenantId event d.world).1 = .ok ids ∧
    ∀ id, id ∈ ids ↔ ∃ k e,
      d.watchlist.standing tenantId (d.world.now rt) k = some e ∧ e.id = id ∧
        ∃ c ∈ sightingCandidates event, k.2.2 = rt.strip c ∨ k.2.2 = rt.lower (rt.strip c)

/-! ### What the calls do -/

/-- A row and its entry at a time: a row that is not active belongs to an entry that is not on or
has expired. -/
structure Tracks (time : Int) (r : IndicatorOfCompromise) (e : IocState) : Prop extends Shows r e where
  on : r.active = true → e.on = true
  off : e.on = true → r.active = true ∨ e.expiresAt.asUtc.wall ≤ time

theorem Tracks.mono {time time' : Int} (hle : time ≤ time') {r : IndicatorOfCompromise}
    {e : IocState} (h : Tracks time r e) : Tracks time' r e :=
  ⟨h.toShows, h.on, fun hon => (h.off hon).imp_right fun hover => hover.trans hle⟩

/-- The rows follow the watchlist, and nothing waits to be written. -/
structure Follows (rt : Runtime) (l : Watchlist) (w : World) : Prop where
  pending : w.session.pending = []
  keyed : schema.Keyed (w.session.stored .indicators)
  mirrors : Mirrors iocKey (Tracks (w.now rt).wall) (w.session.stored .indicators) l

/-- The same, some time after. -/
structure Since (rt : Runtime) (n : Nat) (l : Watchlist) (w : World) : Prop
    extends Follows rt l w where
  later : n ≤ w.ticks.readings

/-- What a lookup by key says of the table. -/
def Found (k : IocKey) : Option IndicatorOfCompromise → Session schema → Prop
  | some row, s => row ∈ s.stored .indicators
  | none, s => ∀ r ∈ s.stored .indicators, iocKey r ≠ k

/-- Whatever was raised, the clock has gone on. -/
def Later (n : Nat) (_ : Failure) (w : World) : Prop :=
  n ≤ w.ticks.readings

section

variable {rt : Runtime} {tenantId : String} {n : Nat} {l : Watchlist} {w : World}

theorem SteadyClock.mono (h : SteadyClock rt) {m n : Nat} (hle : m ≤ n) :
    (rt.now m).wall ≤ (rt.now n).wall :=
  monotone_nat_of_le_succ h hle

/-- No two rows have a tenant, a type and a value in common. -/
theorem iocKey_nodup {rows : List IndicatorOfCompromise}
    (h : schema.Keyed (t := Table.indicators) rows) : (rows.map iocKey).Nodup := by
  refine List.pairwise_map.mpr (h.imp ?_)
  intro r r' hapart hsame
  obtain ⟨htenant, hrest⟩ := Prod.mk.inj hsame
  obtain ⟨htype, hvalue⟩ := Prod.mk.inj hrest
  refine hapart.2 ⟨htenant, ?_, rfl⟩
  show some [r.indicatorType, r.value] = some [r'.indicatorType, r'.value]
  rw [htype, hvalue]

theorem Follows.later (h : Follows rt l w) (hsteady : SteadyClock rt) {t : Ticks}
    (hle : w.ticks.readings ≤ t.readings) : Follows rt l { w with ticks := t } :=
  ⟨h.pending, h.keyed, h.mirrors.mono fun _ _ _ htracks => htracks.mono (hsteady.mono hle)⟩

theorem since_utcnow (hclock : rt.AwareClock) (hsteady : SteadyClock rt) :
    Triple (Since rt n l) (draw (utcnow rt))
      (fun now w => (now.offset = some 0 ∧ now.wall ≤ (w.now rt).wall) ∧ Since rt n l w)
      (Later n) := by
  refine triple_draw ?_ ?_
  · intro w now t hw hrun
    obtain ⟨hnow, rfl⟩ := Prod.mk.inj hrun
    obtain rfl := Except.ok.inj hnow
    have hle : w.ticks.readings ≤ w.ticks.readings + 1 := Nat.le_succ _
    exact ⟨⟨hclock _, hsteady _⟩, hw.toFollows.later hsteady hle, hw.later.trans hle⟩
  · intro w e t hw hrun
    cases hrun

/-- Drawing an id touches nothing that is stored. -/
theorem since_newId (φ : Session schema → Prop) :
    Triple (fun w => φ w.session ∧ Since rt n l w) (draw (newId rt "ioc"))
      (fun _ w => φ w.session ∧ Since rt n l w) (Later n) := by
  refine triple_draw ?_ ?_
  · intro w id t hw hrun
    obtain ⟨-, rfl⟩ := Prod.mk.inj hrun
    exact ⟨hw.1, ⟨hw.2.pending, hw.2.keyed, hw.2.mirrors⟩, hw.2.later⟩
  · intro w e t hw hrun
    cases hrun

theorem since_compute (φ : Session schema → Prop) {α : Type} (r : Except Exn α) :
    Triple (fun w => φ w.session ∧ Since rt n l w) (compute r)
      (fun _ w => φ w.session ∧ Since rt n l w) (Later n) :=
  triple_compute (fun _ _ _ hw => hw) fun _ _ _ hw => hw.2.later

/-- There is nothing to flush. -/
theorem since_flush : Triple (Since rt n l) flush (fun _ => Since rt n l) (Later n) := by
  refine triple_flush ?_ fun _ _ hw _ => hw.later
  intro w s hw hflush
  rw [Session.flush_of_pending_nil hw.pending] at hflush
  obtain rfl := Except.ok.inj hflush
  exact hw

theorem keyed_map {rows : List IndicatorOfCompromise} (h : schema.Keyed (t := Table.indicators) rows)
    {f : IndicatorOfCompromise → IndicatorOfCompromise}
    (hsame : ∀ r, (f r).id = r.id ∧ iocKey (f r) = iocKey r) :
    schema.Keyed (t := Table.indicators) (rows.map f) := by
  refine h.map fun r => ?_
  obtain ⟨hid, hkey⟩ := hsame r
  obtain ⟨htenant, hrest⟩ := Prod.mk.inj hkey
  obtain ⟨htype, hvalue⟩ := Prod.mk.inj hrest
  refine ⟨hid, htenant, ?_⟩
  show some [(f r).indicatorType, (f r).value] = some [r.indicatorType, r.value]
  rw [htype, hvalue]

/-- The rows change within their keys, as the watchlist does. -/
theorem Since.update (h : Since rt n l w) {f : IndicatorOfCompromise → IndicatorOfCompromise}
    {l' : Watchlist} (hsame : ∀ r, (f r).id = r.id ∧ iocKey (f r) = iocKey r)
    (hmirrors : Mirrors iocKey (Tracks (w.now rt).wall) ((w.session.stored .indicators).map f) l') :
    Since rt n l' { w with session := w.session.update .indicators f } := by
  have hrows : (w.session.update .indicators f).stored .indicators =
      (w.session.stored .indicators).map f := Session.update_stored_self _ _ _
  refine ⟨⟨h.pending, ?_, ?_⟩, h.later⟩
  · rw [hrows]
    exact keyed_map h.keyed hsame
  · show Mirrors _ _ ((w.session.update .indicators f).stored .indicators) l'
    rw [hrows]
    exact hmirrors

/-- A row is found by its id, and changes to what its entry becomes. -/
theorem Since.update_row (h : Since rt n l w)
    {g : IndicatorOfCompromise → IndicatorOfCompromise} {row : IndicatorOfCompromise} {e : IocState}
    (hrow : row ∈ w.session.stored .indicators)
    (hsame : ∀ r, (g r).id = r.id ∧ iocKey (g r) = iocKey r)
    (he : Tracks (w.now rt).wall (g row) e) :
    Since rt n (Function.update l (iocKey row) (some e))
      { w with session := w.session.update .indicators fun r => if r.id = row.id then g r else r } := by
  have hid : ∀ r ∈ w.session.stored .indicators, r.id = row.id → r = row := fun r hr hsame =>
    List.inj_on_of_nodup_map h.keyed.nodup hr hrow hsame
  refine h.update ?_ ?_
  · intro r
    split
    · exact hsame r
    · exact ⟨rfl, rfl⟩
  · refine h.mirrors.update hrow ?_ ?_ ?_
    · rw [if_pos rfl]
      exact (hsame row).2
    · intro r hr hne
      rw [if_neg]
      intro hsame
      exact hne (congrArg iocKey (hid r hr hsame))
    · rw [if_pos rfl]
      exact he

/-- The entry of a row that is stored, whether it was there or not. -/
theorem Follows.stored (h : Follows rt l w) (row : IndicatorOfCompromise)
    {old : IndicatorOfCompromise}
    (hold : old ∈ w.session.stored .indicators) (hkey : iocKey row = iocKey old)
    (hactive : row.active = true) (hsightings : row.sightings = old.sightings) (time : Int) :
    Tracks time row (l.stored row) := by
  obtain ⟨e, he, htracks⟩ := h.mirrors.shown old hold
  refine ⟨⟨rfl, rfl, ?_⟩, fun _ => rfl, fun _ => .inl hactive⟩
  show row.sightings = ((l (iocKey row)).map (·.sightings)).getD 0
  rw [hsightings, hkey, he]
  exact htracks.sightings

/-- A row that is there is stored again. -/
theorem Since.refresh (h : Since rt n l w) {row : IndicatorOfCompromise}
    (hrow : row ∈ w.session.stored .indicators) (req : IocRequest) (ttlHours : Int)
    (expiresAt now : DateTime) :
    Since rt n (l.observe (.stored (req.refresh rt ttlHours expiresAt now row)))
      { w with session := w.session.update .indicators fun r =>
          if r.id = row.id then req.refresh rt ttlHours expiresAt now r else r } := by
  have hupdated := h.update_row hrow (g := req.refresh rt ttlHours expiresAt now)
    (fun r => ⟨rfl, rfl⟩) (h.stored (req.refresh rt ttlHours expiresAt now row) hrow rfl rfl rfl _)
  exact hupdated

/-- A new row is written. -/
theorem Since.append (h : Since rt n l w) {row : IndicatorOfCompromise} {s : Session schema}
    (hnew : ∀ r ∈ w.session.stored .indicators, iocKey r ≠ iocKey row)
    (hactive : row.active = true) (hsightings : row.sightings = 0)
    (hflush : (w.session.add (S := schema) (t := .indicators) row).flush = .ok s) :
    Since rt n (l.observe (.stored row)) { w with session := s } := by
  obtain ⟨hpending, hstored⟩ := Session.flush_ok hflush
  have hrows : s.stored .indicators = w.session.stored .indicators ++ [row] := by
    rw [hstored, Session.add_all_self (S := schema), Session.all, Session.pendingOf, h.pending]
    simp
  have hkeyed : schema.Keyed (s.stored .indicators) :=
    Session.flush_keyed (s := w.session.add (S := schema) (t := .indicators) row) h.keyed hflush
  refine ⟨⟨hpending, hkeyed, ?_⟩, h.later⟩
  show Mirrors _ _ (s.stored .indicators) _
  rw [hrows]
  refine h.mirrors.append hnew ⟨⟨rfl, rfl, ?_⟩, fun _ => rfl, fun _ => .inl hactive⟩
  show row.sightings = ((l (iocKey row)).map (·.sightings)).getD 0
  rw [h.mirrors.eq_none hnew]
  exact hsightings

theorem upsertIoc_since (hclock : rt.AwareClock) (hsteady : SteadyClock rt) (req : IocRequest) :
    Triple (Since rt n l) (upsertIoc rt tenantId req)
      (fun row => Since rt n (l.observe (.stored row))) (Later n) := by
  unfold upsertIoc
  rcases req.normalized rt with ⟨indicatorType, value⟩
  dsimp only
  split
  · exact triple_raise fun _ hw => hw.later
  · split
    · exact triple_raise fun _ hw => hw.later
    · split
      · exact triple_raise fun _ hw => hw.later
      · refine triple_bind (since_utcnow hclock hsteady) fun now => ?_
        refine Triple.pre ?_ fun w hw => hw.2
        refine triple_bind (Q := fun found w => Found (tenantId, indicatorType, value) found
          w.session ∧ Since rt n l w) ?_ fun found => ?_
        · refine triple_selectOne ?_ (fun w r hw hr _ _ => ⟨hr, hw⟩) fun w hw _ => hw.later
          intro w hw hnone
          refine ⟨fun r hr hkey => ?_, hw⟩
          obtain ⟨htenant, hrest⟩ := Prod.mk.inj hkey
          obtain ⟨htype, hvalue⟩ := Prod.mk.inj hrest
          have hfails := hnone r hr htenant
          simp [htype, hvalue] at hfails
        · cases found with
          | some row =>
              refine triple_bind (since_compute (Found _ (some row)) _) fun expiresAt => ?_
              refine triple_bind (triple_update fun w hw => ?_) fun _ =>
                triple_bind since_flush fun _ => triple_pure fun _ hw => hw
              exact hw.2.refresh hw.1 req _ expiresAt now
          | none =>
              refine triple_bind (since_newId (Found _ none)) fun id => ?_
              refine triple_bind (since_compute (Found _ none) _) fun expiresAt => ?_
              refine triple_addFlush ?_ fun w c hw _ => hw.2.later
              exact fun w s hw hflush => hw.2.append hw.1 rfl rfl hflush

/-- A row is deactivated, and its entry is no longer on. -/
theorem Since.deactivated (h : Since rt n l w) {row : IndicatorOfCompromise}
    (hrow : row ∈ w.session.stored .indicators) (actorId : String)
    (updatedAt deactivatedAt : DateTime) :
    Since rt n (l.observe (.deactivated (Services.deactivated actorId updatedAt deactivatedAt row)))
      { w with session := w.session.update .indicators fun r =>
          if r.id = row.id then Services.deactivated actorId updatedAt deactivatedAt r else r } := by
  obtain ⟨e, he, htracks⟩ := h.mirrors.shown row hrow
  have hupdated := h.update_row hrow (g := Services.deactivated actorId updatedAt deactivatedAt)
    (e := { e with on := false }) (fun r => ⟨rfl, rfl⟩)
    ⟨⟨htracks.id, htracks.expiresAt, htracks.sightings⟩, (by simp [Services.deactivated]), by simp⟩
  have hentry : l.observe (.deactivated (Services.deactivated actorId updatedAt deactivatedAt row)) =
      Function.update l (iocKey row) (some { e with on := false }) := by
    show Function.update l (iocKey row) ((l (iocKey row)).map fun e => { e with on := false }) = _
    rw [he]
    rfl
  rw [hentry]
  exact hupdated

theorem deactivate_since (hclock : rt.AwareClock) (hsteady : SteadyClock rt)
    (iocId actorId : String) :
    Triple (Since rt n l) ((IocCall.deactivate iocId actorId).body rt tenantId)
      (fun notice => Since rt n (l.observe notice)) (Later n) := by
  have hread (row : IndicatorOfCompromise) :
      Triple (fun w => row ∈ w.session.stored .indicators ∧ Since rt n l w) (draw (utcnow rt))
        (fun _ w => row ∈ w.session.stored .indicators ∧ Since rt n l w) (Later n) := by
    refine triple_from fun w₀ hw₀ => ?_
    refine Triple.conseq (Triple.traced (since_utcnow hclock hsteady) hw₀.2) (fun _ hw => hw) ?_
      fun _ _ hw => hw
    rintro now w ⟨hw, hrun⟩
    obtain ⟨-, rfl⟩ := Prod.mk.inj hrun
    exact ⟨hw₀.1, hw.2⟩
  show Triple _ (getIoc tenantId iocId >>= fun found => deactivateIoc rt found actorId >>= fun row =>
    pure (IocNotice.deactivated row)) _ _
  refine triple_bind (Q := fun row w => row ∈ w.session.stored .indicators ∧ Since rt n l w) ?_
    fun row => ?_
  · unfold getIoc
    refine triple_bind (Q := fun found w => (∀ row, found = some row →
      row ∈ w.session.stored .indicators) ∧ Since rt n l w) ?_ fun found => ?_
    · refine triple_selectOne (fun w hw _ => ⟨fun _ h => (by cases h), hw⟩) ?_ fun _ hw _ => hw.later
      intro w r hw hr _ _
      refine ⟨?_, hw⟩
      rintro _ ⟨⟩
      exact hr
    · cases found with
      | none => exact triple_raise fun _ hw => hw.2.later
      | some row => exact triple_pure fun _ hw => ⟨hw.1 row rfl, hw.2⟩
  · refine triple_bind (Q := fun row w => Since rt n (l.observe (.deactivated row)) w) ?_ fun row =>
      triple_pure fun _ hw => hw
    refine triple_bind (hread row) fun updatedAt => ?_
    refine triple_bind (hread row) fun deactivatedAt => ?_
    refine triple_bind (triple_update fun w hw => ?_) fun _ =>
      triple_bind since_flush fun _ => triple_pure fun _ hw => hw
    exact hw.2.deactivated hw.1 actorId updatedAt deactivatedAt

/-- Rows that have expired stop to be active, and their entries say no less. -/
theorem Since.expired (h : Since rt n l w) {now : DateTime} (hnow : now.wall ≤ (w.now rt).wall)
    {expired : List IndicatorOfCompromise} (hexpired : ∀ r ∈ expired, live now r = false) :
    Since rt n l { w with
      session := w.session.update .indicators fun r =>
        if expired.contains r then expiredRow now r else r } := by
  have hsame (r : IndicatorOfCompromise) :
      (if expired.contains r then expiredRow now r else r).id = r.id ∧
      iocKey (if expired.contains r then expiredRow now r else r) = iocKey r := by
    split <;> exact ⟨rfl, rfl⟩
  refine h.update hsame (h.mirrors.map (fun r _ => (hsame r).2) ?_ fun k e he => ⟨e, he⟩)
  intro r hr e he htracks
  refine ⟨e, he, ?_⟩
  split
  · rename_i hover
    have hwall : r.expiresAt.asUtc.wall ≤ now.wall := by
      have hnot := hexpired r (List.contains_iff_mem.mp hover)
      simpa [live] using hnot
    rw [htracks.expiresAt] at hwall
    exact ⟨⟨htracks.id, htracks.expiresAt, htracks.sightings⟩, (by simp [expiredRow]),
      fun _ => .inr (hwall.trans hnow)⟩
  · exact htracks

theorem expire_since (hclock : rt.AwareClock) (hsteady : SteadyClock rt) :
    Triple (Since rt n l) (expireStale rt tenantId) (fun _ => Since rt n l) (Later n) := by
  unfold expireStale
  refine triple_bind (since_utcnow hclock hsteady) fun now => ?_
  refine triple_bind (Q := fun _ w => (now.offset = some 0 ∧ now.wall ≤ (w.now rt).wall) ∧
    Since rt n l w) (triple_select fun _ hw => hw) fun rows => ?_
  refine triple_bind (Q := fun expired w => ((∀ r ∈ expired, live now r = false) ∧
    now.wall ≤ (w.now rt).wall) ∧ Since rt n l w) ?_ fun expired => ?_
  · refine triple_compute ?_ fun _ _ _ hw => hw.2.later
    intro expired w hexpired hw
    have hstale : ∀ r ∈ rows, stale now r = .ok (!live now r) := by
      intro r _
      unfold stale
      rw [unexpired_eq hw.1.1]
      rfl
    rw [Detection.filterRaising_eq hstale] at hexpired
    obtain rfl := Except.ok.inj hexpired
    refine ⟨⟨fun r hr => ?_, hw.1.2⟩, hw.2⟩
    simpa using (List.mem_filter.mp hr).2
  · refine triple_bind (Q := fun _ => Since rt n l) (triple_update fun w hw => ?_) fun _ => ?_
    · exact hw.2.expired hw.1.2 hw.1.1
    · split
      · exact triple_pure fun _ hw => hw
      · exact triple_bind since_flush fun _ => triple_pure fun _ hw => hw

/-- A row's id is among the hits of a candidate once, if the candidate hits the row. -/
theorem count_hits {rows : List IndicatorOfCompromise} (hids : (rows.map (·.id)).Nodup)
    {r : IndicatorOfCompromise} (hr : r ∈ rows) (p : IndicatorOfCompromise → Bool) :
    ((rows.filter p).map (·.id)).count r.id = if p r = true then 1 else 0 := by
  have hnodup : ((rows.filter p).map (·.id)).Nodup := hids.sublist (List.filter_sublist.map _)
  have hmem : r.id ∈ (rows.filter p).map (·.id) ↔ p r = true := by
    constructor
    · intro h
      obtain ⟨r', hr', hsame⟩ := List.mem_map.mp h
      obtain ⟨hr', hp⟩ := List.mem_filter.mp hr'
      rw [← List.inj_on_of_nodup_map hids hr' hr hsame]
      exact hp
    · exact fun hp => List.mem_map_of_mem (List.mem_filter.mpr ⟨hr, hp⟩)
  rw [hnodup.count]
  exact if_congr hmem rfl rfl

/-- A row is counted as often as its id is returned. -/
theorem count_sighted {rows : List IndicatorOfCompromise} (hids : (rows.map (·.id)).Nodup)
    {r : IndicatorOfCompromise} (hr : r ∈ rows) (hit : String → IndicatorOfCompromise → Bool)
    (candidates : List String) :
    (candidates.flatMap fun c => (rows.filter (hit c)).map (·.id)).count r.id =
      candidates.countP fun c => hit c r := by
  induction candidates with
  | nil => rfl
  | cons c candidates ih =>
      rw [List.flatMap_cons, List.count_append, ih, count_hits hids hr, List.countP_cons, Nat.add_comm]

/-- What being sighted leaves as it is. -/
theorem sightedBy_same {now : DateTime} (candidates : List String) (r : IndicatorOfCompromise) :
    iocKey (sightedBy rt tenantId now candidates r) = iocKey r ∧
      (sightedBy rt tenantId now candidates r).expiresAt = r.expiresAt ∧
      (sightedBy rt tenantId now candidates r).active = r.active := by
  induction candidates generalizing r with
  | nil => exact ⟨rfl, rfl, rfl⟩
  | cons c candidates ih =>
      rw [sightedBy_cons]
      obtain ⟨hkey, hexpires, hactive⟩ := ih (if hitBy rt tenantId now c r then sightedRow now r else r)
      rw [hkey, hexpires, hactive]
      split <;> exact ⟨rfl, rfl, rfl⟩

/-- Recording sightings leaves nothing to be written. -/
theorem recordSightings_written (hclock : rt.AwareClock) (event : CanonicalEvent)
    (hpending : w.session.pending = []) : ∃ s', recordSightings rt tenantId event w =
      (.ok ((sightingCandidates event).flatMap fun c =>
        ((w.session.stored .indicators).filter (hitBy rt tenantId (w.now rt) c)).map (·.id)),
          { w.tick with session := s' }) ∧
      s'.stored .indicators = (w.session.stored .indicators).map
        (sightedBy rt tenantId (w.now rt) (sightingCandidates event)) ∧ s'.pending = [] := by
  obtain ⟨s', hrun, hstored⟩ := @recordSightings_stored rt tenantId hclock event w hpending
  obtain ⟨matched, s₁, hrun₁, hsighted⟩ := recordSightings_run tenantId hclock event w
  have hnone : s₁.pending = [] := hsighted.pending.trans hpending
  have hsame : recordSightings rt tenantId event w = (.ok matched, { w.tick with session := s₁ }) := by
    rw [hrun₁]
    split
    · rfl
    · rw [bind_run, flush_run_of_pending_nil hnone]
      rfl
  rw [hrun] at hsame
  obtain ⟨-, hworld⟩ := Prod.mk.inj hsame
  have hsession : s' = s₁ := congrArg World.session hworld
  exact ⟨s', hrun, hstored, hsession ▸ hnone⟩

theorem sight_since (hclock : rt.AwareClock) (hsteady : SteadyClock rt) (event : CanonicalEvent) :
    Triple (Since rt n l) (recordSightings rt tenantId event)
      (fun ids => Since rt n (l.observe (.sighted ids))) (Later n) := by
  constructor
  intro w hw
  obtain ⟨s', hrun, hstored, hpending⟩ := @recordSightings_written rt tenantId w hclock event hw.pending
  have hids : ((w.session.stored .indicators).map (·.id)).Nodup := hw.keyed.nodup
  have hkeys := fun r => (@sightedBy_same rt tenantId (w.now rt) (sightingCandidates event) r).1
  have hcounts := @sightedBy_counts rt tenantId (w.now rt) (sightingCandidates event)
  rw [hrun]
  refine ⟨⟨hpending, ?_, ?_⟩, hw.later.trans (Nat.le_succ _)⟩
  · rw [hstored]
    exact keyed_map hw.keyed fun r => ⟨(hcounts r).1, hkeys r⟩
  · rw [hstored]
    refine hw.mirrors.map (fun r _ => hkeys r) ?_ ?_
    · intro r hr e he htracks
      have hlater : Tracks (w.tick.now rt).wall r e := htracks.mono (hsteady _)
      obtain ⟨-, hexpires, hactive⟩ :=
        @sightedBy_same rt tenantId (w.now rt) (sightingCandidates event) r
      refine ⟨_, congrArg (Option.map _) he, ⟨?_, ?_, ?_⟩, ?_, ?_⟩
      · exact (hcounts r).1.trans htracks.id
      · exact hexpires.trans htracks.expiresAt
      · rw [(hcounts r).2, ← count_sighted hids hr (hitBy rt tenantId (w.now rt)), htracks.id,
          htracks.sightings]
        rfl
      · rw [hactive]
        exact hlater.on
      · rw [hactive]
        exact hlater.off
    · intro k e he
      obtain ⟨e₀, he₀, -⟩ := Option.map_eq_some_iff.mp he
      exact ⟨e₀, he₀⟩

theorem body_since (hclock : rt.AwareClock) (hsteady : SteadyClock rt) (call : IocCall) :
    Triple (Since rt n l) (call.body rt tenantId) (fun notice => Since rt n (l.observe notice))
      (Later n) := by
  cases call with
  | upsert req =>
      exact triple_bind (upsertIoc_since hclock hsteady req) fun _ => triple_pure fun _ hw => hw
  | deactivate iocId actorId => exact deactivate_since hclock hsteady iocId actorId
  | expire => exact triple_bind (expire_since hclock hsteady) fun _ => triple_pure fun _ hw => hw
  | sight event =>
      exact triple_bind (sight_since hclock hsteady event) fun _ => triple_pure fun _ hw => hw

/-- A call keeps the rows with the watchlist, whether it returns or raises. -/
theorem step_follows (hclock : rt.AwareClock) (hsteady : SteadyClock rt) {d : Lookout}
    (h : Follows rt d.watchlist d.world) (call : String × IocCall) :
    Follows rt (d.step rt call).watchlist (d.step rt call).world := by
  have hbody : Triple (Since rt d.world.ticks.readings d.watchlist)
      (call.2.body rt call.1 >>= fun notice => flush >>= fun _ => pure notice)
      (fun notice => Since rt d.world.ticks.readings (d.watchlist.observe notice))
      (Later d.world.ticks.readings) :=
    triple_bind (body_since hclock hsteady call.2) fun _ =>
      triple_bind since_flush fun _ => triple_pure fun _ hw => hw
  unfold Lookout.step request
  rcases hrun : (call.2.body rt call.1 >>= fun notice => flush >>= fun _ =>
    (pure notice : Service _)) d.world with ⟨⟨e⟩ | ⟨notice⟩, w⟩
  · exact h.later hsteady (hbody.error ⟨h, le_refl _⟩ hrun)
  · exact (hbody.ok ⟨h, le_refl _⟩ hrun).toFollows

/-! ### What the service says -/

/-- A row is listed as active exactly if its entry stands on the list. -/
theorem Tracks.standing_iff {now : DateTime} {r : IndicatorOfCompromise} {e : IocState}
    (h : Tracks now.wall r e) : r.active = true ∧ live now r = true ↔
      e.on = true ∧ now.wall < e.expiresAt.asUtc.wall := by
  have hlive : live now r = true ↔ now.wall < e.expiresAt.asUtc.wall := by
    simp [live, h.expiresAt]
  rw [hlive]
  constructor
  · rintro ⟨hactive, hwall⟩
    exact ⟨h.on hactive, hwall⟩
  · rintro ⟨hon, hwall⟩
    rcases h.off hon with hactive | hover
    · exact ⟨hactive, hwall⟩
    · exact absurd hwall (not_lt.mpr hover)

theorem listIocs_run (hclock : rt.AwareClock) (tenantId : String) (w : World) :
    listIocs rt tenantId w = (.ok (w.iocs tenantId (w.now rt)), w.tick) := by
  have hlive := fun rows : List IndicatorOfCompromise =>
    Detection.filterRaising_eq fun row (_ : row ∈ rows) => unexpired_eq (hclock w.ticks.readings) row
  simp only [listIocs, select, bind_run, gets, andThen, draw_utcnow_run, World.now, compute, hlive,
    lift, Except.mapError, Bool.and_true]
  rfl

theorem listAllIocs_run (tenantId : String) (w : World) : listAllIocs tenantId w =
    (.ok ((w.rowsOf .indicators tenantId).insertionSort
      fun a b => b.updatedAt.wall ≤ a.updatedAt.wall), w) := by
  simp only [listAllIocs, select, bind_run, gets, andThen, Bool.and_true]
  rfl

/-- The rows of a part of the table mirror that part of the watchlist. -/
theorem Follows.part (h : Follows rt l w) {q : IocKey → IocState → Bool}
    {rows : List IndicatorOfCompromise} (hnodup : rows.Nodup) {p : IndicatorOfCompromise → Bool}
    (hmem : ∀ r, r ∈ rows ↔ r ∈ w.session.stored .indicators ∧ p r = true)
    (hpq : ∀ r e, Tracks (w.now rt).wall r e → p r = q (iocKey r) e) :
    Mirrors iocKey Shows rows fun k => (l k).filter (q k) :=
  (h.mirrors.filter (fun r e _ => hpq r e) hnodup hmem).mono fun _ _ _ htracks => htracks.toShows

theorem Follows.watches (hclock : rt.AwareClock) (tenantId : String) {d : Lookout}
    (h : Follows rt d.watchlist d.world) : Watches rt tenantId d := by
  have hnodup : (d.world.session.stored .indicators).Nodup := h.keyed.nodup.of_map _
  have hsorted : ((d.world.rowsOf .indicators tenantId).insertionSort
      fun a b : IndicatorOfCompromise => b.updatedAt.wall ≤ a.updatedAt.wall).Nodup :=
    (List.perm_insertionSort _ _).nodup_iff.mpr (hnodup.filter _)
  refine ⟨⟨_, congrArg Prod.fst (listIocs_run hclock tenantId d.world), ?_⟩,
    ⟨_, congrArg Prod.fst (listAllIocs_run tenantId d.world), ?_⟩, fun event => ?_⟩
  · refine h.part ((hsorted.filter _).filter _) (p := fun r =>
      r.tenantId = tenantId && r.active && live (d.world.now rt) r) (fun r => ?_) ?_
    · rw [World.mem_iocs]
      simp [and_assoc]
    · intro r e htracks
      have hstanding := htracks.standing_iff
      rw [Bool.eq_iff_iff]
      simp only [Bool.and_eq_true, decide_eq_true_eq, and_assoc, hstanding]
      rfl
  · refine h.part hsorted (p := fun r => r.tenantId = tenantId) (fun r => ?_) fun _ _ _ => rfl
    rw [(List.perm_insertionSort _ _).mem_iff, World.mem_rowsOf]
    simp [Table.tenantId]
  · obtain ⟨s', hrun, -, -⟩ := @recordSightings_written rt tenantId d.world hclock event h.pending
    refine ⟨_, congrArg Prod.fst hrun, fun id => ?_⟩
    simp only [List.mem_flatMap, List.mem_map, List.mem_filter, hitBy_iff]
    constructor
    · rintro ⟨c, hc, r, ⟨hr, htenant, hspells, hstands⟩, rfl⟩
      obtain ⟨e, he, htracks⟩ := h.mirrors.shown r hr
      obtain ⟨hon, hwall⟩ := htracks.standing_iff.mp hstands
      refine ⟨iocKey r, e, Option.filter_eq_some_iff.mpr ⟨he, ?_⟩, htracks.id.symm, c, hc, hspells⟩
      simp [iocKey, htenant, hon, hwall]
    · rintro ⟨k, e, hstanding, rfl, c, hc, hspells⟩
      obtain ⟨he, hstands⟩ := Option.filter_eq_some_iff.mp hstanding
      obtain ⟨r, hr, rfl, htracks⟩ := h.mirrors.row he
      simp only [Bool.and_eq_true, decide_eq_true_eq, and_assoc] at hstands
      exact ⟨c, hc, r, ⟨hr, hstands.1, hspells, htracks.standing_iff.mpr hstands.2⟩, htracks.id⟩

end

/-- Over all histories of calls, by whatever tenants, that store, deactivate, expire and sight
indicators, what the service then lists as active, lists at all and counts as a sighting is what
its replies have said: an indicator is active until it is deactivated or its time is over. -/
theorem watchlist_kept (rt : Runtime) (hclock : rt.AwareClock) (hsteady : SteadyClock rt)
    (start : World) (hpending : start.session.pending = [])
    (hkeyed : schema.Keyed (start.session.stored .indicators)) (calls : List (String × IocCall))
    (tenantId : String) :
    Watches rt tenantId (Machine.run (Lookout.step rt) (Lookout.opening start) calls) := by
  have hopening : Follows rt (Lookout.opening start).watchlist start := by
    refine ⟨hpending, hkeyed, Mirrors.of_rows (iocKey_nodup hkeyed) fun r _ => ?_⟩
    exact ⟨⟨rfl, rfl, rfl⟩, fun h => h, fun h => .inl h⟩
  exact (Machine.run_inv (fun d : Lookout => Follows rt d.watchlist d.world)
    (fun _ call hd => step_follows hclock hsteady hd call) hopening calls).watches hclock tenantId

/-! ### Samples -/

/-- An indicator is stored, sighted and deactivated. -/
def evilCalls : List (String × IocCall) :=
  [("ten_a", .upsert evilDomain), ("ten_a", .sight (lookupOf "evil.example")),
    ("ten_a", .deactivate "ioc_0" "usr_1")]

theorem watchlist_kept_evil :
    Watches sampleRuntime "ten_a"
      (Machine.run (Lookout.step sampleRuntime) (Lookout.opening emptyWorld) evilCalls) := by
  refine watchlist_kept sampleRuntime (fun _ => rfl) (fun n => ?_) emptyWorld rfl ?_ evilCalls "ten_a"
  · show (63839761325000000 : Int) + n ≤ 63839761325000000 + (n + 1 : Nat)
    omega
  · exact List.Pairwise.nil

end BlueTeam.Services
