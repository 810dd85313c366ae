/- GID: BlueTeam/Lib/Store
   generality: G
   digest: A multi-tenant database behind a session that flushes only on request. -/

import Mathlib.Data.List.Basic

set_option autoImplicit false
set_option relaxedAutoImplicit false

namespace BlueTeam.Lib

/-- The tables of a database. Every row has a primary key and a tenant; a unique constraint, where
a table has one, is on the tenant and the columns `unique` (absent when one of them is null). -/
structure Schema where
  Table : Type
  [decidableTable : DecidableEq Table]
  Row : Table → Type
  key : {t : Table} → Row t → String
  tenant : {t : Table} → Row t → String
  unique : {t : Table} → Row t → Option (List String)

attribute [instance] Schema.decidableTable

namespace Schema

variable {S : Schema}

/-- A row together with the table it goes to. -/
abbrev Entry (S : Schema) : Type :=
  (t : S.Table) × S.Row t

/-- Two rows that the unique constraint of their table does not allow together. -/
def Clash {t : S.Table} (r r' : S.Row t) : Prop :=
  S.tenant r = S.tenant r' ∧ S.unique r = S.unique r' ∧ (S.unique r).isSome

instance {t : S.Table} (r r' : S.Row t) : Decidable (S.Clash r r') :=
  inferInstanceAs (Decidable (_ ∧ _ ∧ _))

/-- Rows that the constraints of their table allow together. -/
def Keyed {t : S.Table} (rows : List (S.Row t)) : Prop :=
  rows.Pairwise fun r r' => S.key r ≠ S.key r' ∧ ¬ S.Clash r r'

/-- Rows whose keys and constrained columns stay are allowed together as before. -/
theorem Keyed.map {t : S.Table} {rows : List (S.Row t)} (h : S.Keyed rows)
    {f : S.Row t → S.Row t} (hf : ∀ r, S.key (f r) = S.key r ∧ S.tenant (f r) = S.tenant r ∧
      S.unique (f r) = S.unique r) : S.Keyed (rows.map f) := by
  refine List.pairwise_map.mpr (h.imp fun {a b} hab => ?_)
  obtain ⟨hkeyA, htenantA, huniqueA⟩ := hf a
  obtain ⟨hkeyB, htenantB, huniqueB⟩ := hf b
  unfold Clash
  rw [hkeyA, hkeyB, htenantA, htenantB, huniqueA, huniqueB]
  exact hab

theorem Keyed.nodup {t : S.Table} {rows : List (S.Row t)} (h : S.Keyed rows) :
    (rows.map S.key).Nodup :=
  List.pairwise_map.mpr (h.imp fun hab => hab.1)

/-- Where no two matching rows may be together, a matching row is the only one. -/
theorem filter_eq_singleton {α : Type} {R : α → α → Prop} {rows : List α} {p : α → Bool} {row : α}
    (hrows : rows.Pairwise R) (hrow : row ∈ rows) (hp : p row = true)
    (hne : ∀ r ∈ rows, p r = true → ¬ R r row ∧ ¬ R row r) : rows.filter p = [row] := by
  induction hrows with
  | nil => cases hrow
  | @cons a as ha _ ih =>
      by_cases hpa : p a = true
      · have has : as.filter p = [] := by
          refine List.filter_eq_nil_iff.mpr fun b hb hpb => ?_
          rcases List.mem_cons.mp hrow with rfl | hrow
          · exact (hne b (List.mem_cons_of_mem _ hb) hpb).2 (ha b hb)
          · exact (hne a List.mem_cons_self hpa).1 (ha row hrow)
        rcases List.mem_cons.mp hrow with rfl | hrow
        · rw [List.filter_cons_of_pos hpa, has]
        · have hnone := List.filter_eq_nil_iff.mp has row hrow
          exact absurd hp hnone
      · have hne' : row ≠ a := by
          rintro rfl
          exact hpa hp
        rw [List.filter_cons_of_neg hpa]
        refine ih ((List.mem_cons.mp hrow).resolve_left hne') ?_
        intro r hr
        exact hne r (List.mem_cons_of_mem _ hr)

/-- The row of an entry, when the entry goes to table `t`. -/
def ofTable (t : S.Table) (e : S.Entry) : Option (S.Row t) :=
  if h : e.1 = t then some (h ▸ e.2) else none

@[simp] theorem ofTable_self {t : S.Table} (r : S.Row t) : ofTable t ⟨t, r⟩ = some r := by
  simp [ofTable]

@[simp] theorem ofTable_of_ne {t u : S.Table} (h : u ≠ t) (r : S.Row u) :
    ofTable t (⟨u, r⟩ : S.Entry) = none := by
  simp [ofTable, h]

theorem ofTable_eq_some {t : S.Table} {e : S.Entry} {r : S.Row t} :
    ofTable t e = some r ↔ e = ⟨t, r⟩ := by
  obtain ⟨u, x⟩ := e
  by_cases h : u = t
  · subst h
    simp
  · simp [ofTable, h]

end Schema

/-- What the tables hold, each in insertion order. -/
def Database (S : Schema) : Type :=
  (t : S.Table) → List (S.Row t)

inductive Conflict (S : Schema)
  | primaryKey (t : S.Table)
  | unique (t : S.Table)
  deriving DecidableEq

/-- The rows of a table that were to be together are in conflict. -/
def Conflict.Among {S : Schema} (rows : (t : S.Table) → List (S.Row t)) : Conflict S → Prop
  | .primaryKey t => ¬ (rows t).Pairwise fun r r' => S.key r ≠ S.key r'
  | .unique t => ¬ (rows t).Pairwise fun r r' => ¬ S.Clash r r'

namespace Database

variable {S : Schema}

def empty : Database S :=
  fun _ => []

def set (db : Database S) (t : S.Table) (rows : List (S.Row t)) : Database S :=
  fun u => if h : t = u then h ▸ rows else db u

@[simp] theorem set_self (db : Database S) (t : S.Table) (rows : List (S.Row t)) :
    db.set t rows t = rows := by
  simp [set]

@[simp] theorem set_of_ne {db : Database S} {t u : S.Table} (h : t ≠ u) (rows : List (S.Row t)) :
    db.set t rows u = db u := by
  simp [set, h]

/-- An `INSERT`: refused when the key is taken or the unique constraint is broken. -/
def insert (db : Database S) (e : S.Entry) : Except (Conflict S) (Database S) :=
  if (db e.1).any (fun r => S.key r == S.key e.2) then .error (.primaryKey e.1)
  else if (db e.1).any (fun r => S.Clash r e.2) then .error (.unique e.1)
  else .ok (db.set e.1 (db e.1 ++ [e.2]))

def insertAll (db : Database S) : List S.Entry → Except (Conflict S) (Database S)
  | [] => .ok db
  | e :: es =>
      match db.insert e with
      | .ok db' => db'.insertAll es
      | .error c => .error c

theorem insert_ok {db db' : Database S} {e : S.Entry} (h : db.insert e = .ok db') :
    (∀ r ∈ db e.1, S.key r ≠ S.key e.2) ∧ (∀ r ∈ db e.1, ¬ S.Clash r e.2) ∧
      ∀ t, db' t = db t ++ (S.ofTable t e).toList := by
  unfold insert at h
  split at h
  · cases h
  · rename_i hk
    split at h
    · cases h
    · rename_i hu
      obtain rfl := Except.ok.inj h
      refine ⟨by simpa using hk, by simpa using hu, ?_⟩
      intro t
      by_cases ht : e.1 = t
      · subst ht
        simp [Schema.ofTable]
      · simp [Schema.ofTable, ht]

theorem insertAll_ok {db db' : Database S} {es : List S.Entry} (h : db.insertAll es = .ok db')
    (t : S.Table) : db' t = db t ++ es.filterMap (S.ofTable t) := by
  induction es generalizing db with
  | nil =>
      obtain rfl := Except.ok.inj h
      simp
  | cons e es ih =>
      simp only [insertAll] at h
      split at h
      · rename_i db₁ h₁
        rw [ih h, (insert_ok h₁).2.2 t]
        cases he : S.ofTable t e <;> simp [he]
      · cases h

theorem insert_keyed {db db' : Database S} {e : S.Entry} {t : S.Table} (hdb : S.Keyed (db t))
    (h : db.insert e = .ok db') : S.Keyed (db' t) := by
  obtain ⟨hk, hu, hrows⟩ := insert_ok h
  rw [hrows t]
  unfold Schema.Keyed
  rw [List.pairwise_append]
  refine ⟨hdb, by cases S.ofTable t e <;> simp, ?_⟩
  intro r hr x hx
  obtain rfl := Schema.ofTable_eq_some.mp (Option.mem_toList.mp hx)
  exact ⟨hk r hr, hu r hr⟩

theorem insertAll_keyed {db db' : Database S} {es : List S.Entry} {t : S.Table}
    (hdb : S.Keyed (db t)) (h : db.insertAll es = .ok db') : S.Keyed (db' t) := by
  induction es generalizing db with
  | nil =>
      obtain rfl := Except.ok.inj h
      exact hdb
  | cons e es ih =>
      simp only [insertAll] at h
      split at h
      · rename_i db₁ h₁
        exact ih (insert_keyed hdb h₁) h
      · cases h

theorem insert_of_apart {db : Database S} {e : S.Entry}
    (h : ∀ r ∈ db e.1, S.key r ≠ S.key e.2 ∧ ¬ S.Clash r e.2) :
    db.insert e = .ok (db.set e.1 (db e.1 ++ [e.2])) := by
  have hkey : ¬ (db e.1).any (fun r => S.key r == S.key e.2) = true := by
    intro hany
    obtain ⟨r, hr, hsame⟩ := List.any_eq_true.mp hany
    exact (h r hr).1 (beq_iff_eq.mp hsame)
  have hclash : ¬ (db e.1).any (fun r => S.Clash r e.2) = true := by
    intro hany
    obtain ⟨r, hr, hsame⟩ := List.any_eq_true.mp hany
    exact (h r hr).2 (of_decide_eq_true hsame)
  unfold insert
  rw [if_neg hkey, if_neg hclash]

/-- One row for each of some tables, none in conflict with what is there. -/
theorem insertAll_of_apart {db : Database S} {es : List S.Entry} (htables : (es.map (·.1)).Nodup)
    (h : ∀ e ∈ es, ∀ r ∈ db e.1, S.key r ≠ S.key e.2 ∧ ¬ S.Clash r e.2) :
    ∃ db', db.insertAll es = .ok db' := by
  induction es generalizing db with
  | nil => exact ⟨db, rfl⟩
  | cons e es ih =>
      rw [List.map_cons] at htables
      obtain ⟨hfirst, hrest⟩ := List.nodup_cons.mp htables
      have hinsert := insert_of_apart (h e List.mem_cons_self)
      have hstored : ∀ e' ∈ es, ∀ r ∈ db.set e.1 (db e.1 ++ [e.2]) e'.1,
          S.key r ≠ S.key e'.2 ∧ ¬ S.Clash r e'.2 := by
        intro e' he' r hr
        have hne : e.1 ≠ e'.1 := by
          intro hsame
          exact hfirst (List.mem_map.mpr ⟨e', he', hsame.symm⟩)
        rw [set_of_ne hne] at hr
        exact h e' (List.mem_cons_of_mem _ he') r hr
      obtain ⟨db', hdb'⟩ := ih hrest hstored
      refine ⟨db', ?_⟩
      rw [insertAll, hinsert]
      exact hdb'

/-- A refused `INSERT` names two rows that were to be together. -/
theorem insertAll_error {db : Database S} {es : List S.Entry} {c : Conflict S}
    (h : db.insertAll es = .error c) : c.Among fun t => db t ++ es.filterMap (S.ofTable t) := by
  induction es generalizing db with
  | nil => cases h
  | cons e es ih =>
      simp only [insertAll] at h
      split at h
      · rename_i db₁ h₁
        have hc := ih h
        have hrows : (fun t => db₁ t ++ es.filterMap (S.ofTable t)) =
            fun t => db t ++ (e :: es).filterMap (S.ofTable t) := by
          funext t
          rw [(insert_ok h₁).2.2 t]
          cases he : S.ofTable t e <;> simp [he]
        rwa [hrows] at hc
      · rename_i c' h₁
        obtain rfl := Except.error.inj h
        obtain ⟨t, r⟩ := e
        unfold insert at h₁
        split at h₁
        · rename_i hk
          obtain rfl := Except.error.inj h₁
          obtain ⟨x, hx, hkey⟩ := List.any_eq_true.mp hk
          intro hp
          exact (List.pairwise_append.mp hp).2.2 x hx r (by simp) (by simpa using hkey)
        · split at h₁
          · rename_i hu
            obtain rfl := Except.error.inj h₁
            obtain ⟨x, hx, hclash⟩ := List.any_eq_true.mp hu
            intro hp
            exact (List.pairwise_append.mp hp).2.2 x hx r (by simp) (by simpa using hclash)
          · cases h₁

end Database

/-- A session: the rows a `SELECT` sees, and the rows added but not flushed yet. -/
structure Session (S : Schema) where
  stored : Database S
  pending : List S.Entry

namespace Session

variable {S : Schema}

def add (s : Session S) {t : S.Table} (r : S.Row t) : Session S :=
  { s with pending := s.pending ++ [⟨t, r⟩] }

/-- Write the pending rows, in the order they were added. -/
def flush (s : Session S) : Except (Conflict S) (Session S) :=
  match s.stored.insertAll s.pending with
  | .ok db => .ok { stored := db, pending := [] }
  | .error c => .error c

/-- A change of rows that are loaded; a reader of the same session sees it at once. -/
def update (s : Session S) (t : S.Table) (f : S.Row t → S.Row t) : Session S :=
  { s with stored := s.stored.set t ((s.stored t).map f) }

def delete (s : Session S) (t : S.Table) (p : S.Row t → Bool) : Session S :=
  { s with stored := s.stored.set t ((s.stored t).filter fun r => !p r) }

/-- The pending rows of one table. -/
def pendingOf (s : Session S) (t : S.Table) : List (S.Row t) :=
  s.pending.filterMap (S.ofTable t)

/-- The rows of a table, flushed or not. -/
def all (s : Session S) (t : S.Table) : List (S.Row t) :=
  s.stored t ++ s.pendingOf t

@[simp] theorem add_stored (s : Session S) {t : S.Table} (r : S.Row t) :
    (s.add r).stored = s.stored := rfl

@[simp] theorem add_pendingOf_self (s : Session S) {t : S.Table} (r : S.Row t) :
    (s.add r).pendingOf t = s.pendingOf t ++ [r] := by
  simp [add, pendingOf]

@[simp] theorem add_pendingOf_of_ne (s : Session S) {t u : S.Table} (h : t ≠ u) (r : S.Row t) :
    (s.add r).pendingOf u = s.pendingOf u := by
  simp [add, pendingOf, h]

@[simp] theorem add_all_self (s : Session S) {t : S.Table} (r : S.Row t) :
    (s.add r).all t = s.all t ++ [r] := by
  simp [all]

@[simp] theorem add_all_of_ne (s : Session S) {t u : S.Table} (h : t ≠ u) (r : S.Row t) :
    (s.add r).all u = s.all u := by
  simp [all, h]

@[simp] theorem update_stored_of_ne (s : Session S) {t u : S.Table} (h : t ≠ u)
    (f : S.Row t → S.Row t) : (s.update t f).stored u = s.stored u :=
  Database.set_of_ne h _

@[simp] theorem update_stored_self (s : Session S) (t : S.Table) (f : S.Row t → S.Row t) :
    (s.update t f).stored t = (s.stored t).map f :=
  Database.set_self _ _ _

/-- A change that leaves every row as it is. -/
theorem update_eq_self (s : Session S) {t : S.Table} {f : S.Row t → S.Row t}
    (h : ∀ r ∈ s.stored t, f r = r) : s.update t f = s := by
  have hrows : s.stored.set t ((s.stored t).map f) = s.stored := by
    funext u
    by_cases hu : t = u
    · subst hu
      rw [Database.set_self, List.map_congr_left h, List.map_id']
    · exact Database.set_of_ne hu _
  unfold update
  rw [hrows]

@[simp] theorem update_pendingOf (s : Session S) (t u : S.Table) (f : S.Row t → S.Row t) :
    (s.update t f).pendingOf u = s.pendingOf u := rfl

@[simp] theorem delete_stored_of_ne (s : Session S) {t u : S.Table} (h : t ≠ u)
    (p : S.Row t → Bool) : (s.delete t p).stored u = s.stored u :=
  Database.set_of_ne h _

@[simp] theorem delete_stored_self (s : Session S) (t : S.Table) (p : S.Row t → Bool) :
    (s.delete t p).stored t = (s.stored t).filter fun r => !p r :=
  Database.set_self _ _ _

@[simp] theorem delete_pendingOf (s : Session S) (t u : S.Table) (p : S.Row t → Bool) :
    (s.delete t p).pendingOf u = s.pendingOf u := rfl

@[simp] theorem update_all_of_ne (s : Session S) {t u : S.Table} (h : t ≠ u)
    (f : S.Row t → S.Row t) : (s.update t f).all u = s.all u := by
  simp [all, h]

@[simp] theorem delete_all_of_ne (s : Session S) {t u : S.Table} (h : t ≠ u)
    (p : S.Row t → Bool) : (s.delete t p).all u = s.all u := by
  simp [all, h]

theorem flush_ok {s s' : Session S} (h : s.flush = .ok s') :
    s'.pending = [] ∧ ∀ t, s'.stored t = s.all t := by
  unfold flush at h
  split at h
  · rename_i db hdb
    obtain rfl := Except.ok.inj h
    exact ⟨rfl, fun t => Database.insertAll_ok hdb t⟩
  · cases h

/-- There is nothing to write. -/
theorem flush_of_pending_nil {s : Session S} (h : s.pending = []) : s.flush = .ok s := by
  obtain ⟨stored, pending⟩ := s
  subst h
  rfl

/-- One row for each of some tables waits, none in conflict with what is stored. -/
theorem flush_of_apart {s : Session S} (htables : (s.pending.map (·.1)).Nodup)
    (h : ∀ e ∈ s.pending, ∀ r ∈ s.stored e.1, S.key r ≠ S.key e.2 ∧ ¬ S.Clash r e.2) :
    ∃ s', s.flush = .ok s' := by
  obtain ⟨db, hdb⟩ := Database.insertAll_of_apart htables h
  refine ⟨{ stored := db, pending := [] }, ?_⟩
  unfold flush
  rw [hdb]

theorem flush_all {s s' : Session S} (h : s.flush = .ok s') (t : S.Table) :
    s'.all t = s.all t := by
  obtain ⟨hp, hs⟩ := flush_ok h
  simp [all, pendingOf, hp, hs t]

theorem flush_keyed {s s' : Session S} {t : S.Table} (hs : S.Keyed (s.stored t))
    (h : s.flush = .ok s') : S.Keyed (s'.stored t) := by
  unfold flush at h
  split at h
  · rename_i db hdb
    obtain rfl := Except.ok.inj h
    exact Database.insertAll_keyed hs hdb
  · cases h

/-- A flush fails only on a conflict among the rows that are to be together. -/
theorem flush_error {s : Session S} {c : Conflict S} (h : s.flush = .error c) :
    c.Among s.all := by
  unfold flush at h
  split at h
  · cases h
  · rename_i c' hc
    obtain rfl := Except.error.inj h
    exact Database.insertAll_error hc

end Session

end BlueTeam.Lib
