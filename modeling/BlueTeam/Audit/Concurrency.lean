/- GID: BlueTeam/Audit/Concurrency
   generality: I
   source: services/api/app/services/audit.py
   digest: Concurrent audit writers under READ COMMITTED with a unique sequence column. -/

import BlueTeam.Audit.Log
import Mathlib.Data.Fintype.Basic
import Mathlib.Logic.Function.Basic

set_option autoImplicit false
set_option relaxedAutoImplicit false

namespace BlueTeam.Audit

open BlueTeam.Lib.HashChain

/-- Where a transaction stands inside `write_audit`. -/
inductive Phase
  | idle
  | sequenced (entry : AuditEntry) (sequence : Int)
  | ready (entry : AuditEntry) (sequence : Int) (previous : String)

/-- An open transaction: its position and the rows it has flushed but not committed. -/
structure Transaction where
  phase : Phase := .idle
  own : List AuditLog := []

structure Database (ι : Type) where
  committed : List AuditLog := []
  transactions : ι → Transaction := fun _ => {}

inductive Action (ι : Type)
  | readSequence (i : ι) (entry : AuditEntry)
  | readHash (i : ι)
  | insert (i : ι) (id timestamp : String)
  | commit (i : ι)
  | rollback (i : ι)

section Step

variable {ι : Type} [DecidableEq ι]

/-- What a query of transaction `i` sees under READ COMMITTED. -/
def Database.visible (db : Database ι) (i : ι) : List AuditLog :=
  db.committed ++ (db.transactions i).own

def Database.set (db : Database ι) (i : ι) (tx : Transaction) : Database ι :=
  { db with transactions := Function.update db.transactions i tx }

variable [Fintype ι]

/-- One step of one transaction; `none` where the transaction is elsewhere or has to wait. -/
def Database.step (db : Database ι) : Action ι → Option (Database ι)
  | .readSequence i entry =>
      match (db.transactions i).phase with
      | .idle => some (db.set i
          { db.transactions i with phase := .sequenced entry (nextSequence (db.visible i)) })
      | _ => none
  | .readHash i =>
      match (db.transactions i).phase with
      | .sequenced entry sequence => some (db.set i
          { db.transactions i with phase := .ready entry sequence (latestHash (db.visible i)) })
      | _ => none
  | .insert i id timestamp =>
      match (db.transactions i).phase with
      | .ready entry sequence previous =>
          -- a unique violation aborts the whole transaction
          if sequence ∈ (db.visible i).map (·.sequence) then some (db.set i {})
          -- a row that another transaction has not committed yet makes the insert wait
          else if ∃ j, j ≠ i ∧ sequence ∈ (db.transactions j).own.map (·.sequence) then none
          else some (db.set i
            { own := (db.transactions i).own ++ [newRecord id timestamp sequence previous entry] })
      | _ => none
  | .commit i =>
      match (db.transactions i).phase with
      | .idle => some { db.set i {} with committed := db.visible i }
      | _ => none
  | .rollback i => some (db.set i {})

def Database.run (db : Database ι) : List (Action ι) → Option (Database ι)
  | [] => some db
  | action :: actions =>
      match db.step action with
      | none => none
      | some next => next.run actions

end Step

/-- A well-formed log: linked from the genesis hash and numbered `1, 2, …` in order. -/
structure Chain (rows : List AuditLog) : Prop where
  linked : auditScheme.Linked genesisHash rows
  numbered : rows.map (·.sequence) = (List.range rows.length).map (fun k : Nat => (k : Int) + 1)

theorem chain_nil : Chain [] := ⟨trivial, rfl⟩

theorem Chain.of_append {l m : List AuditLog} (h : Chain (l ++ m)) : Chain l := by
  refine ⟨((linked_append l m).mp h.linked).1, ?_⟩
  have numbered := congrArg (List.take l.length) h.numbered
  simpa [← List.map_take, List.take_range] using numbered

theorem Chain.mem_sequence {rows : List AuditLog} (h : Chain rows) (s : Int) :
    s ∈ rows.map (·.sequence) ↔ 1 ≤ s ∧ s ≤ rows.length := by
  rw [h.numbered]
  constructor
  · intro hs
    obtain ⟨k, hk, rfl⟩ := List.mem_map.mp hs
    have := List.mem_range.mp hk
    omega
  · rintro ⟨low, high⟩
    refine List.mem_map.mpr ⟨(s - 1).toNat, List.mem_range.mpr ?_, ?_⟩ <;> omega

theorem Chain.nextSequence_eq {rows : List AuditLog} (h : Chain rows) :
    nextSequence rows = rows.length + 1 := by
  unfold nextSequence
  cases hmax : (rows.map (·.sequence)).max? with
  | none =>
      have empty : rows = [] := by simpa using hmax
      simp [empty]
  | some current =>
      have greatest := List.max?_eq_some_iff.mp hmax
      have bounds := (h.mem_sequence current).mp greatest.1
      have last : (rows.length : Int) ∈ rows.map (·.sequence) :=
        (h.mem_sequence _).mpr ⟨by omega, le_rfl⟩
      have := greatest.2 _ last
      simp only
      omega

theorem Chain.last_sequence {rows : List AuditLog} {r : AuditLog} (h : Chain (rows ++ [r])) :
    r.sequence = rows.length + 1 := by
  have numbered := congrArg List.getLast? h.numbered
  simpa [List.range_succ] using numbered

theorem latestRow_concat (rows : List AuditLog) (row : AuditLog) :
    latestRow (rows ++ [row]) = laterRow (latestRow rows) row := by
  unfold latestRow
  rw [List.foldl_append]
  rfl

theorem latestRow_mem {rows : List AuditLog} {row : AuditLog} (h : latestRow rows = some row) :
    row ∈ rows := by
  induction rows using List.reverseRecOn generalizing row with
  | nil => cases h
  | append_singleton rows r ih =>
      rw [latestRow_concat] at h
      cases hrows : latestRow rows with
      | none =>
          rw [hrows] at h
          simp [Option.some.inj h]
      | some b =>
          rw [hrows] at h
          unfold laterRow at h
          dsimp only at h
          split at h
          · simp [Option.some.inj h]
          · exact List.mem_append_left _ (ih (hrows.trans h))

theorem Chain.latestHash_eq {rows : List AuditLog} (h : Chain rows) :
    latestHash rows = auditScheme.tip genesisHash rows := by
  induction rows using List.reverseRecOn with
  | nil => rfl
  | append_singleton rows r _ =>
      have greatest : latestRow (rows ++ [r]) = some r := by
        rw [latestRow_concat]
        cases hmax : latestRow rows with
        | none => rfl
        | some c =>
            have member : c.sequence ∈ rows.map (·.sequence) :=
              List.mem_map_of_mem (latestRow_mem hmax)
            have bound := ((h.of_append).mem_sequence _).mp member
            have last := h.last_sequence
            exact if_pos (by omega)
      obtain ⟨-, -, hrecord⟩ := (linked_concat rows r).mp h.linked
      have nonempty : r.recordHash ≠ "" := by
        change r.recordHash = chainedHash _ _ at hrecord
        rw [hrecord]
        exact sha256Hex_ne_empty _
      rw [tip_concat]
      simp [latestHash, greatest, nonempty, auditScheme]

theorem Chain.concat {rows : List AuditLog} (h : Chain rows) (id timestamp : String)
    (entry : AuditEntry) :
    Chain (rows ++ [newRecord id timestamp (rows.length + 1)
      (auditScheme.tip genesisHash rows) entry]) := by
  refine ⟨(linked_concat _ _).mpr ⟨h.linked, rfl, rfl⟩, ?_⟩
  simp [h.numbered, List.range_succ, newRecord]

theorem Chain.verify {rows : List AuditLog} (h : Chain rows) :
    verifyAuditChain rows = (true, "ok") := by
  have ascending : rows.Pairwise (fun a b => a.sequence ≤ b.sequence) := by
    rw [← List.pairwise_map (R := (· ≤ ·)), h.numbered, List.pairwise_map]
    exact List.pairwise_lt_range.imp fun hlt => by omega
  rw [verifyAuditChain, ascending.insertionSort_eq]
  exact checkRows_of_linked h.linked

/-- What a transaction has read fits the rows it sees, unless these have grown past it: then
the sequence it holds is taken. -/
def Phase.Fits (rows : List AuditLog) : Phase → Prop
  | .idle => True
  | .sequenced _ sequence => 1 ≤ sequence ∧ sequence ≤ rows.length + 1
  | .ready _ sequence previous => 1 ≤ sequence ∧ sequence ≤ rows.length + 1 ∧
      (sequence = rows.length + 1 → previous = auditScheme.tip genesisHash rows)

theorem Phase.Fits.append {rows : List AuditLog} {phase : Phase} (h : phase.Fits rows)
    (more : List AuditLog) : phase.Fits (rows ++ more) := by
  have grows : rows.length ≤ (rows ++ more).length := by simp
  cases phase with
  | idle => trivial
  | sequenced entry sequence =>
      obtain ⟨low, high⟩ := h
      exact ⟨low, by omega⟩
  | ready entry sequence previous =>
      obtain ⟨low, high, hash⟩ := h
      refine ⟨low, by omega, ?_⟩
      intro current
      have same : more = [] := by
        have : (rows ++ more).length = rows.length := by omega
        simpa using this
      subst same
      rw [List.append_nil] at current ⊢
      exact hash current

/-- Every transaction extends the committed chain, at most one of them has flushed rows, and
what each has read fits what it sees. -/
structure Inv {ι : Type} (db : Database ι) : Prop where
  committed : Chain db.committed
  visible : ∀ i, Chain (db.visible i)
  exclusive : ∀ i j, (db.transactions i).own ≠ [] → (db.transactions j).own ≠ [] → i = j
  fits : ∀ i, (db.transactions i).phase.Fits (db.visible i)

section Preserved

variable {ι : Type}

theorem Inv.initial : Inv ({} : Database ι) where
  committed := chain_nil
  visible := fun _ => chain_nil
  exclusive := by simp
  fits := fun _ => trivial

variable {db : Database ι}

/-- The first uncommitted row of a transaction carries the next sequence. -/
theorem Inv.next_held (inv : Inv db) {j : ι} (hown : (db.transactions j).own ≠ []) :
    (db.committed.length : Int) + 1 ∈ (db.transactions j).own.map (·.sequence) := by
  have longer : db.committed.length < (db.visible j).length := by
    have := List.length_pos_of_ne_nil hown
    simp only [Database.visible, List.length_append]
    omega
  have held : (db.committed.length : Int) + 1 ∈ (db.visible j).map (·.sequence) :=
    ((inv.visible j).mem_sequence _).mpr ⟨by omega, by omega⟩
  rw [Database.visible, List.map_append, List.mem_append] at held
  rcases held with hcommitted | hown
  · have := (inv.committed.mem_sequence _).mp hcommitted
    omega
  · exact hown

variable [DecidableEq ι]

@[simp] theorem set_committed (i : ι) (tx : Transaction) :
    (db.set i tx).committed = db.committed := rfl

theorem set_transactions (i j : ι) (tx : Transaction) :
    (db.set i tx).transactions j = if j = i then tx else db.transactions j := by
  simp [Database.set, Function.update_apply]

/-- Changing one transaction keeps the invariant when its new rows still extend the
committed chain and no other transaction has flushed rows beside them. -/
theorem Inv.set (inv : Inv db) (i : ι) (tx : Transaction) (chain : Chain (db.committed ++ tx.own))
    (alone : tx.own ≠ [] → ∀ j, j ≠ i → (db.transactions j).own = [])
    (fits : tx.phase.Fits (db.committed ++ tx.own)) : Inv (db.set i tx) := by
  refine ⟨inv.committed, fun j => ?_, fun j k hj hk => ?_, fun j => ?_⟩
  · by_cases hij : j = i
    · simpa [Database.visible, set_transactions, hij] using chain
    · simpa [Database.visible, set_transactions, hij] using inv.visible j
  · rw [set_transactions] at hj hk
    by_cases hji : j = i <;> by_cases hki : k = i
    · rw [hji, hki]
    · rw [if_pos hji] at hj
      rw [if_neg hki] at hk
      exact absurd (alone hj k hki) hk
    · rw [if_neg hji] at hj
      rw [if_pos hki] at hk
      exact absurd (alone hk j hji) hj
    · rw [if_neg hji] at hj
      rw [if_neg hki] at hk
      exact inv.exclusive j k hj hk
  · by_cases hij : j = i
    · simpa [Database.visible, set_transactions, hij] using fits
    · simpa [Database.visible, set_transactions, hij] using inv.fits j

theorem Inv.reset (inv : Inv db) (i : ι) : Inv (db.set i {}) :=
  inv.set i {} (by simpa using inv.committed) (by simp) trivial

/-- Moving inside `write_audit` leaves the rows alone. -/
theorem Inv.setPhase (inv : Inv db) (i : ι) (phase : Phase) (fits : phase.Fits (db.visible i)) :
    Inv (db.set i { db.transactions i with phase := phase }) := by
  refine inv.set i _ (inv.visible i) ?_ fits
  intro hown j hne
  by_contra hj
  exact hne (inv.exclusive j i hj hown)

/-- An insert that neither aborts nor waits extends the chain that its transaction sees. -/
theorem Inv.insert (inv : Inv db) {i : ι} {entry : AuditEntry} {sequence : Int} {previous : String}
    (id timestamp : String) (hphase : (db.transactions i).phase = .ready entry sequence previous)
    (free : sequence ∉ (db.visible i).map (·.sequence))
    (unheld : ¬ ∃ j, j ≠ i ∧ sequence ∈ (db.transactions j).own.map (·.sequence)) :
    Inv (db.set i
      { own := (db.transactions i).own ++ [newRecord id timestamp sequence previous entry] }) := by
  have fits := inv.fits i
  rw [hphase] at fits
  obtain ⟨low, high, hash⟩ := fits
  have current : sequence = (db.visible i).length + 1 := by
    rw [(inv.visible i).mem_sequence] at free
    omega
  have chain := (inv.visible i).concat id timestamp entry
  rw [← current, ← hash current] at chain
  refine inv.set i _ ?_ ?_ trivial
  · simpa [Database.visible, List.append_assoc] using chain
  · intro _ j hne
    by_contra hj
    by_cases hi : (db.transactions i).own = []
    · refine unheld ⟨j, hne, ?_⟩
      have same : sequence = db.committed.length + 1 := by
        simpa [Database.visible, hi] using current
      rw [same]
      exact inv.next_held hj
    · exact hne (inv.exclusive j i hj hi)

/-- After a commit the other transactions see what they saw, or the committed rows. -/
theorem Inv.commit_visible (inv : Inv db) (i j : ι) :
    let db' : Database ι := { db.set i {} with committed := db.visible i }
    db'.visible j = db.visible i ∨ db'.visible j = db.visible j ∧ j ≠ i := by
  dsimp only
  by_cases hij : j = i
  · exact .inl (by simp [Database.visible, set_transactions, hij])
  · by_cases hi : (db.transactions i).own = []
    · exact .inr ⟨by simp [Database.visible, set_transactions, hij, hi], hij⟩
    · have hj : (db.transactions j).own = [] := by
        by_contra hj
        exact hij (inv.exclusive j i hj hi)
      exact .inl (by simp [Database.visible, set_transactions, hij, hj])

theorem Inv.commit (inv : Inv db) (i : ι) :
    Inv { db.set i {} with committed := db.visible i } := by
  refine ⟨inv.visible i, fun j => ?_, fun j k hj hk => ?_, fun j => ?_⟩
  · rcases inv.commit_visible i j with h | ⟨h, -⟩
    · rw [h]
      exact inv.visible i
    · rw [h]
      exact inv.visible j
  · exact (inv.reset i).exclusive j k hj hk
  · by_cases hij : j = i
    · subst hij
      simp [set_transactions, Phase.Fits]
    · have grows : ∃ more, ({ db.set i {} with committed := db.visible i } : Database ι).visible j =
          db.visible j ++ more := by
        by_cases hj : (db.transactions j).own = []
        · exact ⟨(db.transactions i).own, by simp [Database.visible, set_transactions, hij, hj]⟩
        · have hi : (db.transactions i).own = [] := by
            by_contra hi
            exact hij (inv.exclusive j i hj hi)
          exact ⟨[], by simp [Database.visible, set_transactions, hij, hi]⟩
      obtain ⟨more, hmore⟩ := grows
      have fits := (inv.fits j).append more
      rw [hmore]
      simpa [set_transactions, hij] using fits

variable [Fintype ι]

theorem Inv.step (inv : Inv db) {action : Action ι} {db' : Database ι}
    (h : db.step action = some db') : Inv db' := by
  cases action with
  | readSequence i entry =>
      simp only [Database.step] at h
      split at h
      · obtain rfl := Option.some.inj h
        refine inv.setPhase i _ ?_
        rw [(inv.visible i).nextSequence_eq]
        exact ⟨by omega, le_rfl⟩
      · simp at h
  | readHash i =>
      simp only [Database.step] at h
      split at h
      · rename_i entry sequence hphase
        obtain rfl := Option.some.inj h
        have fits := inv.fits i
        rw [hphase] at fits
        obtain ⟨low, high⟩ := fits
        refine inv.setPhase i _ ⟨low, high, ?_⟩
        intro _
        exact (inv.visible i).latestHash_eq
      · simp at h
  | insert i id timestamp =>
      simp only [Database.step] at h
      split at h
      · rename_i entry sequence previous hphase
        split_ifs at h with taken held
        · obtain rfl := Option.some.inj h
          exact inv.reset i
        · obtain rfl := Option.some.inj h
          exact inv.insert id timestamp hphase taken held
      · simp at h
  | commit i =>
      simp only [Database.step] at h
      split at h
      · obtain rfl := Option.some.inj h
        exact inv.commit i
      · simp at h
  | rollback i =>
      obtain rfl := Option.some.inj h
      exact inv.reset i

theorem Inv.run (inv : Inv db) {actions : List (Action ι)} {db' : Database ι}
    (h : db.run actions = some db') : Inv db' := by
  induction actions generalizing db with
  | nil =>
      obtain rfl := Option.some.inj h
      exact inv
  | cons action actions ih =>
      simp only [Database.run] at h
      split at h
      · simp at h
      · rename_i next hnext
        exact ih (inv.step hnext) h

end Preserved

/-- For any number of transactions and every interleaving of their steps, the committed rows
are numbered `1, …, n` and the chain over them verifies. -/
theorem committed_chain_verifies {ι : Type} [Fintype ι] [DecidableEq ι]
    (actions : List (Action ι)) (db : Database ι)
    (h : ({} : Database ι).run actions = some db) :
    db.committed.map (·.sequence) =
        (List.range db.committed.length).map (fun k : Nat => (k : Int) + 1) ∧
      verifyAuditChain db.committed = (true, "ok") := by
  have inv := Inv.initial.run h
  exact ⟨inv.committed.numbered, inv.committed.verify⟩

/-- Two writers; the second reads the sequence before the first commits and the hash after,
is aborted, and tries again. -/
def staleReader : List (Action (Fin 2)) :=
  let entry : AuditEntry :=
    { tenantId := some "ten_a", actorType := "user", actorId := "usr_1", requestId := "req_1",
      action := "auth.login", targetType := "user" }
  [.readSequence 0 entry, .readSequence 1 entry, .readHash 0, .insert 0 "aud_1" "t1", .commit 0,
    .readHash 1, .insert 1 "aud_2" "t2", .readSequence 1 entry, .readHash 1,
    .insert 1 "aud_3" "t3", .commit 1]

theorem committed_chain_verifies_staleReader :
    ∃ db, ({} : Database (Fin 2)).run staleReader = some db ∧
      db.committed.map (·.id) = ["aud_1", "aud_3"] ∧
      verifyAuditChain db.committed = (true, "ok") := by
  have ids : (({} : Database (Fin 2)).run staleReader).map (fun db => db.committed.map (·.id)) =
      some ["aud_1", "aud_3"] := by decide
  obtain ⟨db, hrun, hids⟩ := Option.map_eq_some_iff.mp ids
  exact ⟨db, hrun, hids, (committed_chain_verifies staleReader db hrun).2⟩

end BlueTeam.Audit
