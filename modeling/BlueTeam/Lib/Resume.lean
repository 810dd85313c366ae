/- GID: BlueTeam/Lib/Resume
   generality: G
   digest: A log that is read on from a committed offset by a reader that remembers its keys. -/

import BlueTeam.Lib.Firsts
import Mathlib.Data.List.Flatten
import Mathlib.Data.List.Perm.Basic

set_option autoImplicit false
set_option relaxedAutoImplicit false

namespace BlueTeam.Lib

/-- How a reader takes up an element: it may refuse it before it looks at the key, and it may
fail on the value after it has marked the key as seen. -/
structure Intake (α β κ ε : Type) where
  refuses : α → Option ε
  key : α → κ
  value : α → Except ε β

/-- What a read leaves behind: the values taken up, the keys seen, and the error it ended with. -/
structure Sifted (β κ ε : Type) where
  taken : List β
  seen : List κ
  error : Option ε

/-- What the read returns. -/
def Sifted.result {β κ ε : Type} (s : Sifted β κ ε) : Except ε (List β) :=
  match s.error with
  | some e => .error e
  | none => .ok s.taken

section

variable {α β κ ε : Type} [DecidableEq κ]

/-- Read elements one by one; those whose key was seen are passed over. -/
def Intake.sift (intake : Intake α β κ ε) : List κ → List α → Sifted β κ ε
  | seen, [] => ⟨[], seen, none⟩
  | seen, a :: as =>
      match intake.refuses a with
      | some e => ⟨[], seen, some e⟩
      | none =>
          if intake.key a ∈ seen then intake.sift seen as
          else
            match intake.value a with
            | .error e => ⟨[], intake.key a :: seen, some e⟩
            | .ok b =>
                let more := intake.sift (intake.key a :: seen) as
                { more with taken := b :: more.taken }

/-- The values of the first occurrences by key, of those that have one. -/
def Intake.values (intake : Intake α β κ ε) (seen : List κ) (as : List α) : List β :=
  (firsts intake.key seen as).filterMap fun a => (intake.value a).toOption

variable {intake : Intake α β κ ε} {own : κ → Prop} {seen seen' : List κ}

/-- Of the keys seen, only those matter that an element can have. -/
theorem firsts_congr_own {key : α → κ} (hown : ∀ a, own (key a))
    (h : ∀ k, own k → (k ∈ seen ↔ k ∈ seen')) (as : List α) :
    firsts key seen as = firsts key seen' as := by
  induction as generalizing seen seen' with
  | nil => rfl
  | cons a as ih =>
      have hrest : firsts key (key a :: seen) as = firsts key (key a :: seen') as := by
        refine ih fun k hk => ?_
        rw [List.mem_cons, List.mem_cons, h k hk]
      simp only [firsts_cons, h (key a) (hown a), ih h, hrest]

/-- Another key may be used, as long as the elements have the same by both. -/
theorem firsts_congr_key {key key' : α → κ} {as : List α} (h : ∀ a ∈ as, key a = key' a) :
    firsts key seen as = firsts key' seen as := by
  induction as generalizing seen with
  | nil => rfl
  | cons a as ih =>
      obtain ⟨ha, hrest⟩ := List.forall_mem_cons.mp h
      simp only [firsts_cons, ha, ih hrest]

theorem Intake.values_append (seen : List κ) (as bs : List α) :
    intake.values seen (as ++ bs) =
      intake.values seen as ++ intake.values (seen ++ as.map intake.key) bs := by
  unfold Intake.values
  rw [firsts_append, List.filterMap_append]

theorem Intake.values_seen {as : List α} (h : ∀ a ∈ as, intake.key a ∈ seen) :
    intake.values seen as = [] := by
  unfold Intake.values
  rw [firsts_eq_nil h]
  rfl

theorem Intake.values_congr (hown : ∀ a, own (intake.key a))
    (h : ∀ k, own k → (k ∈ seen ↔ k ∈ seen')) (as : List α) :
    intake.values seen as = intake.values seen' as :=
  congrArg _ (firsts_congr_own hown h as)

/-- A read comes to the end of its elements or ends with an error; either way it has taken up the
new values in a part of them, and has seen the keys in that part. -/
theorem Intake.sift_spec (intake : Intake α β κ ε) (seen : List κ) (as : List α) :
    ∃ done rest, as = done ++ rest ∧ (∀ a ∈ done, intake.refuses a = none) ∧
      (intake.sift seen as).taken = intake.values seen done ∧
      (∀ k, k ∈ (intake.sift seen as).seen ↔ k ∈ seen ++ done.map intake.key) ∧
      ((intake.sift seen as).error = none → rest = []) := by
  induction as generalizing seen with
  | nil => exact ⟨[], [], rfl, by simp, rfl, by simp [Intake.sift], fun _ => rfl⟩
  | cons a as ih =>
      cases hrefuses : intake.refuses a with
      | some e =>
          exact ⟨[], a :: as, rfl, by simp, by simp [Intake.sift, hrefuses, Intake.values, firsts_nil],
            by simp [Intake.sift, hrefuses], by simp [Intake.sift, hrefuses]⟩
      | none =>
          by_cases ha : intake.key a ∈ seen
          · obtain ⟨done, rest, hsplit, hread, htaken, hseen, herror⟩ := ih seen
            have hstep : intake.sift seen (a :: as) = intake.sift seen as := by
              simp [Intake.sift, hrefuses, ha]
            refine ⟨a :: done, rest, by rw [hsplit, List.cons_append], ?_, ?_, ?_, ?_⟩
            · exact List.forall_mem_cons.mpr ⟨hrefuses, hread⟩
            · rw [hstep, htaken]
              unfold Intake.values
              rw [firsts_cons, if_pos ha]
            · intro k
              rw [hstep, hseen k, List.map_cons]
              simp only [List.mem_append, List.mem_cons]
              constructor
              · rintro (hk | hk)
                · exact .inl hk
                · exact .inr (.inr hk)
              · rintro (hk | rfl | hk)
                · exact .inl hk
                · exact .inl ha
                · exact .inr hk
            · rw [hstep]
              exact herror
          · cases hvalue : intake.value a with
            | error e =>
                -- The key is marked before the value fails.
                refine ⟨[a], as, rfl, by simpa using hrefuses, ?_, ?_, ?_⟩
                · simp [Intake.sift, hrefuses, ha, hvalue, Intake.values, firsts_cons, firsts_nil,
                    Except.toOption]
                · intro k
                  simp [Intake.sift, hrefuses, ha, hvalue, or_comm]
                · simp [Intake.sift, hrefuses, ha, hvalue]
            | ok b =>
                obtain ⟨done, rest, hsplit, hread, htaken, hseen, herror⟩ :=
                  ih (intake.key a :: seen)
                have hstep : intake.sift seen (a :: as) =
                    { intake.sift (intake.key a :: seen) as with
                      taken := b :: (intake.sift (intake.key a :: seen) as).taken } := by
                  simp [Intake.sift, hrefuses, ha, hvalue]
                refine ⟨a :: done, rest, by rw [hsplit, List.cons_append], ?_, ?_, ?_, ?_⟩
                · exact List.forall_mem_cons.mpr ⟨hrefuses, hread⟩
                · rw [hstep, htaken]
                  unfold Intake.values
                  rw [firsts_cons, if_neg ha, List.filterMap_cons, hvalue]
                  rfl
                · intro k
                  rw [hstep]
                  show k ∈ (intake.sift (intake.key a :: seen) as).seen ↔ _
                  rw [hseen k, List.map_cons]
                  simp only [List.mem_append, List.mem_cons]
                  tauto
                · rw [hstep]
                  exact herror

/-- How far a reader has come on a log. It has taken up the first occurrences in a part of the log
that reaches its offset, perhaps further; among its own keys it has seen those of that part. -/
structure Intake.Frontier (intake : Intake α β κ ε) (own : κ → Prop) (log : List α) (offset : Nat)
    (seen : List κ) (taken : List β) (done : List α) : Prop where
  begins : done <+: log
  reached : offset ≤ done.length
  read : ∀ a ∈ done, intake.refuses a = none
  seen : ∀ k, own k → (k ∈ seen ↔ k ∈ done.map intake.key)
  taken : taken = intake.values [] done

variable {log : List α} {offset : Nat} {taken : List β} {done : List α}

/-- A reader that has seen none of its keys stands before the log. -/
theorem Intake.Frontier.start (log : List α) (hseen : ∀ k, own k → k ∉ seen) :
    intake.Frontier own log 0 seen [] [] where
  begins := List.nil_prefix
  reached := Nat.le_refl 0
  read := by simp
  seen k hk := by simpa using hseen k hk
  taken := rfl

/-- The log grows at its end. -/
theorem Intake.Frontier.append (h : intake.Frontier own log offset seen taken done)
    (more : List α) : intake.Frontier own (log ++ more) offset seen taken done :=
  { h with begins := h.begins.trans (List.prefix_append log more) }

/-- Keys that are not the reader's own come and go. -/
theorem Intake.Frontier.idle (h : intake.Frontier own log offset seen taken done)
    (hseen : ∀ k, own k → (k ∈ seen' ↔ k ∈ seen)) :
    intake.Frontier own log offset seen' taken done :=
  { h with seen := fun k hk => (hseen k hk).trans (h.seen k hk) }

/-- The reader reads on from its offset. Where no error ends it, it may commit to the end of what
it has read. -/
theorem Intake.Frontier.read_on (hown : ∀ a, own (intake.key a))
    (h : intake.Frontier own log offset seen taken done) (n : Nat) :
    ∃ done', intake.Frontier own log offset (intake.sift seen ((log.drop offset).take n)).seen
        (taken ++ (intake.sift seen ((log.drop offset).take n)).taken) done' ∧
      ((intake.sift seen ((log.drop offset).take n)).error = none →
        offset + ((log.drop offset).take n).length ≤ done'.length) := by
  obtain ⟨d, r, hpolled, hread, htaken, hseen, herror⟩ :=
    intake.sift_spec seen ((log.drop offset).take n)
  obtain ⟨rest, hlog⟩ := h.begins
  have hsplit : d ++ (r ++ (log.drop offset).drop n) = done.drop offset ++ rest := by
    rw [← List.append_assoc, ← hpolled, List.take_append_drop, ← hlog,
      List.drop_append_of_le_length h.reached]
  have hlength : (done.drop offset).length = done.length - offset := List.length_drop
  have hreached := h.reached
  -- The keys from the offset to the end of the part that was read before have been seen.
  have hpassed : ∀ a ∈ done.drop offset, intake.key a ∈ seen := by
    intro a ha
    exact (h.seen _ (hown a)).mpr (List.mem_map_of_mem (List.mem_of_mem_drop ha))
  rcases List.append_eq_append_iff.mp hsplit with ⟨x, hx, -⟩ | ⟨e, he, hrest⟩
  · -- The read ends within that part: nothing is new.
    have hd : ∀ a ∈ d, intake.key a ∈ seen := by
      intro a ha
      exact hpassed a (hx ▸ List.mem_append_left x ha)
    refine ⟨done, ⟨h.begins, h.reached, h.read, ?_, ?_⟩, ?_⟩
    · intro k hk
      rw [hseen k, ← h.seen k hk, List.mem_append]
      refine or_iff_left_of_imp fun hmem => ?_
      obtain ⟨a, ha, rfl⟩ := List.mem_map.mp hmem
      exact hd a ha
    · rw [htaken, Intake.values_seen hd, List.append_nil]
      exact h.taken
    · intro hnone
      rw [hpolled, herror hnone, List.append_nil]
      rw [hx, List.length_append] at hlength
      omega
  · -- The read goes beyond it, and what it finds there is new.
    refine ⟨done ++ e, ⟨?_, ?_, ?_, ?_, ?_⟩, ?_⟩
    · rw [← hlog, hrest, ← List.append_assoc]
      exact List.prefix_append _ _
    · rw [List.length_append]
      omega
    · intro a ha
      rcases List.mem_append.mp ha with ha | ha
      · exact h.read a ha
      · exact hread a (he ▸ List.mem_append_right _ ha)
    · intro k hk
      rw [hseen k, he, List.map_append, List.map_append, List.mem_append, List.mem_append,
        List.mem_append, h.seen k hk]
      have hdropped : k ∈ (done.drop offset).map intake.key → k ∈ done.map intake.key := by
        intro hmem
        obtain ⟨a, ha, rfl⟩ := List.mem_map.mp hmem
        exact List.mem_map_of_mem (List.mem_of_mem_drop ha)
      tauto
    · have hnew : intake.values (seen ++ (done.drop offset).map intake.key) e =
          intake.values (done.map intake.key) e := by
        refine Intake.values_congr hown (fun k hk => ?_) e
        rw [List.mem_append, h.seen k hk]
        refine or_iff_left_of_imp fun hmem => ?_
        obtain ⟨a, ha, rfl⟩ := List.mem_map.mp hmem
        exact List.mem_map_of_mem (List.mem_of_mem_drop ha)
      rw [htaken, he, Intake.values_append, Intake.values_seen hpassed, List.nil_append, hnew,
        Intake.values_append, List.nil_append, h.taken]
    · intro hnone
      rw [hpolled, herror hnone, List.append_nil, he, List.length_append, List.length_append,
        hlength]
      omega

/-- The offset moves within the part that was read. -/
theorem Intake.Frontier.commit (h : intake.Frontier own log offset seen taken done)
    {offset' : Nat} (hoffset : offset' ≤ done.length) :
    intake.Frontier own log offset' seen taken done :=
  { h with reached := hoffset }

/-- What has been taken up is the beginning of what the log holds, -/
theorem Intake.Frontier.taken_prefix (h : intake.Frontier own log offset seen taken done) :
    taken <+: intake.values [] log := by
  obtain ⟨rest, rfl⟩ := h.begins
  rw [h.taken, Intake.values_append]
  exact List.prefix_append _ _

/-- and all of it once the offset is at the end. -/
theorem Intake.Frontier.taken_all (h : intake.Frontier own log offset seen taken done)
    (hoffset : offset = log.length) : taken = intake.values [] log := by
  have hdone : done = log := h.begins.eq_of_length_le (hoffset ▸ h.reached)
  rw [h.taken, hdone]

/-- A read of elements that are all in order ends without an error. -/
theorem Intake.sift_error_none {as : List α} (hrefuses : ∀ a ∈ as, intake.refuses a = none)
    (hvalue : ∀ a ∈ as, ∃ b, intake.value a = .ok b) (seen : List κ) :
    (intake.sift seen as).error = none := by
  induction as generalizing seen with
  | nil => rfl
  | cons a as ih =>
      obtain ⟨ha, hrefuses⟩ := List.forall_mem_cons.mp hrefuses
      obtain ⟨⟨b, hb⟩, hvalue⟩ := List.forall_mem_cons.mp hvalue
      simp only [Intake.sift, ha, hb]
      split
      · exact ih hrefuses hvalue seen
      · exact ih hrefuses hvalue _

end

/-! ### Parts that are left out -/

theorem flatMap_filter_sublist {α β : Type} (p : α → Bool) (f : α → List β) (as : List α) :
    ((as.filter p).flatMap f).Sublist (as.flatMap f) :=
  List.Sublist.flatMap List.filter_sublist f

/-- Leaving elements out changes nothing exactly if they contribute nothing. -/
theorem flatMap_filter_eq_iff {α β : Type} (p : α → Bool) (f : α → List β) (as : List α) :
    (as.filter p).flatMap f = as.flatMap f ↔ (as.filter fun a => !p a).flatMap f = [] := by
  have hlength : ((as.filter p).flatMap f).length + ((as.filter fun a => !p a).flatMap f).length =
      (as.flatMap f).length := by
    rw [← List.length_append, ← List.flatMap_append]
    exact ((List.filter_append_perm p as).flatMap_right f).length_eq
  constructor
  · intro h
    rw [h] at hlength
    exact List.length_eq_zero_iff.mp (by omega)
  · intro h
    rw [h, List.length_nil, Nat.add_zero] at hlength
    exact (flatMap_filter_sublist p f as).eq_of_length hlength

end BlueTeam.Lib
