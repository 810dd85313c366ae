/- GID: BlueTeam/Lib/Exec
   generality: G
   digest: Stateful programs that may raise, with rules for one run and for two runs. -/

import Mathlib.Data.List.Basic

set_option autoImplicit false
set_option relaxedAutoImplicit false

namespace BlueTeam.Lib

/-- A computation without a state returns only if its parts do. -/
theorem except_of_bind {ε α β : Type} {m : Except ε α} {f : α → Except ε β} {b : β}
    (h : m >>= f = .ok b) : ∃ a, m = .ok a ∧ f a = .ok b := by
  cases m with
  | error e => cases h
  | ok a => exact ⟨a, rfl, h⟩

/-- It raises only if one of its parts does. -/
theorem except_error_of_bind {ε α β : Type} {m : Except ε α} {f : α → Except ε β} {e : ε}
    (h : m >>= f = .error e) : m = .error e ∨ ∃ a, m = .ok a ∧ f a = .error e := by
  cases m with
  | error e' => exact .inl (congrArg Except.error (Except.error.inj h))
  | ok a => exact .inr ⟨a, rfl, h⟩

theorem except_of_map {ε α β : Type} {m : Except ε α} {f : α → β} {b : β} (h : m.map f = .ok b) :
    ∃ a, m = .ok a ∧ f a = b := by
  cases m with
  | error e => cases h
  | ok a => exact ⟨a, rfl, Except.ok.inj h⟩

/-- A program over states `σ` that returns an `α` or raises an `ε`. A raise keeps the state
reached so far, as an exception does. -/
def Exec (σ ε α : Type) : Type :=
  σ → Except ε α × σ

namespace Exec

variable {σ ε α β γ : Type}

/-- What comes after an outcome: a value goes on, a raise is handed through. -/
def andThen (f : α → Exec σ ε β) : Except ε α × σ → Except ε β × σ
  | (.ok a, s) => f a s
  | (.error e, s) => (.error e, s)

instance : Monad (Exec σ ε) where
  pure a := fun s => (.ok a, s)
  bind m f := fun s => andThen f (m s)

@[simp] theorem pure_run (a : α) (s : σ) : (pure a : Exec σ ε α) s = (.ok a, s) := rfl

theorem bind_run (m : Exec σ ε α) (f : α → Exec σ ε β) (s : σ) :
    (m >>= f) s = andThen f (m s) := rfl

/-- A sequence returns only if both parts do. -/
theorem ok_of_bind {m : Exec σ ε α} {f : α → Exec σ ε β} {s s' : σ} {b : β}
    (h : (m >>= f) s = (.ok b, s')) : ∃ a s₁, m s = (.ok a, s₁) ∧ f a s₁ = (.ok b, s') := by
  rw [bind_run] at h
  rcases hm : m s with ⟨⟨e⟩ | ⟨a⟩, s₁⟩
  · rw [hm] at h
    cases h
  · rw [hm] at h
    exact ⟨a, s₁, rfl, h⟩

instance : LawfulMonad (Exec σ ε) := by
  refine LawfulMonad.mk' _ ?_ ?_ ?_
  · intro α m
    funext s
    show andThen pure (m s) = m s
    rcases m s with ⟨⟨⟩, -⟩ <;> rfl
  · intro α β a f
    rfl
  · intro α β γ m f g
    funext s
    show andThen g (andThen f (m s)) = andThen (fun a => f a >>= g) (m s)
    rcases m s with ⟨⟨⟩, -⟩ <;> rfl

def raise (e : ε) : Exec σ ε α :=
  fun s => (.error e, s)

/-- A result that was computed without the state. -/
def lift (r : Except ε α) : Exec σ ε α :=
  fun s => (r, s)

/-- A value read off the state. -/
def gets (f : σ → α) : Exec σ ε α :=
  fun s => (.ok (f s), s)

def modify (f : σ → σ) : Exec σ ε Unit :=
  fun s => (.ok (), f s)

/-- The body of a `try`: a raise becomes a value, the state it was raised in stays. -/
def attempt (m : Exec σ ε α) : Exec σ ε (Except ε α) :=
  fun s => (.ok (m s).1, (m s).2)

/-- A loop that hands an accumulator from element to element. -/
def loop (f : β → α → Exec σ ε β) : β → List α → Exec σ ε β
  | b, [] => pure b
  | b, a :: as => f b a >>= fun b' => loop f b' as

/-- A loop only ever comes to the elements of its list. -/
theorem loop_congr {f g : β → α → Exec σ ε β} {as : List α}
    (h : ∀ b, ∀ a ∈ as, f b a = g b a) (b : β) : loop f b as = loop g b as := by
  induction as generalizing b with
  | nil => rfl
  | cons a as ih =>
      have hrest : (fun b' => loop f b' as) = fun b' => loop g b' as :=
        funext fun b' => ih (fun b'' a' ha' => h b'' a' (List.mem_cons_of_mem _ ha')) b'
      rw [loop, loop, h b a List.mem_cons_self, hrest]

/-- A program on one part of the state, with its own exceptions: `get` reads the part, `set` puts
it back, `embed` is what its exceptions are for the whole. -/
def zoom {τ δ : Type} (get : σ → τ) (set : σ → τ → σ) (embed : δ → ε) (m : Exec τ δ α) :
    Exec σ ε α :=
  fun s => ((m (get s)).1.mapError embed, set s (m (get s)).2)

/-! ### One run -/

section Triple

variable {P P' : σ → Prop} {Q Q' : α → σ → Prop} {R : β → σ → Prop} {E E' : ε → σ → Prop}

/-- From a state with `P`, the program ends with `Q` of what it returns, or with `E` of what it
raises. -/
structure Triple (P : σ → Prop) (m : Exec σ ε α) (Q : α → σ → Prop) (E : ε → σ → Prop) :
    Prop where
  run : ∀ s, P s → match m s with
    | (.ok a, s') => Q a s'
    | (.error e, s') => E e s'

theorem Triple.ok {m : Exec σ ε α} (h : Triple P m Q E) {s s' : σ} {a : α} (hs : P s)
    (hm : m s = (.ok a, s')) : Q a s' := by
  have h' := h.run s hs
  rw [hm] at h'
  exact h'

theorem Triple.error {m : Exec σ ε α} (h : Triple P m Q E) {s s' : σ} {e : ε} (hs : P s)
    (hm : m s = (.error e, s')) : E e s' := by
  have h' := h.run s hs
  rw [hm] at h'
  exact h'

theorem Triple.conseq {m : Exec σ ε α} (h : Triple P' m Q' E') (hP : ∀ s, P s → P' s)
    (hQ : ∀ a s, Q' a s → Q a s) (hE : ∀ e s, E' e s → E e s) : Triple P m Q E := by
  refine ⟨fun s hs => ?_⟩
  have h' := h.run s (hP s hs)
  rcases hm : m s with ⟨⟨e⟩ | ⟨a⟩, s'⟩
  · rw [hm] at h'
    exact hE e s' h'
  · rw [hm] at h'
    exact hQ a s' h'

theorem Triple.post {m : Exec σ ε α} (h : Triple P m Q' E) (hQ : ∀ a s, Q' a s → Q a s) :
    Triple P m Q E :=
  h.conseq (fun _ hs => hs) hQ (fun _ _ he => he)

theorem Triple.pre {m : Exec σ ε α} (h : Triple P' m Q E) (hP : ∀ s, P s → P' s) :
    Triple P m Q E :=
  h.conseq hP (fun _ _ hq => hq) (fun _ _ he => he)

/-- A part of the precondition that does not speak of the state. -/
theorem triple_given {φ : Prop} {m : Exec σ ε α} (h : φ → Triple P m Q E) :
    Triple (fun s => φ ∧ P s) m Q E :=
  ⟨fun s hs => (h hs.1).run s hs.2⟩

/-- A run may be looked at from the state it starts in. -/
theorem triple_from {m : Exec σ ε α} (h : ∀ s₀, P s₀ → Triple (fun s => s = s₀) m Q E) :
    Triple P m Q E :=
  ⟨fun s hs => (h s hs).run s rfl⟩

/-- A run that is the run of another program from another state. -/
theorem triple_via {m : Exec σ ε α} (P' : σ → Prop)
    (h : ∀ s, P s → ∃ (m' : Exec σ ε α) (s' : σ), m s = m' s' ∧ P' s' ∧ Triple P' m' Q E) :
    Triple P m Q E := by
  constructor
  intro s hs
  obtain ⟨m', s', hrun, hs', hm'⟩ := h s hs
  rw [hrun]
  exact hm'.run s' hs'

/-- What a program ends with includes that it is the run from the state it started in. -/
theorem Triple.traced {m : Exec σ ε α} (h : Triple P m Q E) {s₀ : σ} (hs₀ : P s₀) :
    Triple (fun s => s = s₀) m (fun a s => Q a s ∧ m s₀ = (.ok a, s)) E := by
  refine ⟨fun s hs => ?_⟩
  subst hs
  have h' := h.run s hs₀
  rcases hm : m s with ⟨⟨e⟩ | ⟨a⟩, s'⟩
  · rw [hm] at h'
    exact h'
  · rw [hm] at h'
    exact ⟨h', rfl⟩

/-- Two facts about one run. -/
theorem Triple.and {m : Exec σ ε α} (h : Triple P m Q E) (h' : Triple P' m Q' E') :
    Triple (fun s => P s ∧ P' s) m (fun a s => Q a s ∧ Q' a s) (fun e s => E e s ∧ E' e s) := by
  refine ⟨fun s hs => ?_⟩
  have hrun := h.run s hs.1
  have hrun' := h'.run s hs.2
  rcases hm : m s with ⟨⟨e⟩ | ⟨a⟩, s'⟩
  · rw [hm] at hrun hrun'
    exact ⟨hrun, hrun'⟩
  · rw [hm] at hrun hrun'
    exact ⟨hrun, hrun'⟩

theorem triple_pure {a : α} (h : ∀ s, P s → Q a s) : Triple P (pure a : Exec σ ε α) Q E :=
  ⟨h⟩

theorem triple_bind {m : Exec σ ε α} {f : α → Exec σ ε β} (hm : Triple P m Q E)
    (hf : ∀ a, Triple (Q a) (f a) R E) : Triple P (m >>= f) R E := by
  refine ⟨fun s hs => ?_⟩
  have h := hm.run s hs
  rw [bind_run]
  rcases hms : m s with ⟨⟨e⟩ | ⟨a⟩, s'⟩
  · rw [hms] at h
    exact h
  · rw [hms] at h
    exact (hf a).run s' h

theorem triple_map {m : Exec σ ε α} {f : α → β} (hm : Triple P m (fun a => R (f a)) E) :
    Triple P (f <$> m) R E := by
  rw [← bind_pure_comp]
  exact triple_bind hm fun a => triple_pure fun _ hs => hs

theorem triple_raise {e : ε} (h : ∀ s, P s → E e s) : Triple P (raise e : Exec σ ε α) Q E :=
  ⟨h⟩

theorem triple_lift {r : Except ε α} (hok : ∀ a s, r = .ok a → P s → Q a s)
    (herr : ∀ e s, r = .error e → P s → E e s) : Triple P (lift r) Q E := by
  refine ⟨fun s hs => ?_⟩
  rcases r with e | a
  · exact herr e s rfl hs
  · exact hok a s rfl hs

theorem triple_gets {f : σ → α} (h : ∀ s, P s → Q (f s) s) :
    Triple P (gets f : Exec σ ε α) Q E :=
  ⟨h⟩

theorem triple_modify {f : σ → σ} {Q : Unit → σ → Prop} (h : ∀ s, P s → Q () (f s)) :
    Triple P (modify f : Exec σ ε Unit) Q E :=
  ⟨h⟩

theorem triple_attempt {m : Exec σ ε α} {Q : Except ε α → σ → Prop}
    (h : Triple P m (fun a => Q (.ok a)) (fun e => Q (.error e))) : Triple P (attempt m) Q E := by
  refine ⟨fun s hs => ?_⟩
  have h' := h.run s hs
  show Q (m s).1 (m s).2
  rcases hm : m s with ⟨⟨e⟩ | ⟨a⟩, s'⟩
  · rw [hm] at h'
    exact h'
  · rw [hm] at h'
    exact h'

theorem triple_zoom {τ δ : Type} {get : σ → τ} {set : σ → τ → σ} {embed : δ → ε}
    {m : Exec τ δ α} (hok : ∀ s a t, P s → m (get s) = (.ok a, t) → Q a (set s t))
    (herr : ∀ s e t, P s → m (get s) = (.error e, t) → E (embed e) (set s t)) :
    Triple P (zoom get set embed m) Q E := by
  refine ⟨fun s hs => ?_⟩
  unfold zoom
  rcases hm : m (get s) with ⟨⟨e⟩ | ⟨a⟩, t⟩
  · exact herr s e t hs hm
  · exact hok s a t hs hm

/-- The invariant of a loop speaks of the accumulator and of the elements still to come. -/
theorem triple_loop {f : β → α → Exec σ ε β} (I : β → List α → σ → Prop)
    (step : ∀ b a as, Triple (I b (a :: as)) (f b a) (fun b' => I b' as) E) (b : β)
    (as : List α) : Triple (I b as) (loop f b as) (fun b' => I b' []) E := by
  induction as generalizing b with
  | nil => exact triple_pure fun _ hs => hs
  | cons a as ih => exact triple_bind (step b a as) fun b' => ih b'

/-- Every turn that the loop comes to starts with an accumulator, an element and a state that are
good together. -/
def EveryTurn (f : β → α → Exec σ ε β) (good : β → α → σ → Prop) : β → List α → σ → Prop
  | _, [], _ => True
  | b, a :: as, s => good b a s ∧
      ∀ b' s', f b a s = (.ok b', s') → EveryTurn f good b' as s'

/-- What every good turn keeps, a loop of good turns keeps. -/
theorem triple_everyTurn {I : σ → Prop} {f : β → α → Exec σ ε β} {good : β → α → σ → Prop}
    (step : ∀ b a, Triple (fun s => good b a s ∧ I s) (f b a) (fun _ => I) E) (b : β)
    (as : List α) :
    Triple (fun s => EveryTurn f good b as s ∧ I s) (loop f b as) (fun _ => I) E := by
  induction as generalizing b with
  | nil => exact triple_pure fun _ hs => hs.2
  | cons a as ih =>
      apply triple_from
      rintro s₀ ⟨⟨hgood, hrest⟩, hs₀⟩
      apply triple_bind ((step b a).traced ⟨hgood, hs₀⟩)
      intro b'
      apply (ih b').pre
      rintro s ⟨hs, hrun⟩
      exact ⟨hrest b' s hrun, hs⟩

end Triple

/-! ### Two runs -/

section Coupled

variable {R : σ → σ → Prop} {Q Q' : α → Prop} {T : β → Prop}

/-- Two runs from related states end alike: they return the same value, one with `Q`, or raise
the same exception, and the states they end in are related again. -/
structure Coupled (R : σ → σ → Prop) (m : Exec σ ε α) (Q : α → Prop) : Prop where
  run : ∀ s₁ s₂, R s₁ s₂ →
    (m s₁).1 = (m s₂).1 ∧ R (m s₁).2 (m s₂).2 ∧ ∀ a, (m s₁).1 = .ok a → Q a

theorem Coupled.post {m : Exec σ ε α} (h : Coupled R m Q') (hQ : ∀ a, Q' a → Q a) :
    Coupled R m Q := by
  refine ⟨fun s₁ s₂ hs => ?_⟩
  obtain ⟨hv, hR, hq⟩ := h.run s₁ s₂ hs
  exact ⟨hv, hR, fun a ha => hQ a (hq a ha)⟩

theorem coupled_pure {a : α} (h : Q a) : Coupled R (pure a : Exec σ ε α) Q := by
  refine ⟨fun s₁ s₂ hs => ?_⟩
  refine ⟨rfl, hs, ?_⟩
  intro b hb
  obtain rfl : a = b := Except.ok.inj hb
  exact h

theorem coupled_bind {m : Exec σ ε α} {f : α → Exec σ ε β} (hm : Coupled R m Q)
    (hf : ∀ a, Q a → Coupled R (f a) T) : Coupled R (m >>= f) T := by
  refine ⟨fun s₁ s₂ hs => ?_⟩
  obtain ⟨hv, hR, hq⟩ := hm.run s₁ s₂ hs
  rw [bind_run, bind_run]
  rcases h₁ : m s₁ with ⟨⟨e⟩ | ⟨a⟩, t₁⟩ <;> rcases h₂ : m s₂ with ⟨⟨e'⟩ | ⟨a'⟩, t₂⟩ <;>
    simp only [h₁, h₂] at hv hR hq
  · refine ⟨by simpa [andThen] using hv, hR, ?_⟩
    intro b hb
    cases hb
  · cases hv
  · cases hv
  · obtain rfl : a = a' := Except.ok.inj hv
    exact (hf a (hq a rfl)).run t₁ t₂ hR

theorem coupled_raise {e : ε} : Coupled R (raise e : Exec σ ε α) Q := by
  refine ⟨fun s₁ s₂ hs => ?_⟩
  refine ⟨rfl, hs, ?_⟩
  intro a ha
  cases ha

theorem coupled_lift {r : Except ε α} (h : ∀ a, r = .ok a → Q a) :
    Coupled R (lift r : Exec σ ε α) Q :=
  ⟨fun _ _ hs => ⟨rfl, hs, h⟩⟩

theorem coupled_gets {f : σ → α} (hf : ∀ s₁ s₂, R s₁ s₂ → f s₁ = f s₂ ∧ Q (f s₁)) :
    Coupled R (gets f : Exec σ ε α) Q := by
  refine ⟨fun s₁ s₂ hs => ?_⟩
  obtain ⟨he, hq⟩ := hf s₁ s₂ hs
  refine ⟨congrArg Except.ok he, hs, ?_⟩
  intro a ha
  obtain rfl : f s₁ = a := Except.ok.inj ha
  exact hq

theorem coupled_modify {f : σ → σ} {Q : Unit → Prop} (hf : ∀ s₁ s₂, R s₁ s₂ → R (f s₁) (f s₂))
    (hq : Q ()) : Coupled R (modify f : Exec σ ε Unit) Q :=
  ⟨fun s₁ s₂ hs => ⟨rfl, hf s₁ s₂ hs, fun _ _ => hq⟩⟩

theorem coupled_attempt {m : Exec σ ε α} (h : Coupled R m Q) :
    Coupled R (attempt m) (fun r => ∀ a, r = .ok a → Q a) := by
  refine ⟨fun s₁ s₂ hs => ?_⟩
  obtain ⟨hv, hR, hq⟩ := h.run s₁ s₂ hs
  refine ⟨congrArg Except.ok hv, hR, ?_⟩
  intro r hr a ha
  obtain rfl : (m s₁).1 = r := Except.ok.inj hr
  exact hq a ha

/-- A part on which related states agree evolves alike in both runs. -/
theorem coupled_zoom {τ δ : Type} {get : σ → τ} {set : σ → τ → σ} {embed : δ → ε}
    {m : Exec τ δ α} (hget : ∀ s₁ s₂, R s₁ s₂ → get s₁ = get s₂)
    (hset : ∀ s₁ s₂ a t, R s₁ s₂ → m (get s₁) = (a, t) →
      R (set s₁ t) (set s₂ t) ∧ ∀ v, a = .ok v → Q v) :
    Coupled R (zoom get set embed m) Q := by
  refine ⟨fun s₁ s₂ hs => ?_⟩
  have hg := hget s₁ s₂ hs
  obtain ⟨hR, hq⟩ := hset s₁ s₂ (m (get s₁)).1 (m (get s₁)).2 hs rfl
  refine ⟨?_, ?_, ?_⟩
  · show (m (get s₁)).1.mapError embed = (m (get s₂)).1.mapError embed
    rw [hg]
  · show R (set s₁ (m (get s₁)).2) (set s₂ (m (get s₂)).2)
    rw [← hg]
    exact hR
  · intro v hv
    refine hq v ?_
    have hm : (m (get s₁)).1.mapError embed = .ok v := hv
    rcases hr : (m (get s₁)).1 with e | a
    · rw [hr] at hm
      cases hm
    · rw [hr] at hm
      exact congrArg Except.ok (Except.ok.inj hm)

theorem coupled_loop {f : β → α → Exec σ ε β} {as : List α} (T : β → Prop)
    (step : ∀ b, ∀ a ∈ as, T b → Coupled R (f b a) T) {b : β} (hb : T b) :
    Coupled R (loop f b as) T := by
  induction as generalizing b with
  | nil => exact coupled_pure hb
  | cons a as ih =>
      refine coupled_bind (step b a (by simp) hb) fun b' hb' => ih ?_ hb'
      intro c x hx
      exact step c x (by simp [hx])

end Coupled

/-! ### One program returns where the other does -/

section Follows

variable {α' β' : Type} {R : α → α' → Prop} {T : β → β' → Prop}

/-- From whatever states they start: where the first program returns, the second one does, and the
values are related. -/
def Follows (R : α → α' → Prop) (m : Exec σ ε α) (m' : Exec σ ε α') : Prop :=
  ∀ s s' a s₁, m s = (.ok a, s₁) → ∃ b s₂, m' s' = (.ok b, s₂) ∧ R a b

theorem follows_bind {m : Exec σ ε α} {m' : Exec σ ε α'} {f : α → Exec σ ε β}
    {f' : α' → Exec σ ε β'} (hm : Follows R m m') (hf : ∀ a b, R a b → Follows T (f a) (f' b)) :
    Follows T (m >>= f) (m' >>= f') := by
  intro s s' c s₁ h
  obtain ⟨a, s₂, ha, hc⟩ := ok_of_bind h
  obtain ⟨b, s₃, hb, hR⟩ := hm s s' a s₂ ha
  obtain ⟨d, s₄, hd, hT⟩ := hf a b hR s₂ s₃ c s₁ hc
  refine ⟨d, s₄, ?_, hT⟩
  rw [bind_run, hb]
  exact hd

theorem follows_pure {a : α} {b : α'} (h : R a b) :
    Follows R (pure a : Exec σ ε α) (pure b : Exec σ ε α') := by
  intro s s' c s₁ hc
  obtain rfl := Except.ok.inj (Prod.mk.inj hc).1
  exact ⟨b, s', rfl, h⟩

theorem follows_lift {r : Except ε α} {r' : Except ε α'}
    (h : ∀ a, r = .ok a → ∃ b, r' = .ok b ∧ R a b) :
    Follows R (lift r : Exec σ ε α) (lift r' : Exec σ ε α') := by
  intro s s' a s₁ ha
  obtain ⟨b, hb, hR⟩ := h a (Prod.mk.inj ha).1
  exact ⟨b, s', congrArg (·, s') hb, hR⟩

theorem follows_raise {e : ε} {m' : Exec σ ε α'} : Follows R (raise e : Exec σ ε α) m' := by
  intro s s' a s₁ ha
  cases ha

end Follows

end Exec

end BlueTeam.Lib
