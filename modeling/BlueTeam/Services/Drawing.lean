/- GID: BlueTeam/Services/Drawing
   generality: I
   source: packages/python-common/blueteam_common/ids.py, and what draws ids from it
   digest: Generated ids are never drawn twice, and the ids of findings and storylines are drawn. -/

import BlueTeam.Ingest.Routes
import BlueTeam.Services.Ingestion

set_option autoImplicit false
set_option relaxedAutoImplicit false

namespace BlueTeam.Services

open BlueTeam.Python BlueTeam.Schema BlueTeam.Lib BlueTeam.Lib.Exec BlueTeam.Ingest
open BlueTeam.Detection BlueTeam.Correlation

/-- The generator has come as far as `n`. -/
def From (n : Nat) (t : Ticks) : Prop :=
  n ≤ t.uuids

/-- An id that the generator gave out from its `n`-th on. -/
def DrawnId (rt : Runtime) (n : Nat) (tag id : String) : Prop :=
  ∃ k, n ≤ k ∧ id = tag ++ "_" ++ rt.uuid4 k

/-- A computation never winds the generator back. -/
def Draws {α : Type} (n : Nat) (m : Draw α) (Q : α → Prop) : Prop :=
  Triple (From n) m (fun a t => Q a ∧ From n t) (fun _ t => From n t)

section

variable {α β : Type} {n : Nat} {rt : Runtime} {Q : α → Prop} {R : β → Prop}

theorem draws_pure {a : α} (h : Q a) : Draws n (pure a) Q :=
  triple_pure fun _ ht => ⟨h, ht⟩

theorem draws_bind {m : Draw α} {f : α → Draw β} (hm : Draws n m Q)
    (hf : ∀ a, Q a → Draws n (f a) R) : Draws n (m >>= f) R :=
  triple_bind hm fun a => triple_given fun ha => hf a ha

theorem draws_lift {r : Except Exn α} (h : ∀ a, r = .ok a → Q a) : Draws n (lift r) Q :=
  triple_lift (fun a _ ha ht => ⟨h a ha, ht⟩) fun _ _ _ ht => ht

theorem draws_raise {e : Exn} : Draws n (raise e) Q :=
  triple_raise fun _ ht => ht

theorem Draws.post {m : Draw α} {Q' : α → Prop} (h : Draws n m Q') (hQ : ∀ a, Q' a → Q a) :
    Draws n m Q :=
  Triple.post h fun a _ ha => ⟨hQ a ha.1, ha.2⟩

theorem draws_newId (tag : String) : Draws n (newId rt tag) (DrawnId rt n tag) := by
  constructor
  intro t ht
  exact ⟨⟨t.uuids, ht, rfl⟩, Nat.le_succ_of_le ht⟩

theorem draws_utcnow : Draws n (utcnow rt) (fun _ => True) := by
  constructor
  intro t ht
  exact ⟨trivial, ht⟩

theorem draws_loop {f : β → α → Draw β} {as : List α} (h : ∀ b, ∀ a ∈ as, R b → Draws n (f b a) R)
    {b : β} (hb : R b) : Draws n (loop f b as) R := by
  induction as generalizing b with
  | nil => exact draws_pure hb
  | cons a as ih =>
      refine draws_bind (h b a List.mem_cons_self hb) fun b' hb' => ih ?_ hb'
      exact fun c x hx => h c x (List.mem_cons_of_mem _ hx)

/-- What is drawn includes that it is the result of a run from the `n`-th id on. -/
theorem Draws.traced {m : Draw α} (h : Draws n m Q) :
    Draws n m fun a => Q a ∧ ∃ t t', n ≤ t.uuids ∧ m t = (.ok a, t') := by
  constructor
  intro t ht
  have hrun := h.run t ht
  rcases hm : m t with ⟨⟨e⟩ | ⟨a⟩, t'⟩
  · rw [hm] at hrun
    exact hrun
  · rw [hm] at hrun
    exact ⟨⟨hrun.1, t, t', ht, hm⟩, hrun.2⟩

end

/-! ### Normalisation -/

section

variable {n : Nat} {rt : Runtime}

theorem draws_eventIdFrom (given : Json) : Draws n (eventIdFrom rt given) (fun _ => True) := by
  unfold eventIdFrom
  split
  · exact draws_pure trivial
  · exact (draws_newId _).post fun _ _ => trivial

theorem draws_timestampFrom (given : Json) (read : Json → Except Exn DateTime) :
    Draws n (timestampFrom rt given read) (fun _ => True) := by
  unfold timestampFrom
  split
  · exact draws_lift fun _ _ => trivial
  · exact draws_utcnow

theorem draws_prefixedId (claimed : String) :
    Draws n (Network.prefixedId rt claimed) (fun _ => True) := by
  unfold Network.prefixedId
  split
  · exact draws_pure trivial
  · exact (draws_newId _).post fun _ _ => trivial

/-- An event for one tenant. -/
def DrawsFor (n : Nat) (tenantId : String) (m : Draw CanonicalEvent) : Prop :=
  Draws n m fun event => event.tenantId = tenantId

theorem drawsFor_new {kw : Kwargs} {tenantId : String}
    (h : kw.lookup "tenant_id" = some (.json (.str tenantId))) :
    DrawsFor n tenantId (lift (CanonicalEvent.new rt kw)) := by
  refine draws_lift fun event hevent => ?_
  have htenant := (constructed_of_new hevent).tenantId
  rw [h] at htenant
  cases htenant
  rfl

theorem drawsFor_lifted {α : Type} {r : Except Exn α} {f : α → Draw CanonicalEvent}
    {tenantId : String} (h : ∀ a, DrawsFor n tenantId (f a)) :
    DrawsFor n tenantId (lift r >>= f) :=
  draws_bind (draws_lift fun _ _ => trivial) fun a (_ : True) => h a

variable (tenantId : String)

theorem drawsFor_event (source sourceType eventType category : String) (raw : JsonObject)
    (fields : Kwargs) :
    DrawsFor n tenantId
      (Network.event rt tenantId source sourceType eventType category raw fields) := by
  refine draws_bind (draws_eventIdFrom _) fun claimed _ => ?_
  refine draws_bind (draws_prefixedId claimed) fun id _ => ?_
  refine draws_bind (draws_timestampFrom _ _) fun stamp _ => ?_
  refine draws_bind draws_utcnow fun at_ _ => ?_
  exact drawsFor_new rfl

theorem drawsFor_canonical (source eventType category : String) (raw : JsonObject)
    (fields : Kwargs) :
    DrawsFor n tenantId
      (Endpoint.canonical rt tenantId source eventType category raw fields) := by
  refine draws_bind (draws_eventIdFrom _) fun id _ => ?_
  refine draws_bind (draws_timestampFrom _ _) fun stamp _ => ?_
  refine draws_bind draws_utcnow fun at_ _ => ?_
  exact drawsFor_new rfl

theorem drawsFor_zeek (raw : JsonObject) :
    DrawsFor n tenantId (Network.normalizeZeek rt raw tenantId) := by
  refine drawsFor_lifted fun name => ?_
  dsimp only
  split
  · exact draws_raise
  · exact drawsFor_lifted fun _ => drawsFor_event _ _ _ _ _ _ _

theorem drawsFor_suricata (raw : JsonObject) :
    DrawsFor n tenantId (Network.normalizeSuricata rt raw tenantId) := by
  unfold Network.normalizeSuricata
  dsimp only
  split
  · exact draws_raise
  · exact drawsFor_lifted fun _ => drawsFor_event _ _ _ _ _ _ _

theorem drawsFor_endpoint (raw : JsonObject) :
    DrawsFor n tenantId (Endpoint.normalizeEndpoint rt raw tenantId) := by
  unfold Endpoint.normalizeEndpoint
  dsimp only
  split_ifs
  · exact drawsFor_lifted fun _ => drawsFor_canonical _ _ _ _ _ _
  · exact drawsFor_lifted fun _ => drawsFor_canonical _ _ _ _ _ _
  · exact drawsFor_lifted fun _ => drawsFor_canonical _ _ _ _ _ _
  · exact drawsFor_lifted fun _ => drawsFor_lifted fun _ => drawsFor_canonical _ _ _ _ _ _

theorem draws_header (text : String) : Draws n (Syslog.header rt text) (fun _ => True) := by
  unfold Syslog.header
  split
  · refine draws_bind (Q := fun _ => True) ?_ fun stamp _ => draws_pure trivial
    unfold Syslog.timestampOf
    split
    · exact draws_utcnow
    · exact draws_lift fun _ _ => trivial
  · split
    · exact draws_bind draws_utcnow fun _ _ => draws_pure trivial
    · exact draws_bind draws_utcnow fun _ _ => draws_pure trivial

theorem drawsFor_syslog (line : String) :
    DrawsFor n tenantId (Syslog.parseSyslogLine rt line tenantId) := by
  unfold Syslog.parseSyslogLine
  dsimp only
  split
  · exact draws_raise
  · refine draws_bind (draws_header _) fun _ _ => ?_
    refine draws_bind (draws_newId _) fun _ _ => ?_
    refine draws_bind draws_utcnow fun _ _ => ?_
    exact drawsFor_new rfl

theorem drawsFor_generic (payload : JsonObject) :
    DrawsFor n tenantId (Generic.normalizeGeneric rt payload tenantId) := by
  unfold Generic.normalizeGeneric
  split
  · refine drawsFor_lifted fun event => ?_
    split
    · exact draws_raise
    · rename_i htenant
      exact draws_pure (not_not.mp htenant)
  · refine draws_bind (Q := fun _ => True) ?_ fun stamp _ => ?_
    · unfold Generic.timestampOf
      split
      · exact draws_lift fun _ _ => trivial
      · exact draws_utcnow
    · refine draws_bind (draws_eventIdFrom _) fun _ _ => ?_
      refine draws_bind draws_utcnow fun _ _ => ?_
      exact drawsFor_new rfl

/-- Whatever tenant a payload claims, its event belongs to the tenant that sent it. -/
theorem drawsFor_normalizePayload (payload : JsonObject) :
    DrawsFor n tenantId (normalizePayload rt payload tenantId) := by
  unfold normalizePayload
  dsimp only
  split_ifs
  · refine drawsFor_new ?_
    rw [lookup_ofObject, lookup_setKey_self]
    rfl
  · exact drawsFor_syslog _ _
  · exact drawsFor_zeek _ _
  · exact drawsFor_suricata _ _
  · exact drawsFor_endpoint _ _
  · exact drawsFor_generic _ _

end

/-- The object store may add an attribute. -/
theorem draws_bestEffortProject {n : Nat} (rt : Runtime) (event : CanonicalEvent) :
    Draws n (bestEffortProject rt event)
      fun event' => ∃ attributes, event' = { event with attributes := attributes } := by
  unfold bestEffortProject
  split
  · exact draws_pure ⟨event.attributes, rfl⟩
  · refine draws_bind (draws_newId _) fun _ _ => ?_
    exact draws_pure ⟨_, rfl⟩

theorem draws_timelineEvent {n : Nat} (rt : Runtime) (kind actorId summary : String)
    (detail : JsonObject) :
    Draws n (timelineEvent rt kind actorId summary detail) (fun _ => True) := by
  refine draws_bind (draws_newId _) fun _ _ => ?_
  refine draws_bind draws_utcnow fun _ _ => ?_
  exact draws_pure trivial

/-! ### Detection -/

section

variable {n : Nat} {rt : Runtime}

theorem draws_findingFromEvents (rule : DetectionRule) (trigger : CanonicalEvent)
    (related : List CanonicalEvent) (fingerprint explanation : String) :
    Draws n (findingFromEvents rt rule trigger related fingerprint explanation)
      fun finding => DrawnId rt n "fnd" finding.id := by
  refine draws_bind (draws_newId _) fun id hid => ?_
  refine draws_bind draws_utcnow fun createdAt _ => ?_
  refine draws_bind (draws_lift fun _ _ => trivial) fun attributes (_ : True) => ?_
  exact draws_pure hid

theorem draws_evaluate (rule : DetectionRule) (event : CanonicalEvent)
    (context : DetectionContext) :
    Draws n (rule.evaluate rt event context)
      fun findings => ∀ finding ∈ findings, DrawnId rt n "fnd" finding.id := by
  unfold DetectionRule.evaluate
  refine draws_bind (draws_lift fun _ _ => trivial) fun selected (_ : True) => ?_
  cases selected with
  | none => exact draws_pure (by simp)
  | some selection =>
      dsimp only
      split
      · exact draws_pure (by simp)
      · refine draws_bind (draws_findingFromEvents _ _ _ _ _) fun finding hfinding => ?_
        exact draws_pure (by simpa using hfinding)

/-- The ids of findings are drawn. -/
theorem draws_evaluateAll (rules : List DetectionRule) (event : CanonicalEvent)
    (context : DetectionContext) :
    Draws n (evaluateAll rt rules event context)
      fun findings => ∀ finding ∈ findings, DrawnId rt n "fnd" finding.id := by
  unfold evaluateAll
  refine draws_loop ?_ (by simp)
  intro findings rule _ hfindings
  split
  · refine draws_bind (draws_evaluate _ _ _) fun more hmore => ?_
    exact draws_pure (List.forall_mem_append.mpr ⟨hfindings, hmore⟩)
  · exact draws_pure hfindings

end

/-! ### Correlation -/

section

variable {n : Nat} {rt : Runtime}

/-- Storylines with ids from the generator. -/
def DrawnStories (rt : Runtime) (n : Nat) (stories : List Storyline) : Prop :=
  ∀ story ∈ stories, DrawnId rt n "stl" story.storylineId

theorem draws_story (tenantId title : String) (first : DateTime) (stages : List StorylineStage)
    (techniques evidenceIds eventIds : List String) (entities : List (String × List String))
    (confidence : Rat) :
    Draws n (do
      let storyline ← story rt tenantId title first stages techniques evidenceIds eventIds entities
        confidence
      pure [storyline]) (DrawnStories rt n) := by
  refine draws_bind (Q := fun storyline => DrawnId rt n "stl" storyline.storylineId) ?_ ?_
  · refine draws_bind (draws_lift fun _ _ => trivial) fun start (_ : True) => ?_
    refine draws_bind (draws_lift fun _ _ => trivial) fun finish (_ : True) => ?_
    refine draws_bind (draws_newId _) fun id hid => ?_
    exact draws_pure hid
  · intro storyline hstoryline
    exact draws_pure (by simpa [DrawnStories] using hstoryline)

theorem draws_none : Draws n (pure []) (DrawnStories rt n) :=
  draws_pure (by simp [DrawnStories])

theorem draws_collect {α : Type} {f : α → Draw (List Storyline)} {items : List α}
    (h : ∀ item, Draws n (f item) (DrawnStories rt n)) :
    Draws n (collect f items) (DrawnStories rt n) := by
  unfold collect
  refine draws_loop ?_ (by simp [DrawnStories])
  intro out item _ hout
  refine draws_bind (h item) fun more hmore => ?_
  exact draws_pure (List.forall_mem_append.mpr ⟨hout, hmore⟩)

theorem draws_identityChain (findings : List Finding) (events : List CanonicalEvent) :
    Draws n (identityChain rt findings events) (DrawnStories rt n) := by
  refine draws_collect fun spray => ?_
  refine draws_bind (draws_lift fun _ _ => trivial) fun grant (_ : True) => ?_
  refine draws_bind (draws_lift fun _ _ => trivial) fun later (_ : True) => ?_
  split
  · exact draws_none
  · exact draws_story _ _ _ _ _ _ _ _ _

theorem draws_officeC2 (findings : List Finding) :
    Draws n (officeC2 rt findings) (DrawnStories rt n) := by
  refine draws_collect fun spawn => ?_
  unfold officeStory
  split
  · exact draws_none
  · exact draws_story _ _ _ _ _ _ _ _ _

theorem draws_lateralC2 (findings : List Finding) :
    Draws n (lateralC2 rt findings) (DrawnStories rt n) := by
  unfold lateralC2
  split
  · exact draws_story _ _ _ _ _ _ _ _ _
  · exact draws_none

theorem draws_groupStory (rule : CorrelationRule) (matched : List Finding) (entity : String) :
    Draws n (groupStory rt rule matched entity) (DrawnStories rt n) := by
  unfold groupStory
  dsimp only
  split
  · exact draws_none
  · split
    · exact draws_none
    · refine draws_bind (draws_lift fun _ _ => trivial) fun finish (_ : True) => ?_
      refine draws_bind (draws_lift fun _ _ => trivial) fun start (_ : True) => ?_
      refine draws_bind (draws_lift fun _ _ => trivial) fun span (_ : True) => ?_
      refine draws_bind (draws_lift fun _ _ => trivial) fun window (_ : True) => ?_
      split
      · exact draws_none
      · refine draws_bind (draws_newId _) fun id hid => ?_
        exact draws_pure (by simpa [DrawnStories] using hid)

theorem draws_applyCorrelationRules (findings : List Finding) (rules : List CorrelationRule) :
    Draws n (applyCorrelationRules rt findings rules) (DrawnStories rt n) := by
  refine draws_collect fun rule => ?_
  unfold applyCorrelationRule
  dsimp only
  split
  · exact draws_collect fun entity => draws_groupStory _ _ _
  · exact draws_none

theorem drawnStories_appendNew {storylines extras : List Storyline}
    (hstorylines : DrawnStories rt n storylines) (hextras : DrawnStories rt n extras) :
    DrawnStories rt n (appendNew storylines extras) := by
  unfold appendNew
  induction extras generalizing storylines with
  | nil => exact hstorylines
  | cons extra extras ih =>
      obtain ⟨hextra, hextras⟩ := List.forall_mem_cons.mp hextras
      rw [List.foldl_cons]
      refine ih ?_ hextras
      split
      · exact hstorylines
      · exact List.forall_mem_append.mpr ⟨hstorylines, by simpa using hextra⟩

/-- The ids of storylines are drawn. -/
theorem draws_correlate (events : List CanonicalEvent) (findings : List Finding) :
    Draws n (correlate rt events findings) (DrawnStories rt n) := by
  unfold correlate
  split
  · exact draws_none
  · refine draws_bind (draws_identityChain _ _) fun identity hidentity => ?_
    refine draws_bind (draws_officeC2 _) fun office hoffice => ?_
    refine draws_bind (draws_lateralC2 _) fun lateral hlateral => ?_
    refine draws_bind (draws_applyCorrelationRules _ _) fun extras hextras => ?_
    have hall : DrawnStories rt n (identity ++ office ++ lateral) :=
      List.forall_mem_append.mpr ⟨List.forall_mem_append.mpr ⟨hidentity, hoffice⟩, hlateral⟩
    exact draws_pure (drawnStories_appendNew hall hextras)

end

end BlueTeam.Services
