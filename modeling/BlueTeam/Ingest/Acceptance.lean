/- GID: BlueTeam/Ingest/Acceptance
   generality: I
   source: packages/ingest-adapters/blueteam_ingest/router.py, and the adapters behind it
   digest: Whether a payload is accepted depends neither on the clock nor on the generated ids. -/

import BlueTeam.Ingest.Normalize

set_option autoImplicit false
set_option relaxedAutoImplicit false

namespace BlueTeam.Ingest

open BlueTeam.Python BlueTeam.Schema BlueTeam.Lib BlueTeam.Lib.Exec

/-! ### Events that differ in what was drawn -/

/-- The fields whose values an adapter draws. -/
def drawnFields : List String :=
  ["id", "timestamp", "ingested_at"]

/-- Arguments with a text for the id and datetimes for the times. -/
structure Drawn (kw : Kwargs) : Prop where
  id : ∃ s, kw.lookup "id" = some (.json (.str s))
  timestamp : ∃ d, kw.lookup "timestamp" = some (.datetime d)
  ingestedAt : ∃ d, kw.lookup "ingested_at" = some (.datetime d)

/-- Arguments that differ in the drawn fields only. -/
structure Alike (kw kw' : Kwargs) : Prop where
  left : Drawn kw
  right : Drawn kw'
  rest : ∀ name, name ∉ drawnFields → kw.lookup name = kw'.lookup name

theorem Drawn.errors_nil {kw : Kwargs} (h : Drawn kw) (rt : Runtime) :
    (Field.required kw Field.str "" "id").errors = [] ∧
      (Field.required kw (Field.datetime rt) "" "timestamp").errors = [] ∧
      (Field.required kw (Field.datetime rt) "" "ingested_at").errors = [] := by
  obtain ⟨⟨id, hid⟩, ⟨stamp, hstamp⟩, ⟨ingested, hingested⟩⟩ := h
  unfold Field.required
  rw [hid, hstamp, hingested]
  exact ⟨rfl, rfl, rfl⟩

theorem Alike.errors_eq {kw kw' : Kwargs} (h : Alike kw kw') (rt : Runtime) :
    (CanonicalEvent.fields rt kw).errors = (CanonicalEvent.fields rt kw').errors := by
  obtain ⟨hid, hstamp, hingested⟩ := h.left.errors_nil rt
  obtain ⟨hid', hstamp', hingested'⟩ := h.right.errors_nil rt
  have hrest := h.rest
  unfold CanonicalEvent.fields
  dsimp only
  rw [hid, hstamp, hingested, hid', hstamp', hingested']
  unfold Field.required Field.optional Field.withDefault
  simp (disch := decide) only [hrest]

theorem Alike.new {kw kw' : Kwargs} (h : Alike kw kw') {rt : Runtime} {event : CanonicalEvent}
    (hnew : CanonicalEvent.new rt kw = .ok event) :
    ∃ event', CanonicalEvent.new rt kw' = .ok event' := by
  unfold CanonicalEvent.new Field.construct at hnew ⊢
  rw [← h.errors_eq rt]
  split at hnew
  · rename_i herrors
    rw [if_pos herrors]
    exact ⟨_, rfl⟩
  · cases hnew

/-- The arguments of an adapter, for one drawing and for another. -/
theorem alike_of_drawn (tenant : Arg) (id id' : String) (stamp stamp' at_ at' : DateTime)
    (rest : Kwargs) :
    Alike (("id", .json (.str id)) :: ("tenant_id", tenant) :: ("timestamp", .datetime stamp) ::
        ("ingested_at", .datetime at_) :: rest)
      (("id", .json (.str id')) :: ("tenant_id", tenant) :: ("timestamp", .datetime stamp') ::
        ("ingested_at", .datetime at') :: rest) := by
  refine ⟨⟨⟨id, rfl⟩, ⟨stamp, rfl⟩, ⟨at_, rfl⟩⟩, ⟨⟨id', rfl⟩, ⟨stamp', rfl⟩, ⟨at', rfl⟩⟩, ?_⟩
  intro name hname
  simp only [drawnFields, List.mem_cons, List.not_mem_nil, or_false, not_or] at hname
  simp only [List.lookup_cons, beq_false_of_ne hname.1, beq_false_of_ne hname.2.1,
    beq_false_of_ne hname.2.2]

/-! ### The adapters -/

section

variable {rt : Runtime}

/-- Drawing never fails, and nothing else is known of what was drawn. -/
theorem follows_newId (tag : String) :
    Follows (fun _ _ => True) (newId rt tag) (newId rt tag) :=
  fun _ _ _ _ _ => ⟨_, _, rfl, trivial⟩

theorem follows_utcnow : Follows (fun _ _ => True) (utcnow rt) (utcnow rt) :=
  fun _ _ _ _ _ => ⟨_, _, rfl, trivial⟩

theorem follows_same {α : Type} (r : Except Exn α) :
    Follows (σ := Ticks) Eq (lift r) (lift r) :=
  follows_lift fun a ha => ⟨a, ha, rfl⟩

theorem follows_eventIdFrom (given : Json) :
    Follows (fun _ _ => True) (eventIdFrom rt given) (eventIdFrom rt given) := by
  unfold eventIdFrom
  split
  · exact follows_pure trivial
  · exact follows_newId _

theorem follows_prefixedId (claimed claimed' : String) :
    Follows (fun _ _ => True) (Network.prefixedId rt claimed) (Network.prefixedId rt claimed') := by
  intro t t' id t₁ _
  unfold Network.prefixedId
  split <;> exact ⟨_, _, rfl, trivial⟩

theorem follows_timestampFrom (given : Json) (read : Json → Except Exn DateTime) :
    Follows (fun _ _ => True) (timestampFrom rt given read) (timestampFrom rt given read) := by
  unfold timestampFrom
  split
  · exact follows_lift fun d hd => ⟨d, hd, trivial⟩
  · exact follows_utcnow

theorem follows_new {kw kw' : Kwargs} (h : Alike kw kw') :
    Follows (σ := Ticks) (fun _ _ => True) (lift (CanonicalEvent.new rt kw))
      (lift (CanonicalEvent.new rt kw')) := by
  refine follows_lift fun event hevent => ?_
  obtain ⟨event', hevent'⟩ := h.new hevent
  exact ⟨event', hevent', trivial⟩

/-- Acceptance is the same from any two states. -/
def Steady (m : Draw CanonicalEvent) : Prop :=
  Follows (fun _ _ => True) m m

theorem steady_of_same {α : Type} {r : Except Exn α} {f : α → Draw CanonicalEvent}
    (h : ∀ a, Steady (f a)) : Steady (lift r >>= f) := by
  refine follows_bind (follows_same r) ?_
  rintro a _ rfl
  exact h a

theorem steady_event (tenantId source sourceType eventType category : String) (raw : JsonObject)
    (fields : Kwargs) :
    Steady (Network.event rt tenantId source sourceType eventType category raw fields) := by
  refine follows_bind (follows_eventIdFrom _) fun claimed claimed' _ => ?_
  refine follows_bind (follows_prefixedId claimed claimed') fun id id' _ => ?_
  refine follows_bind (follows_timestampFrom _ _) fun stamp stamp' _ => ?_
  refine follows_bind follows_utcnow fun at_ at' _ => ?_
  exact follows_new (alike_of_drawn _ _ _ _ _ _ _ _)

theorem steady_canonical (tenantId source eventType category : String) (raw : JsonObject)
    (fields : Kwargs) :
    Steady (Endpoint.canonical rt tenantId source eventType category raw fields) := by
  refine follows_bind (follows_eventIdFrom _) fun id id' _ => ?_
  refine follows_bind (follows_timestampFrom _ _) fun stamp stamp' _ => ?_
  refine follows_bind follows_utcnow fun at_ at' _ => ?_
  exact follows_new (alike_of_drawn _ _ _ _ _ _ _ _)

theorem steady_zeek (raw : JsonObject) (tenantId : String) :
    Steady (Network.normalizeZeek rt raw tenantId) := by
  refine steady_of_same fun name => ?_
  dsimp only
  split
  · exact follows_raise
  · exact steady_of_same fun _ => steady_event _ _ _ _ _ _ _

theorem steady_suricata (raw : JsonObject) (tenantId : String) :
    Steady (Network.normalizeSuricata rt raw tenantId) := by
  unfold Network.normalizeSuricata
  dsimp only
  split
  · exact follows_raise
  · exact steady_of_same fun _ => steady_event _ _ _ _ _ _ _

theorem steady_endpoint (raw : JsonObject) (tenantId : String) :
    Steady (Endpoint.normalizeEndpoint rt raw tenantId) := by
  unfold Endpoint.normalizeEndpoint
  dsimp only
  split_ifs
  · exact steady_of_same fun _ => steady_canonical _ _ _ _ _ _
  · exact steady_of_same fun _ => steady_canonical _ _ _ _ _ _
  · exact steady_of_same fun _ => steady_canonical _ _ _ _ _ _
  · exact steady_of_same fun _ => steady_of_same fun _ => steady_canonical _ _ _ _ _ _

/-- Of two headers of one line, the time stamps may differ. -/
theorem follows_header (text : String) :
    Follows (fun h h' => ∃ stamp, h' = { h with timestamp := stamp }) (Syslog.header rt text)
      (Syslog.header rt text) := by
  unfold Syslog.header
  split
  · refine follows_bind (R := fun _ _ => True) ?_ fun stamp stamp' _ => follows_pure ⟨stamp', rfl⟩
    unfold Syslog.timestampOf
    split
    · exact follows_utcnow
    · exact follows_lift fun d hd => ⟨d, hd, trivial⟩
  · split
    · exact follows_bind follows_utcnow fun stamp stamp' _ => follows_pure ⟨stamp', rfl⟩
    · exact follows_bind follows_utcnow fun stamp stamp' _ => follows_pure ⟨stamp', rfl⟩

theorem steady_syslog (line tenantId : String) :
    Steady (Syslog.parseSyslogLine rt line tenantId) := by
  unfold Syslog.parseSyslogLine
  dsimp only
  split
  · exact follows_raise
  · refine follows_bind (follows_header _) ?_
    rintro h _ ⟨stamp, rfl⟩
    refine follows_bind (follows_newId _) fun id id' _ => ?_
    refine follows_bind follows_utcnow fun at_ at' _ => ?_
    exact follows_new (alike_of_drawn _ _ _ _ _ _ _ _)

theorem steady_generic (payload : JsonObject) (tenantId : String) :
    Steady (Generic.normalizeGeneric rt payload tenantId) := by
  unfold Generic.normalizeGeneric
  split
  · refine steady_of_same fun event => ?_
    split
    · exact follows_raise
    · exact follows_pure trivial
  · refine follows_bind (R := fun _ _ => True) ?_ fun stamp stamp' _ => ?_
    · unfold Generic.timestampOf
      split
      · exact follows_lift fun d hd => ⟨d, hd, trivial⟩
      · exact follows_utcnow
    · refine follows_bind (follows_eventIdFrom _) fun id id' _ => ?_
      refine follows_bind follows_utcnow fun at_ at' _ => ?_
      exact follows_new (alike_of_drawn _ _ _ _ _ _ _ _)

/-- A payload that is accepted once is accepted at any time. -/
theorem steady_payload (payload : JsonObject) (tenantId : String) :
    Steady (normalizePayload rt payload tenantId) := by
  unfold normalizePayload
  dsimp only
  split_ifs
  · exact follows_lift fun event hevent => ⟨event, hevent, trivial⟩
  · exact steady_syslog _ _
  · exact steady_zeek _ _
  · exact steady_suricata _ _
  · exact steady_endpoint _ _
  · exact steady_generic _ _

end

end BlueTeam.Ingest
