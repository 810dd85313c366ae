/- GID: BlueTeam/Objects/Store
   generality: I
   source: packages/object-store/blueteam_objects/store.py
   digest: Where the local object store writes, and what it reads back. -/

import BlueTeam.Lib.Machine
import BlueTeam.Lib.Paths
import BlueTeam.Lib.Sha256
import BlueTeam.Python.Runtime

set_option autoImplicit false
set_option relaxedAutoImplicit false

namespace BlueTeam.Objects

open BlueTeam.Python BlueTeam.Lib BlueTeam.Lib.Exec BlueTeam.Lib.Paths

abbrev Bytes := List UInt8

/-- The files of the machine, each under its normalised path. -/
abbrev Files := Path → Option Bytes

structure ObjectRef where
  objectId : String
  uri : String
  sha256 : String
  bytesWritten : Nat
  backend : String
  deriving DecidableEq, Repr

structure Storage where
  files : Files
  ticks : Ticks := {}

inductive StoreFailure
  | osError
  | python (e : Exn)
  deriving DecidableEq, Repr

structure LocalObjectStore where
  /-- the directory of the store -/
  root : Path
  /-- the writes that the operating system does not let through -/
  refuses : Files → Path → Bool

def backend : String := "local"

/-- `key.replace("\\", "/").lstrip("/")` -/
def safeKey (key : String) : String :=
  String.ofList ((key.toList.map fun c => if c = '\\' then '/' else c).dropWhile fun c => c = '/')

/-- The components of a text that is joined to a path. -/
def components (text : String) : List String :=
  (text.toList.splitOn '/').map String.ofList

/-- The key under which the raw payload of an event is kept. -/
def rawKey (eventId : String) : String :=
  "raw/" ++ eventId ++ ".json"

def uriOf (tenantId key : String) : String :=
  "local://" ++ tenantId ++ "/" ++ safeKey key

namespace LocalObjectStore

variable (store : LocalObjectStore) (rt : Runtime)

/-- `self.root / tenant_id / safe_key` -/
def path (tenantId key : String) : Path :=
  resolve (resolve store.root (components tenantId)) (components (safeKey key))

/-- `path.write_bytes(payload)` -/
def writeBytes (path : Path) (payload : Bytes) : Exec Storage StoreFailure Unit := fun s =>
  if store.refuses s.files path then (.error .osError, s)
  else (.ok (), { s with files := Function.update s.files path (some payload) })

def put (tenantId key : String) (payload : Bytes) : Exec Storage StoreFailure ObjectRef := do
  let digest := String.ofList (Sha256.hexdigest (payload.map UInt8.toNat))
  store.writeBytes (store.path tenantId key) payload
  let objectId ← Exec.zoom Storage.ticks (fun s t => { s with ticks := t }) .python (newId rt "obj")
  pure ⟨objectId, uriOf tenantId key, digest, payload.length, backend⟩

/-- `self.root / relative`: an absolute path is taken as it is. -/
def pathOf (relative : String) : Path :=
  if relative.toList.head? = some '/' then resolve [] (components relative)
  else resolve store.root (components relative)

def get (uri : String) : Exec Storage StoreFailure Bytes := do
  if "local://".toList.isPrefixOf uri.toList then
    let relative := String.ofList (uri.toList.drop 8)
    match ← Exec.gets fun s => s.files (store.pathOf relative) with
    | some payload => pure payload
    | none => Exec.raise .osError
  else Exec.raise (.python (.valueError "not a local object uri"))

end LocalObjectStore

/-! ### Sequences of puts -/

structure PutCall where
  tenantId : String
  key : String
  payload : Bytes
  deriving DecidableEq, Repr

/-- A tenant's name: it starts with `ten_` and has no slash. -/
structure TenantName (tenantId : String) : Prop where
  tagged : "ten_".toList <+: tenantId.toList
  flat : '/' ∉ tenantId.toList

namespace LocalObjectStore

variable (store : LocalObjectStore) (rt : Runtime)

/-- Puts that all go through, and their refs. -/
def putAll (puts : List PutCall) : Exec Storage StoreFailure (List ObjectRef) :=
  Exec.loop (fun refs p => do
    let ref ← store.put rt p.tenantId p.key p.payload
    pure (refs ++ [ref])) [] puts

def afterPut (s : Storage) (p : PutCall) : Storage :=
  (store.put rt p.tenantId p.key p.payload s).2

/-- The latest payload that was put under the tenant and the key. -/
def latest (puts : List PutCall) (p : PutCall) : Option Bytes :=
  lastWrite (puts.map fun q => ((q.tenantId, q.key), q.payload)) (p.tenantId, p.key)

/-- The latest payload that was put under any tenant and key of that path. -/
def latestAt (puts : List PutCall) (p : PutCall) : Option Bytes :=
  lastWrite (puts.map fun q => (store.path q.tenantId q.key, q.payload))
    (store.path p.tenantId p.key)

/-- Every ref reads what was put last under its tenant and key. -/
def RoundTrips (puts : List PutCall) (refs : List ObjectRef) (s : Storage) : Prop :=
  ∀ x ∈ puts.zip refs, ∃ payload, latest puts x.1 = some payload ∧
    (store.get x.2.uri s).1 = .ok payload

/-- The directory of a tenant. -/
def home (tenantId : String) : Path :=
  store.root ++ [tenantId]

/-- A put of a tenant leaves every file outside its directory as it is. -/
def Confined (s : Storage) (p : PutCall) : Prop :=
  ∀ path, ¬ store.home p.tenantId <+: path → (store.afterPut rt s p).files path = s.files path

/-- The put goes to the tenant's directory, or to a file that has these bytes already. -/
def Aimed (s : Storage) (p : PutCall) : Prop :=
  store.home p.tenantId <+: store.path p.tenantId p.key ∨
    s.files (store.path p.tenantId p.key) = some p.payload

/-! ### Paths of the store -/

section

variable {store : LocalObjectStore} {rt : Runtime} {tenantId key : String}

theorem components_of_flat {text : String} (h : '/' ∉ text.toList) : components text = [text] := by
  unfold components
  rw [List.splitOn_eq_singleton h]
  simp

theorem components_append_slash {front : String} (h : '/' ∉ front.toList) (rest : String) :
    components (front ++ "/" ++ rest) = front :: components rest := by
  have hlist : (front ++ "/" ++ rest).toList = front.toList ++ '/' :: rest.toList := by simp
  unfold components
  rw [hlist, List.splitOn_append_cons_self_of_not_mem h]
  simp

/-- The name of a tenant is no dots. -/
theorem enter_tenantName (h : TenantName tenantId) (dir : Path) :
    enter dir tenantId = dir ++ [tenantId] := by
  obtain ⟨rest, hrest⟩ := h.tagged
  have hne (text : String) (htext : text.toList.head? ≠ some 't') : tenantId ≠ text := by
    rintro rfl
    rw [← hrest] at htext
    exact htext rfl
  unfold enter
  rw [if_neg (by simp [hne "" (by decide), hne "." (by decide)]), if_neg (hne ".." (by decide))]

theorem path_eq (h : TenantName tenantId) :
    store.path tenantId key = resolve (store.home tenantId) (components (safeKey key)) := by
  have hhome : resolve store.root [tenantId] = store.home tenantId := enter_tenantName h store.root
  unfold path
  rw [components_of_flat h.flat, hhome]

/-- A key without a step up stays in the directory of its tenant. -/
theorem home_prefix_path (h : TenantName tenantId) (hkey : ".." ∉ components (safeKey key)) :
    store.home tenantId <+: store.path tenantId key := by
  rw [path_eq h]
  exact prefix_resolve hkey _

/-- The address of a put leads back to its path. -/
theorem get_uriOf (h : TenantName tenantId) (s : Storage) (payload : Bytes) :
    (store.get (uriOf tenantId key) s).1 = .ok payload ↔
      s.files (store.path tenantId key) = some payload := by
  have huri : (uriOf tenantId key).toList =
      "local://".toList ++ (tenantId ++ "/" ++ safeKey key).toList := by
    simp [uriOf]
  have hlocal : "local://".toList.isPrefixOf (uriOf tenantId key).toList = true := by
    rw [huri]
    exact List.isPrefixOf_iff_prefix.mpr (List.prefix_append _ _)
  have hrelative : String.ofList ((uriOf tenantId key).toList.drop 8) =
      tenantId ++ "/" ++ safeKey key := by
    rw [huri, List.drop_left' (by decide), String.ofList_toList]
  have hpath : store.pathOf (tenantId ++ "/" ++ safeKey key) = store.path tenantId key := by
    obtain ⟨rest, hrest⟩ := h.tagged
    have hhead : (tenantId ++ "/" ++ safeKey key).toList.head? ≠ some '/' := by
      simp [← hrest]
    unfold pathOf
    rw [if_neg hhead, components_append_slash h.flat, resolve_cons, enter_tenantName h, path_eq h]
    rfl
  unfold get
  rw [if_pos hlocal]
  show (andThen _ (Except.ok (s.files
    (store.pathOf (String.ofList ((uriOf tenantId key).toList.drop 8)))), s)).1 = _ ↔ _
  rw [hrelative, hpath]
  cases s.files (store.path tenantId key) with
  | none => simp [andThen, Exec.raise]
  | some content => simp [andThen]

/-! ### What a put does -/

theorem put_ok {p : PutCall} {s s' : Storage} {ref : ObjectRef}
    (h : store.put rt p.tenantId p.key p.payload s = (.ok ref, s')) :
    ref.uri = uriOf p.tenantId p.key ∧
      s'.files = Function.update s.files (store.path p.tenantId p.key) (some p.payload) := by
  obtain ⟨u, s₁, hwrite, hafter⟩ := ok_of_bind h
  obtain ⟨objectId, s₂, hid, hpure⟩ := ok_of_bind hafter
  unfold writeBytes at hwrite
  split at hwrite
  · cases hwrite
  · cases hwrite
    cases hid
    cases hpure
    exact ⟨rfl, rfl⟩

/-- The put goes through. -/
def Lands (store : LocalObjectStore) (rt : Runtime) (s : Storage) (p : PutCall) : Prop :=
  ∃ ref s', store.put rt p.tenantId p.key p.payload s = (.ok ref, s')

theorem confined_iff {s : Storage} {p : PutCall} (h : store.Lands rt s p) :
    store.Confined rt s p ↔ store.Aimed s p := by
  obtain ⟨ref, s', hput⟩ := h
  have hfiles : (store.afterPut rt s p).files =
      Function.update s.files (store.path p.tenantId p.key) (some p.payload) := by
    unfold afterPut
    rw [hput]
    exact (put_ok hput).2
  unfold Confined Aimed
  rw [hfiles]
  constructor
  · intro hconfined
    by_cases hinside : store.home p.tenantId <+: store.path p.tenantId p.key
    · exact .inl hinside
    · have hsame := hconfined _ hinside
      rw [Function.update_self] at hsame
      exact .inr hsame.symm
  · intro haimed path houtside
    by_cases hpath : path = store.path p.tenantId p.key
    · subst hpath
      rw [Function.update_self]
      exact (haimed.resolve_left houtside).symm
    · exact Function.update_of_ne hpath _ _

/-- A sequence of puts that goes through writes one file after the other. -/
theorem putAll_ok {puts : List PutCall} {s s' : Storage} {refs : List ObjectRef}
    (h : store.putAll rt puts s = (.ok refs, s')) :
    List.Forall₂ (fun p ref => ref.uri = uriOf p.tenantId p.key) puts refs ∧
      s'.files = writeAll s.files
        (puts.map fun p => (store.path p.tenantId p.key, p.payload)) ∧
      Machine.Along (store.afterPut rt) (store.Lands rt) s puts := by
  have hloop : ∀ (done : List ObjectRef) (s : Storage), Exec.loop (fun refs (p : PutCall) => do
      let ref ← store.put rt p.tenantId p.key p.payload
      pure (refs ++ [ref])) done puts s = (.ok refs, s') → ∃ more, refs = done ++ more ∧
      List.Forall₂ (fun p ref => ref.uri = uriOf p.tenantId p.key) puts more ∧
      s'.files = writeAll s.files
        (puts.map fun p => (store.path p.tenantId p.key, p.payload)) ∧
      Machine.Along (store.afterPut rt) (store.Lands rt) s puts := by
    clear h
    induction puts with
    | nil =>
        intro done s h
        cases h
        exact ⟨[], (List.append_nil _).symm, .nil, rfl, trivial⟩
    | cons p puts ih =>
        intro done s h
        obtain ⟨refs', s₁, hturn, hrest⟩ := ok_of_bind h
        obtain ⟨ref, s₂, hput, hpure⟩ := ok_of_bind hturn
        cases hpure
        obtain ⟨more, hmore, hrefs, hfiles, halong⟩ := ih _ _ hrest
        obtain ⟨huri, hwritten⟩ := put_ok hput
        refine ⟨ref :: more, ?_, .cons huri hrefs, ?_, ⟨ref, s₁, hput⟩, ?_⟩
        · rw [hmore, List.append_assoc]
          rfl
        · rw [hfiles, hwritten]
          rfl
        · have hafter : store.afterPut rt s p = s₁ := by
            unfold afterPut
            rw [hput]
          rw [hafter]
          exact halong
  obtain ⟨more, hmore, hrest⟩ := hloop [] s h
  rw [hmore]
  exact hrest

/-- The refs read back what was put exactly where keys that share a path share their last
payload. -/
theorem roundTrips_iff {puts : List PutCall} {s s' : Storage} {refs : List ObjectRef}
    (htenants : ∀ p ∈ puts, TenantName p.tenantId)
    (h : store.putAll rt puts s = (.ok refs, s')) :
    store.RoundTrips puts refs s' ↔ ∀ p ∈ puts, latest puts p = store.latestAt puts p := by
  obtain ⟨hrefs, hfiles, -⟩ := putAll_ok h
  have hread : ∀ p ∈ puts, s'.files (store.path p.tenantId p.key) = store.latestAt puts p := by
    intro p hp
    have hmem : (store.path p.tenantId p.key, p.payload) ∈
        puts.map fun q => (store.path q.tenantId q.key, q.payload) := List.mem_map_of_mem hp
    rw [hfiles, writeAll_of_mem _ hmem]
    rfl
  constructor
  · intro htrips p hp
    obtain ⟨i, hi, rfl⟩ := List.getElem_of_mem hp
    have hlen := hrefs.length_eq
    have hzip : (puts[i], refs[i]) ∈ puts.zip refs := by
      rw [← List.getElem_zip (h := by simp [← hlen, hi])]
      exact List.getElem_mem _
    obtain ⟨payload, hlatest, hget⟩ := htrips _ hzip
    have huri : refs[i].uri = uriOf puts[i].tenantId puts[i].key :=
      List.forall₂_zip hrefs hzip
    rw [huri, get_uriOf (htenants _ hp), hread _ hp] at hget
    exact hlatest.trans hget.symm
  · intro hsame x hx
    have hp : x.1 ∈ puts := (List.of_mem_zip hx).1
    have huri : x.2.uri = uriOf x.1.tenantId x.1.key := List.forall₂_zip hrefs hx
    obtain ⟨payload, hpayload⟩ : ∃ payload, latest puts x.1 = some payload :=
      exists_lastWrite (List.mem_map_of_mem hp)
    refine ⟨payload, hpayload, ?_⟩
    rw [huri, get_uriOf (htenants _ hp), hread _ hp, ← hsame _ hp]
    exact hpayload

/-- An id without separators names a file of the tenant's own. -/
theorem path_rawKey (h : TenantName tenantId) {eventId : String} (hslash : '/' ∉ eventId.toList)
    (hback : '\\' ∉ eventId.toList) :
    store.path tenantId (rawKey eventId) = store.home tenantId ++ ["raw", eventId ++ ".json"] := by
  have hkept : eventId.toList.map (fun c => if c = '\\' then '/' else c) = eventId.toList := by
    have hid : ∀ c ∈ eventId.toList, (if c = '\\' then '/' else c) = id c := by
      intro c hc
      have hne : c ≠ '\\' := fun heq => hback (heq ▸ hc)
      exact if_neg hne
    rw [List.map_congr_left hid, List.map_id]
  have hsafe : safeKey (rawKey eventId) = "raw" ++ "/" ++ (eventId ++ ".json") := by
    apply String.toList_injective
    simp [safeKey, rawKey, hkept]
  have hfile : '/' ∉ (eventId ++ ".json").toList := by
    simp [hslash]
  have hlong : 5 ≤ (eventId ++ ".json").toList.length := by
    simp
  have hne (text : String) (htext : text.toList.length < 5) : eventId ++ ".json" ≠ text := by
    intro heq
    rw [heq] at hlong
    omega
  have hraw : enter (store.home tenantId) "raw" = store.home tenantId ++ ["raw"] := rfl
  have henter : enter (store.home tenantId ++ ["raw"]) (eventId ++ ".json") =
      store.home tenantId ++ ["raw"] ++ [eventId ++ ".json"] := by
    unfold enter
    rw [if_neg (by simp only [hne "" (by decide), hne "." (by decide), or_self, not_false_eq_true]),
      if_neg (hne ".." (by decide))]
  rw [path_eq h, hsafe, components_append_slash (by decide), components_of_flat hfile,
    resolve_cons, hraw, resolve_cons, henter]
  simp [resolve]

end

/-! ### When the store keeps its promise -/

/-- For puts that go through, the refs read back the latest payloads and every put stays in its
tenant's directory exactly if keys of one path share their last payload and every put is aimed at
that directory, or at bytes that are there already. -/
theorem puts_kept_iff (store : LocalObjectStore) (rt : Runtime) (puts : List PutCall)
    (refs : List ObjectRef) (s s' : Storage) (htenants : ∀ p ∈ puts, TenantName p.tenantId)
    (hrun : store.putAll rt puts s = (.ok refs, s')) :
    (store.RoundTrips puts refs s' ∧
        Machine.Along (store.afterPut rt) (store.Confined rt) s puts) ↔
      (∀ p ∈ puts, latest puts p = store.latestAt puts p) ∧
        Machine.Along (store.afterPut rt) store.Aimed s puts := by
  have hlands := (putAll_ok hrun).2.2
  exact and_congr (roundTrips_iff htenants hrun)
    (hlands.congr fun _ _ hput => confined_iff hput)

/-! ### Samples -/

def sampleStore : LocalObjectStore where
  root := ["data", "objects"]
  refuses _ _ := false

theorem tenantName_sample : TenantName "ten_a" :=
  ⟨by decide, by decide⟩

/-- The refs and the files after some puts into an empty store. -/
def samplePuts (puts : List PutCall) : Except StoreFailure (List ObjectRef) × Storage :=
  sampleStore.putAll sampleRuntime puts { files := fun _ => none }

theorem puts_kept_iff_plain :
    sampleStore.RoundTrips [⟨"ten_a", rawKey "evt_1", [1]⟩]
        [⟨"obj_0", uriOf "ten_a" (rawKey "evt_1"),
          String.ofList (Sha256.hexdigest [1]), 1, "local"⟩]
        (samplePuts [⟨"ten_a", rawKey "evt_1", [1]⟩]).2 ∧
      Machine.Along (sampleStore.afterPut sampleRuntime) (sampleStore.Confined sampleRuntime)
        { files := fun _ => none } [⟨"ten_a", rawKey "evt_1", [1]⟩] := by
  have htenants : ∀ p ∈ [PutCall.mk "ten_a" (rawKey "evt_1") [1]], TenantName p.tenantId := by
    intro p hp
    obtain rfl := List.mem_singleton.mp hp
    exact tenantName_sample
  refine (puts_kept_iff sampleStore sampleRuntime _ _ { files := fun _ => none } _ htenants
    rfl).mpr ⟨?_, ?_, trivial⟩
  · intro p hp
    obtain rfl := List.mem_singleton.mp hp
    decide +kernel
  · left
    decide +kernel

/-- An event id with steps up writes into the directory of another tenant. -/
theorem put_escapes :
    TenantName "ten_a" ∧
      (samplePuts [⟨"ten_a", rawKey "../../ten_b/evt_1", [1]⟩]).1.isOk = true ∧
      ¬ Machine.Along (sampleStore.afterPut sampleRuntime) (sampleStore.Confined sampleRuntime)
        { files := fun _ => none } [⟨"ten_a", rawKey "../../ten_b/evt_1", [1]⟩] := by
  refine ⟨tenantName_sample, rfl, ?_⟩
  rintro ⟨hconfined, -⟩
  have hsame := hconfined ["data", "objects", "ten_b", "evt_1.json"] (by decide)
  have hpath : sampleStore.path "ten_a" (rawKey "../../ten_b/evt_1") =
      ["data", "objects", "ten_b", "evt_1.json"] := by decide +kernel
  have hwritten : (sampleStore.afterPut sampleRuntime { files := fun _ => none }
      ⟨"ten_a", rawKey "../../ten_b/evt_1", [1]⟩).files =
      Function.update (fun _ => none) (sampleStore.path "ten_a" (rawKey "../../ten_b/evt_1"))
        (some [1]) := rfl
  rw [hwritten, hpath, Function.update_self] at hsame
  cases hsame

end LocalObjectStore

end BlueTeam.Objects
