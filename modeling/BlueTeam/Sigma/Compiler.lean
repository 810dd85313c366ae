/- GID: BlueTeam/Sigma/Compiler
   generality: I
   source: packages/sigma-compiler/blueteam_sigma/compiler.py
   digest: Sigma rules as YAML gives them, their compilation, and how a compiled rule is evaluated. -/

import BlueTeam.Detection.Rule

set_option autoImplicit false
set_option relaxedAutoImplicit false

namespace BlueTeam.Sigma

open BlueTeam.Python BlueTeam.Schema BlueTeam.Lib BlueTeam.Detection

/-- What `yaml.safe_load` makes of a document; a date or a time is there as its text. -/
inductive Yaml
  | null
  | bool (b : Bool)
  | int (i : Int)
  | float (repr : String)
  | str (text : String)
  | stamp (text : String)
  | bytes (items : List Nat)
  | seq (items : List Yaml)
  | set (items : List Yaml)
  | map (fields : List (Yaml × Yaml))
  deriving Inhabited

inductive CompileError
  | sigmaCompileError (text : String)
  | typeError
  | attributeError
  deriving DecidableEq, Repr

namespace Yaml

/-- `bool(value)` -/
def truthy : Yaml → Bool
  | .null => false
  | .bool b => b
  | .int i => decide (i ≠ 0)
  | .float r => decide (r ≠ "0.0" ∧ r ≠ "-0.0")
  | .str s => decide (s ≠ "")
  | .stamp _ => true
  | .bytes items => !items.isEmpty
  | .seq items => !items.isEmpty
  | .set items => !items.isEmpty
  | .map fields => !fields.isEmpty

/-- `a or b` -/
def orElse (a b : Yaml) : Yaml :=
  if a.truthy then a else b

/-- `str(value)`; `repr` is that of a collection or of bytes. -/
def text (repr : Yaml → String) : Yaml → String
  | .null => "None"
  | .bool true => "True"
  | .bool false => "False"
  | .int i => toString i
  | .float r => r
  | .str s => s
  | .stamp s => s
  | v => repr v

def isStr (key : String) : Yaml → Bool
  | .str s => s = key
  | _ => false

/-- `fields.get(key)` -/
def get (fields : List (Yaml × Yaml)) (key : String) : Option Yaml :=
  (fields.find? fun f => f.1.isStr key).map (·.2)

/-- `key in value` -/
def contains (key : String) : Yaml → Except CompileError Bool
  | .str s => .ok (hasInfix key s)
  | .seq items => .ok (items.any (isStr key))
  | .set items => .ok (items.any (isStr key))
  | .map fields => .ok (get fields key).isSome
  | _ => .error .typeError

/-- `value[key]` for a key that is there. -/
def item (key : String) : Yaml → Except CompileError Yaml
  | .map fields => .ok ((get fields key).getD .null)
  | _ => .error .typeError

/-- `value in {"a", "b"}` hashes the value first. -/
def inSet (texts : List String) : Yaml → Except CompileError Bool
  | .str s => .ok (texts.contains s)
  | .seq _ | .set _ | .map _ => .error .typeError
  | _ => .ok false

/-- The elements of `for element in value`. -/
def elements : Yaml → Except CompileError (List Yaml)
  | .str s => .ok (s.toList.map fun c => .str (String.ofList [c]))
  | .bytes items => .ok (items.map fun b => .int b)
  | .seq items => .ok items
  | .set items => .ok items
  | .map fields => .ok (fields.map (·.1))
  | _ => .error .typeError

end Yaml

/-! ### Fields and values -/

section

variable (rt : Runtime) (repr : Yaml → String)

/-- `_canonical_field`; a key that is not a text is the name of no field. -/
def canonicalField (event : CanonicalEvent) : Yaml → Option String
  | .str field =>
      match field with
      | "process.image" | "process.name" | "Image" => event.process.bind (·.name)
      | "process.commandline" | "CommandLine" => event.process.bind (·.commandLine)
      | "parent.image" | "parent.name" | "ParentImage" => event.parentProcess.bind (·.name)
      | "user.name" => event.user.bind (·.name)
      | "src_ip" => event.srcIp
      | "destination.ip" => event.dstIp
      | "event_type" => some event.eventType
      | "category" => some event.category
      | "outcome" => event.outcome.map Outcome.text
      | "action" => event.action
      | _ => (event.attributes.lookup field).map (Json.text rt)
  | _ => none

/-- The comparison of two lowered texts in `_match_value`. -/
def matchText (value text : List Char) : Bool :=
  if text.getLast? = some '*' ∧ text.head? = some '*' then
    decide (text.tail.dropLast <:+: value)
  else if text.getLast? = some '*' then decide (text.dropLast <+: value)
  else if text.head? = some '*' then decide (text.tail <:+ value)
  else decide (value = text)

mutual

/-- `_match_value` of a field that is there. -/
def matchObserved (observed : String) : Yaml → Bool
  | .seq items => matchAny observed items
  | expected =>
      matchText (rt.lower observed).toList (rt.lower (expected.text repr)).toList

def matchAny (observed : String) : List Yaml → Bool
  | [] => false
  | item :: items => matchObserved observed item || matchAny observed items

end

def matchValue (observed : Option String) (expected : Yaml) : Bool :=
  match observed with
  | none => false
  | some observed => matchObserved rt repr observed expected

/-- `all(_match_value(_canonical_field(event, key), expected) for key, expected in ...)` -/
def matchAll (event : CanonicalEvent) (fields : List (Yaml × Yaml)) : Bool :=
  fields.all fun f => matchValue rt repr (canonicalField rt event f.1) f.2

end

/-! ### Compilation -/

inductive SigmaStatus
  | tested
  | draft
  deriving DecidableEq, Repr

/-- `RuleMeta` as the compiler fills it; `confidence` and `mitre_tactics` are the same for all. -/
structure SigmaMeta where
  ruleId : String
  name : String
  description : String
  version : String
  severity : Severity
  confidence : Rat := 75
  mitreTactics : List String := []
  mitreTechniques : List String
  dataSources : List String
  author : String
  status : SigmaStatus

/-- `CompiledSigmaRule`, with the `selection` and the `filt` that its `evaluate` closes over. -/
structure CompiledSigmaRule where
  info : SigmaMeta
  path : String
  selection : List (Yaml × Yaml)
  filt : Option Yaml

def conditions : List String := ["selection", "selection and not filter"]

section

variable (rt : Runtime) (repr : Yaml → String) (upper : String → String)

/-- `"T" + text.split("attack.t", 1)[1].upper()` of the tags that name a technique. -/
def mitreIds (tags : List Yaml) : List String :=
  tags.filterMap fun tag =>
    let text := rt.lower (tag.text repr)
    if text.startsWith "attack.t" then some ("T" ++ upper (String.ofList (text.toList.drop 8)))
    else none

def severityOf (level : String) : Severity :=
  match level with
  | "critical" => .critical
  | "high" => .high
  | "medium" => .medium
  | "low" => .low
  | _ => .medium

/-- `(raw.get("logsource") or {}).get("product")` -/
def productOf (raw : List (Yaml × Yaml)) : Except CompileError Yaml :=
  match (Yaml.get raw "logsource").getD .null with
  | .map fields => .ok ((Yaml.get fields "product").getD .null)
  | logsource => if logsource.truthy then .error .attributeError else .ok .null

def metaOf (raw : List (Yaml × Yaml)) : Except CompileError SigmaMeta := do
  let field (key : String) : Yaml := (Yaml.get raw key).getD .null
  let tags ← ((field "tags").orElse (.seq [])).elements
  let product ← productOf raw
  let tested ← (field "status").inSet ["test", "stable", "tested"]
  pure
    { ruleId := "sigma." ++ (field "id").text repr
      name := (field "title").text repr
      description := ((field "description").orElse (field "title")).text repr
      version := ((field "version").orElse (.str "1.0.0")).text repr
      severity := severityOf (rt.lower (((Yaml.get raw "level").getD (.str "medium")).text repr))
      mitreTechniques := mitreIds rt repr upper tags
      dataSources := [(product.orElse (.str "unknown")).text repr]
      author := ((field "author").orElse (.str "blueteam-os")).text repr
      status := if tested then .tested else .draft }

def requiredFields : List String := ["title", "id", "detection", "logsource"]

def requireFields (name : String) (raw : List (Yaml × Yaml)) :
    List String → Except CompileError Unit
  | [] => .ok ()
  | required :: more =>
      if (Yaml.get raw required).isSome then requireFields name raw more
      else .error (.sigmaCompileError (name ++ " missing " ++ required))

/-- The part of `compile_rule` that reads `raw["detection"]`: the selection, and the filter if the
condition names it. -/
def readDetection (detection : Yaml) :
    Except CompileError (List (Yaml × Yaml) × Option Yaml) := do
  let given ← detection.contains "condition"
  if given then do
    let condition ← detection.item "condition"
    let supported ← condition.inSet conditions
    if supported then do
      match ← detection.item "selection" with
      | .map selection => do
          let filt ← detection.item "filter"
          pure (selection, if hasInfix "not filter" (condition.text repr) then some filt else none)
      | _ => .error (.sigmaCompileError "selection must be an object")
    else
      .error (.sigmaCompileError "unsupported condition — only selection[/not filter] is compiled")
  else .error (.sigmaCompileError "detection.condition is required")

/-- `compile_rule` of what was read from the file; `path` and `name` are its path and its name. -/
def compileRule (path name : String) : Yaml → Except CompileError CompiledSigmaRule
  | .map raw => do
      requireFields name raw requiredFields
      let (selection, filt) ← readDetection repr ((Yaml.get raw "detection").getD .null)
      let info ← metaOf rt repr upper raw
      pure { info := info, path := path, selection := selection, filt := filt }
  | _ => .error (.sigmaCompileError (path ++ " is not a mapping"))

end

/-! ### Evaluation -/

/-- `isinstance(filt, dict) and all(...)` -/
def CompiledSigmaRule.filtered (rt : Runtime) (repr : Yaml → String) (rule : CompiledSigmaRule)
    (event : CanonicalEvent) : Bool :=
  match rule.filt with
  | some (.map fields) => matchAll rt repr event fields
  | _ => false

def CompiledSigmaRule.evaluate (rt : Runtime) (repr : Yaml → String) (rule : CompiledSigmaRule)
    (event : CanonicalEvent) (context : DetectionContext) : Draw (List Finding) :=
  if !matchAll rt repr event rule.selection then pure []
  else if rule.filtered rt repr event then pure []
  else
    let fingerprint := rule.info.ruleId ++ ":" ++ event.tenantId ++ ":" ++ event.id
    if fingerprint ∈ context.openFingerprints then pure []
    else do
      let id ← newId rt "fnd"
      let createdAt ← utcnow rt
      pure
        [{ id := id
           tenantId := event.tenantId
           ruleId := rule.info.ruleId
           ruleVersion := "1.0.0"
           title := rule.info.name
           description := rule.info.description
           severity := rule.info.severity
           confidence := rule.info.confidence
           fingerprint := fingerprint
           mitreTactics := rule.info.mitreTactics
           mitreTechniques := rule.info.mitreTechniques
           eventIds := [event.id]
           evidence := [{ evidenceId := "evi_pending_" ++ event.id
                          eventId := some event.id
                          role := .trigger }]
           explanation := "Sigma " ++ rule.info.ruleId ++ " matched selection on event " ++
             event.id ++ "."
           createdAt := createdAt }]

end BlueTeam.Sigma
