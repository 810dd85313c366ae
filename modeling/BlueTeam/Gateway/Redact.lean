/- GID: BlueTeam/Gateway/Redact
   generality: I
   source: services/ai-gateway/app/gateway.py
   digest: The redaction of prompts, and what its patterns find. -/

import BlueTeam.Python.Re
import Mathlib.Data.List.Nodup
import Mathlib.Data.Option.Basic

set_option autoImplicit false
set_option relaxedAutoImplicit false

namespace BlueTeam.Gateway.Redact

open BlueTeam.Python.Re BlueTeam.Lib BlueTeam.Lib.Regex

/-! ### The patterns -/

section

variable (u : CharTables)

/-- `[:=]` -/
def isSign (c : Char) : Bool :=
  c = ':' || c = '='

/-- `[a-z0-9\-._~+/]` -/
def isTokenChar (c : Char) : Bool :=
  (97 ≤ c.toNat && c.toNat ≤ 122) || c.isDigit || c ∈ ['-', '.', '_', '~', '+', '/']

/-- `(password|secret|api[_-]?key|token)` -/
def keywordRegex : Regex Char :=
  .alt (anyCase u "password") (.alt (anyCase u "secret")
    (.alt (all [anyCase u "api", Regex.optional (.one fun c => c = '_' || c = '-'),
      anyCase u "key"]) (anyCase u "token")))

/-- `(?i)(password|secret|api[_-]?key|token)\s*[:=]\s*\S+`; the group of the credential is not in
the source. -/
def assignmentRegex : Regex Char :=
  all [.group "1" (keywordRegex u), .star (.one u.space), .one isSign, .star (.one u.space),
    .group "credential" (solid u)]

/-- `(?i)bearer\s+[a-z0-9\-._~+/]+=*`; the group of the credential is not in the source. -/
def bearerRegex : Regex Char :=
  all [anyCase u "bearer", spaces u,
    .group "credential" (.seq (plus (.one fun c => isTokenChar c || isTokenChar (u.fold c)))
      (.star (.one fun c => c = '=')))]

/-- `SECRET_PATTERNS` -/
def secretPatterns : List (Regex Char) :=
  [assignmentRegex u, bearerRegex u]

def replacement : List Char :=
  "[REDACTED]".toList

def redact (text : String) : String :=
  String.ofList ((secretPatterns u).foldl (fun cleaned pattern => pattern.sub replacement cleaned)
    text.toList)

/-! ### Letters and their places -/

/-- A letter with its place in the text; a letter that was put in has none. -/
abbrev Letter := Char × Option Nat

def letters (text : String) : List Letter :=
  text.toList.zipIdx.map fun p => (p.1, some p.2)

/-- `redact`, with the places of the letters. -/
def redactLetters (text : List Letter) : List Letter :=
  (secretPatterns u).foldl
    (fun cleaned pattern => (pattern.comap Prod.fst).sub (replacement.map (·, none)) cleaned) text

theorem map_letters (text : String) : (letters text).map Prod.fst = text.toList := by
  unfold letters
  rw [List.map_map]
  exact List.zipIdx_map_fst 0 _

theorem nodup_letters (text : String) : (letters text).Nodup := by
  have hplaces : ((letters text).map Prod.snd).Nodup := by
    have hrange : (letters text).map Prod.snd = (List.range text.toList.length).map some := by
      unfold letters
      rw [List.map_map, List.range_eq_range', ← List.zipIdx_map_snd, List.map_map]
      rfl
    rw [hrange]
    exact List.nodup_range.map (Option.some_injective Nat)
  exact List.Nodup.of_map _ hplaces

theorem place_letters {text : String} {x : Letter} (hx : x ∈ letters text) : x.2 ≠ none := by
  obtain ⟨p, -, rfl⟩ := List.mem_map.mp hx
  exact Option.some_ne_none _

/-- The places make no difference. -/
theorem redact_eq (text : String) :
    redact u text = String.ofList ((redactLetters u (letters text)).map Prod.fst) := by
  have hfold : ∀ (patterns : List (Regex Char)) (text : List Letter),
      patterns.foldl (fun cleaned pattern => pattern.sub replacement cleaned)
          (text.map Prod.fst) =
        (patterns.foldl (fun cleaned pattern =>
          (pattern.comap Prod.fst).sub (replacement.map (·, none)) cleaned) text).map Prod.fst := by
    intro patterns
    induction patterns with
    | nil => exact fun _ => rfl
    | cons pattern patterns ih =>
      intro text
      have hsub := @sub_seen _ _ (Prod.fst : Letter → Char) pattern (replacement.map (·, none)) text
      rw [List.foldl_cons, List.foldl_cons, ← ih, ← hsub, List.map_map]
      rfl
  unfold redact redactLetters
  rw [← hfold, map_letters]

/-- What a match found behind the sign, or behind `bearer`. -/
def credential {α : Type} (t : Cursor α) : List α :=
  (t.groups.lookup "credential").getD []

/-- No letter of a credential that a pattern finds in the text is left. -/
def Redacted (text : String) : Prop :=
  ∀ pattern ∈ secretPatterns u, ∀ t ∈ findAll (pattern.comap Prod.fst) (letters text),
    ∀ x ∈ credential t, x ∉ redactLetters u (letters text)

end

end BlueTeam.Gateway.Redact
