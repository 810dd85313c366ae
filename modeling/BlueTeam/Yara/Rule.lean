/- GID: BlueTeam/Yara/Rule
   generality: I
   source: packages/yara-engine/blueteam_yara/engine.py
   digest: What a rule text says: the grammar of a rule with plain strings, and its meaning. -/

import BlueTeam.Lib.Occurrence
import BlueTeam.Objects.Store

set_option autoImplicit false
set_option relaxedAutoImplicit false

namespace BlueTeam.Yara

open BlueTeam.Lib BlueTeam.Objects

inductive Quantifier
  | all
  | any
  deriving DecidableEq, Repr

/-- A rule whose strings are plain texts and whose condition is `all of them` or `any of them`. -/
structure PlainRule where
  quantifier : Quantifier
  strings : List Bytes
  declared : strings ≠ []
  deriving DecidableEq

/-- The rule holds of a content. -/
def PlainRule.Holds (rule : PlainRule) (content : Bytes) : Prop :=
  match rule.quantifier with
  | .all => ∀ word ∈ rule.strings, word <:+: content
  | .any => ∃ word ∈ rule.strings, word <:+: content

/-- What the rule asks for, as clauses. -/
def PlainRule.clauses (rule : PlainRule) : List (Clause UInt8) :=
  match rule.quantifier with
  | .all => rule.strings.map fun word => [word]
  | .any => [rule.strings]

/-! ### Tokens -/

inductive Token
  | word (w : String)
  /-- `$` and what follows -/
  | name (w : String)
  /-- what stands between quotes -/
  | text (w : List Char)
  | sign (c : Char)
  deriving DecidableEq

def Token.isWord : Token → Bool
  | .word _ => true
  | _ => false

def isWordChar (c : Char) : Bool :=
  c.isAlphanum || c = '_'

/-- What is behind the end of a comment. -/
def behindComment : List Char → Option (List Char)
  | '*' :: '/' :: rest => some rest
  | _ :: rest => behindComment rest
  | [] => none

/-- A text up to its closing quote, and what is behind it; the text is on one line. -/
def quoted : List Char → Option (List Char × List Char)
  | [] => none
  | '"' :: rest => some ([], rest)
  | '\n' :: _ => none
  | '\\' :: '\n' :: _ => none
  | '\\' :: c :: rest => (quoted rest).map fun q => ('\\' :: c :: q.1, q.2)
  | c :: rest => (quoted rest).map fun q => (c :: q.1, q.2)

/-- The tokens that rules with plain strings are made of; a turn for each letter is enough. -/
def tokens : Nat → List Char → Option (List Token)
  | _, [] => some []
  | 0, _ :: _ => none
  | n + 1, c :: rest =>
      if c ∈ [' ', '\t', '\r', '\n'] then tokens n rest
      else if c = '/' then
        match rest with
        | '/' :: rest => tokens n (rest.dropWhile (· ≠ '\n'))
        | '*' :: rest => (behindComment rest).bind (tokens n)
        | _ => none
      else if c = '"' then
        (quoted rest).bind fun q => (tokens n q.2).map (.text q.1 :: ·)
      else if c = '$' then
        (tokens n (rest.dropWhile isWordChar)).map
          (.name (String.ofList (rest.takeWhile isWordChar)) :: ·)
      else if isWordChar c then
        (tokens n (rest.dropWhile isWordChar)).map
          (.word (String.ofList (c :: rest.takeWhile isWordChar)) :: ·)
      else if c ∈ ['{', '}', ':', '=', '-'] then (tokens n rest).map (.sign c :: ·)
      else none

/-! ### Sections -/

def hexDigit (c : Char) : Option Nat :=
  if c.isDigit then some (c.toNat - 48)
  else if 97 ≤ c.toNat && c.toNat ≤ 102 then some (c.toNat - 87)
  else if 65 ≤ c.toNat && c.toNat ≤ 70 then some (c.toNat - 55)
  else none

/-- The bytes of a text; the language has six escapes. -/
def textBytes : List Char → Option Bytes
  | [] => some []
  | '\\' :: 't' :: rest => (textBytes rest).map (9 :: ·)
  | '\\' :: 'n' :: rest => (textBytes rest).map (10 :: ·)
  | '\\' :: 'r' :: rest => (textBytes rest).map (13 :: ·)
  | '\\' :: '"' :: rest => (textBytes rest).map (34 :: ·)
  | '\\' :: '\\' :: rest => (textBytes rest).map (92 :: ·)
  | '\\' :: 'x' :: a :: b :: rest => do
      let high ← hexDigit a
      let low ← hexDigit b
      (textBytes rest).map (UInt8.ofNat (16 * high + low) :: ·)
  | '\\' :: _ => none
  | c :: rest => (textBytes rest).map (String.utf8EncodeChar c ++ ·)

/-- What is behind the imports. -/
def behindImports : List Token → List Token
  | .word "import" :: .text _ :: rest => behindImports rest
  | rest => rest

/-- What is behind the tags. -/
def behindTags : List Token → List Token
  | .sign ':' :: .word _ :: rest => rest.dropWhile Token.isWord
  | rest => rest

/-- What is behind the entries of a `meta` section. -/
def behindEntries : List Token → List Token
  | .word _ :: .sign '=' :: .text _ :: rest => behindEntries rest
  | .word _ :: .sign '=' :: .word _ :: rest => behindEntries rest
  | .word _ :: .sign '=' :: .sign '-' :: .word _ :: rest => behindEntries rest
  | rest => rest

def behindMeta : List Token → List Token
  | .word "meta" :: .sign ':' :: rest => behindEntries rest
  | rest => rest

/-- The declared strings, and what is behind them. -/
def declarations : List Token → Option (List Bytes × List Token)
  | .name _ :: .sign '=' :: .text w :: rest => do
      let word ← textBytes w
      let (words, behind) ← declarations rest
      pure (word :: words, behind)
  | rest => some ([], rest)

def quantifierOf (w : String) : Option Quantifier :=
  if w = "all" then some .all
  else if w = "any" then some .any
  else none

/-- The rest of a rule from its strings on. -/
def bodyOf : List Token → Option PlainRule
  | .word "strings" :: .sign ':' :: rest => do
      let (words, behind) ← declarations rest
      match behind with
      | [.word "condition", .sign ':', .word w, .word "of", .word "them", .sign '}'] => do
          let quantifier ← quantifierOf w
          if h : words ≠ [] then some ⟨quantifier, words, h⟩ else none
      | _ => none
  | _ => none

/-- The rule of a text that is one rule with plain strings and one of the two conditions: imports,
the head with its tags, an optional `meta` section, the strings and the condition. -/
def plainRule (text : String) : Option PlainRule :=
  (tokens text.length text.toList).bind fun ts =>
    match (behindImports ts).dropWhile fun t => t = .word "private" ∨ t = .word "global" with
    | .word "rule" :: .word _ :: rest =>
        match behindTags rest with
        | .sign '{' :: rest => bodyOf (behindMeta rest)
        | _ => none
    | _ => none

/-! ### Meaning -/

section

variable {rule : PlainRule} {content : Bytes}

theorem PlainRule.clauses_ne_nil (rule : PlainRule) : rule.clauses ≠ [] := by
  obtain ⟨quantifier, strings, hdeclared⟩ := rule
  cases quantifier with
  | all => exact fun h => hdeclared (List.map_eq_nil_iff.mp h)
  | any => exact List.cons_ne_nil _ _

theorem PlainRule.clauses_simple (rule : PlainRule) : Simple 2 rule.clauses := by
  obtain ⟨quantifier, strings, hdeclared⟩ := rule
  cases quantifier with
  | all =>
      refine .inl fun clause hclause => ?_
      obtain ⟨word, -, rfl⟩ := List.mem_map.mp hclause
      exact Nat.le_succ 1
  | any => exact .inr ⟨strings, rfl⟩

theorem PlainRule.holds_iff : rule.Holds content ↔ Satisfies rule.clauses content := by
  obtain ⟨quantifier, strings, hdeclared⟩ := rule
  cases quantifier with
  | all => exact satisfies_map_singleton.symm
  | any => exact satisfies_singleton.symm

end

end BlueTeam.Yara
