/- GID: BlueTeam/Yara/Engine
   generality: I
   source: packages/yara-engine/blueteam_yara/engine.py
   digest: The subset scanner: what it reads of a rule text, and what it looks for in a content. -/

import BlueTeam.Objects.Store
import BlueTeam.Python.Dict
import BlueTeam.Python.Re
import BlueTeam.Python.Runtime

set_option autoImplicit false
set_option relaxedAutoImplicit false

namespace BlueTeam.Yara

open BlueTeam.Python BlueTeam.Python.Re BlueTeam.Lib BlueTeam.Lib.Regex BlueTeam.Objects

/-- What the scanner looks up of Unicode; `named` gives the letter of a name, as in `\N{..}`. -/
structure Tables extends CharTables where
  named : Bytes → Option Nat

/-- What a scan raises: a `ValueError`, and so are the errors of codecs. -/
inductive Refusal
  | valueError (text : String)
  | unicodeDecodeError
  | unicodeEncodeError
  deriving DecidableEq, Repr

structure YaraMatch where
  ruleId : String
  matchedStrings : List String
  engine : String
  metadata : Dict String String
  ruleVersion : String
  deriving DecidableEq, Repr

/-! ### The patterns -/

/-- `[A-Za-z_]` -/
def isNameStart (c : Char) : Bool :=
  c.isAlpha || c = '_'

/-- `[A-Za-z0-9_]` -/
def isNameChar (c : Char) : Bool :=
  c.isAlphanum || c = '_'

section

variable (u : Tables)

def identifier : Regex Char :=
  .seq (.one isNameStart) (.star (.one isNameChar))

/-- `\s*=\s*` -/
def equals : Regex Char :=
  all [.star (.one u.space), .one fun c => c = '=', .star (.one u.space)]

def quote : Regex Char :=
  .one fun c => c = '"'

/-- `RULE_HEAD` -/
def ruleHead : Regex Char :=
  all [literal "rule", spaces u.toCharTables, .group "1" identifier]

/-- `STRING_DEF` -/
def stringDef : Regex Char :=
  all [.one fun c => c = '$', .group "1" (plus (.one isNameChar)), equals u, quote,
    .group "2" (.star (.alt (.seq (.one fun c => c = '\\') (.one fun c => c ≠ '\n'))
      (.one fun c => c ≠ '"' && c ≠ '\\'))), quote]

/-- `CONDITION` -/
def conditionRegex : Regex Char :=
  all [literal "condition:", .star (.one u.space), .group "1" (plus (.one fun _ => true))]

/-- `META_LINE` behind the end of the line before, which stands for `^`. -/
def metaLine : Regex Char :=
  all [.one fun c => c = '\n', .star (.one u.space), .group "1" identifier, equals u, quote,
    .group "2" (.star (.one fun c => c ≠ '"')), quote]

def forbidden : List String :=
  ["import ", "entrypoint", "for all", "for any", "at ", "int8(", "uint32("]

/-- `match.group(name)` -/
def groupOf (name : String) (t : Cursor Char) : String :=
  String.ofList ((t.groups.lookup name).getD [])

/-- `text.strip()` -/
def strip (text : List Char) : List Char :=
  ((text.dropWhile u.space).reverse.dropWhile u.space).reverse

/-! ### Rule texts -/

def validateRule (text : String) : Except Refusal String :=
  match (ruleHead u).search text.toList with
  | none => .error (.valueError "YARA rule must declare a rule identifier")
  | some name =>
      if !hasInfix "strings:" text || !hasInfix "condition:" text then
        .error (.valueError "YARA rule requires strings and condition sections")
      else
        match forbidden.find? fun token => hasInfix token text with
        | some token =>
            .error (.valueError ("unsupported YARA feature in subset matcher: " ++
              String.ofList (strip u token.toList)))
        | none => .ok (groupOf "1" name)

/-- `dict(entries)` -/
def dictOf {α : Type} (entries : List (String × α)) : Dict String α :=
  entries.foldl (fun d entry => d.set entry.1 entry.2) []

def ruleMetadata (text : String) : Dict String String :=
  dictOf (((metaLine u).findAll ('\n' :: text.toList)).map fun t => (groupOf "1" t, groupOf "2" t))

/-- `bytes(text, "utf-8")` -/
def utf8 (text : List Char) : Bytes :=
  text.flatMap String.utf8EncodeChar

/-- The digits of a number in base sixteen. -/
def hexValue (digits : Bytes) : Option Nat :=
  digits.foldlM (fun value byte =>
    let c := Char.ofNat byte.toNat
    if c.isDigit then some (16 * value + (c.toNat - 48))
    else if 97 ≤ c.toNat && c.toNat ≤ 102 then some (16 * value + (c.toNat - 87))
    else if 65 ≤ c.toNat && c.toNat ≤ 70 then some (16 * value + (c.toNat - 55))
    else none) 0

def isOctal (byte : UInt8) : Bool :=
  48 ≤ byte && byte ≤ 55

/-- The letter of so many digits, and what is behind them. -/
def hexEscape (count : Nat) (bytes : Bytes) : Option (List Nat × Bytes) :=
  if bytes.length < count then none
  else
    (hexValue (bytes.take count)).bind fun value =>
      if 0x10FFFF < value then none else some ([value], bytes.drop count)

/-- What a backslash and the bytes behind it stand for, and what is behind that. -/
def escape : Bytes → Option (List Nat × Bytes)
  | [] => none
  | byte :: rest =>
      let c := Char.ofNat byte.toNat
      if c = '\n' then some ([], rest)
      else if c ∈ ['\\', '\'', '"'] then some ([c.toNat], rest)
      else if c = 'a' then some ([7], rest)
      else if c = 'b' then some ([8], rest)
      else if c = 't' then some ([9], rest)
      else if c = 'n' then some ([10], rest)
      else if c = 'v' then some ([11], rest)
      else if c = 'f' then some ([12], rest)
      else if c = 'r' then some ([13], rest)
      else if isOctal byte then
        let more := (rest.take 2).takeWhile isOctal
        some ([(byte :: more).foldl (fun value digit => 8 * value + (digit.toNat - 48)) 0],
          rest.drop more.length)
      else if c = 'x' then hexEscape 2 rest
      else if c = 'u' then hexEscape 4 rest
      else if c = 'U' then hexEscape 8 rest
      else if c = 'N' then
        -- `\N{name}`: a name that is not empty, and known
        match rest with
        | 123 :: rest =>
            let name := rest.takeWhile (· ≠ 125)
            if name.length = rest.length || name.isEmpty then none
            else (u.named name).map fun value => ([value], rest.drop (name.length + 1))
        | _ => none
      else some ([92, byte.toNat], rest)

/-- `bytes.decode("unicode_escape")`, as code points; a turn for each byte is enough. -/
def unicodeEscape : Nat → Bytes → Option (List Nat)
  | 0, _ => some []
  | _ + 1, [] => some []
  | n + 1, byte :: rest => do
      let (read, behind) ← if byte = 92 then escape u rest else some ([byte.toNat], rest)
      let more ← unicodeEscape n behind
      pure (read ++ more)

/-- The definitions of a text: the names, and what stands between the quotes. -/
def definitions (text : String) : List (String × String) :=
  ((stringDef u).findAll text.toList).map fun t => (groupOf "1" t, groupOf "2" t)

/-- What a definition stands for. -/
def decoded (d : String × String) : Option (String × List Nat) :=
  let bytes := utf8 d.2.toList
  (unicodeEscape u bytes.length bytes).map fun value => (d.1, value)

/-- `_strings` -/
def stringsOf (text : String) : Except Refusal (Dict String (List Nat)) :=
  match (definitions u text).mapM (decoded u) with
  | none => .error .unicodeDecodeError
  | some entries => .ok (dictOf entries)

/-- What is left of the condition: up to the first brace behind the first `condition:`. -/
def conditionOf (text : String) : String :=
  let behind := ((conditionRegex u).search text.toList).elim "" (groupOf "1")
  String.ofList (strip u (behind.toList.takeWhile (· ≠ '}')))

/-! ### The scan -/

/-- `value.encode("utf-8")`: there is no encoding of half a pair. -/
def encodeUtf8 (value : List Nat) : Option Bytes :=
  (value.mapM fun n : Nat =>
    if n.isValidChar then some (String.utf8EncodeChar (Char.ofNat n)) else none).map List.flatten

/-- `value.encode("utf-8") in content or value in haystack` -/
def occursIn (content : Bytes) (value : List Nat) : Option Bool :=
  (encodeUtf8 value).map fun bytes =>
    decide (bytes <:+: content) || decide (value <:+: content.map UInt8.toNat)

/-- `_subset_scan` -/
def subsetScan (content : Bytes) (text : String) : Except Refusal (Option YaraMatch) := do
  let ruleId ← validateRule u text
  let strings ← stringsOf u text
  if strings.isEmpty then throw (.valueError "no string identifiers found")
  let condition := conditionOf u text
  let tested ← match strings.mapM fun s => (occursIn content s.2).map fun occurs => (s.1, occurs) with
    | none => throw .unicodeEncodeError
    | some tested => pure tested
  let found := (tested.filter (·.2)).map (·.1)
  let ok ←
    if hasInfix "all of them" condition then pure (decide (found.length = strings.length))
    else if hasInfix "any of them" condition || condition.isEmpty then pure (!found.isEmpty)
    else throw (.valueError "unsupported condition — use 'all of them' or 'any of them'")
  if !ok then return none
  let metadata := ruleMetadata u text
  return some
    { ruleId := ruleId
      matchedStrings := found
      engine := "blueteam_yara.subset"
      metadata := metadata
      ruleVersion := (metadata.get? "version").getD "1.0.0" }

end

end BlueTeam.Yara
