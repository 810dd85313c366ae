/- GID: BlueTeam/Hashing
   generality: I
   source: packages/python-common/blueteam_common/hashing.py
   digest: Canonical JSON texts and the hashes made from them. -/

import BlueTeam.Json
import BlueTeam.Lib.Sha256
import Mathlib.Data.List.Sort
import Mathlib.Data.String.Basic

set_option autoImplicit false
set_option relaxedAutoImplicit false

namespace BlueTeam

namespace Json

/-- Field order of `sort_keys=True`: Python compares keys by code points. -/
def fieldLe (a b : String × Json) : Prop := a.1 ≤ b.1

instance : DecidableRel fieldLe := fun a b => inferInstanceAs (Decidable (a.1 ≤ b.1))

mutual

/-- The document with the fields of every object in key order; documents that differ only in
the order of fields have the same form. -/
def sorted : Json → Json
  | .null => .null
  | .bool b => .bool b
  | .int i => .int i
  | .float repr => .float repr
  | .str s => .str s
  | .arr items => .arr (sortedItems items)
  | .obj fields => .obj ((sortedFields fields).insertionSort fieldLe)

def sortedItems : List Json → List Json
  | [] => []
  | item :: items => item.sorted :: sortedItems items

def sortedFields : List (String × Json) → List (String × Json)
  | [] => []
  | (key, value) :: fields => (key, value.sorted) :: sortedFields fields

end

/-- `\uXXXX`. -/
def unicodeEscape (n : Nat) : List Char :=
  '\\' :: 'u' :: (List.range 4).reverse.map (fun i => Nat.digitChar (n / 16 ^ i % 16))

/-- The escapes of `ensure_ascii=True`, with surrogate pairs off the basic plane. -/
def escapeChar (c : Char) : List Char :=
  let n := c.toNat
  if c = '"' then ['\\', '"']
  else if c = '\\' then ['\\', '\\']
  else if n = 8 then ['\\', 'b']
  else if n = 12 then ['\\', 'f']
  else if c = '\n' then ['\\', 'n']
  else if c = '\r' then ['\\', 'r']
  else if c = '\t' then ['\\', 't']
  else if 0x20 ≤ n ∧ n ≤ 0x7E then [c]
  else if n < 0x10000 then unicodeEscape n
  else unicodeEscape (0xD800 + (n - 0x10000) / 1024) ++
    unicodeEscape (0xDC00 + (n - 0x10000) % 1024)

def quote (text : String) : List Char := '"' :: text.toList.flatMap escapeChar ++ ['"']

mutual

/-- `json.dumps` with separators `(",", ":")`, fields in the order they have. -/
def render : Json → List Char
  | .null => "null".toList
  | .bool true => "true".toList
  | .bool false => "false".toList
  | .int i => (toString i).toList
  | .float repr => repr.toList
  | .str s => quote s
  | .arr items => '[' :: renderItems items true ++ [']']
  | .obj fields => '\x7b' :: renderFields fields true ++ ['\x7d']

/-- Items with a comma before all but the first. -/
def renderItems : List Json → Bool → List Char
  | [], _ => []
  | item :: items, first =>
      (if first then [] else [',']) ++ item.render ++ renderItems items false

def renderFields : List (String × Json) → Bool → List Char
  | [], _ => []
  | (key, value) :: fields, first =>
      (if first then [] else [',']) ++ quote key ++ ':' :: value.render ++
        renderFields fields false

end

@[simp] theorem sortedFields_eq_map (fields : List (String × Json)) :
    sortedFields fields = fields.map (fun field => (field.1, field.2.sorted)) := by
  induction fields with
  | nil => rfl
  | cons field fields ih => simp [sortedFields, ih]

end Json

def canonicalJson (payload : Json) : String := String.ofList payload.sorted.render

@[irreducible] def sha256Hex (data : String) : String :=
  String.ofList (Lib.Sha256.hexdigest (Lib.Sha256.utf8 data))

def chainedHash (previousHash : String) (payload : Json) : String :=
  sha256Hex (previousHash ++ "|" ++ canonicalJson payload)

theorem sha256Hex_length (data : String) : (sha256Hex data).toList.length = 64 := by
  unfold sha256Hex
  simp [Lib.Sha256.length_hexdigest]

/-- The chained hash in terms of characters, without the strings in between. -/
theorem chainedHash_toList (previousHash : String) (payload : Json) :
    (chainedHash previousHash payload).toList =
      Lib.Sha256.hexdigest
        ((previousHash.toList ++ '|' :: payload.sorted.render).flatMap Lib.Sha256.utf8Char) := by
  unfold chainedHash sha256Hex
  simp [Lib.Sha256.utf8, canonicalJson, String.toList_append]

theorem sha256Hex_ne_empty (data : String) : sha256Hex data ≠ "" := by
  intro h
  have := sha256Hex_length data
  simp [h] at this

/-- Where the previous hashes have one length, the chained text determines both parts. -/
theorem chainedText_inj {previous previous' text text' : String}
    (length : previous.toList.length = previous'.toList.length)
    (h : previous ++ "|" ++ text = previous' ++ "|" ++ text') :
    previous = previous' ∧ text = text' := by
  have chars : previous.toList ++ ("|".toList ++ text.toList) =
      previous'.toList ++ ("|".toList ++ text'.toList) := by
    have := congrArg String.toList h
    simpa [String.toList_append, List.append_assoc] using this
  obtain ⟨hprevious, hrest⟩ := List.append_inj chars length
  exact ⟨String.toList_inj.mp hprevious, String.toList_inj.mp (List.append_cancel_left hrest)⟩

namespace Json

/-- Lists of fields with the same distinct keys in the same order are equal when one is a
permutation of the other. -/
theorem eq_of_perm_of_keys {l m : List (String × Json)} (keys : l.map Prod.fst = m.map Prod.fst)
    (distinct : (l.map Prod.fst).Nodup) (perm : l.Perm m) : l = m := by
  induction l generalizing m with
  | nil => exact perm.nil_eq
  | cons field l ih =>
      cases m with
      | nil => simp at keys
      | cons field' m =>
          obtain ⟨key, value⟩ := field
          obtain ⟨key', value'⟩ := field'
          obtain ⟨rfl, hkeys⟩ := List.cons_eq_cons.mp keys
          have hvalue : value = value' := by
            have hmem : (key, value) ∈ (key, value') :: m := perm.subset (by simp)
            rcases List.mem_cons.mp hmem with hhead | htail
            · exact (Prod.mk.inj hhead).2
            · have absent := (List.nodup_cons.mp distinct).1
              change key ∉ l.map Prod.fst at absent
              rw [hkeys] at absent
              exact absurd (List.mem_map.mpr ⟨_, htail, rfl⟩) absent
          subst hvalue
          rw [ih hkeys (List.nodup_cons.mp distinct).2 perm.cons_inv]

/-- Two objects with the same distinct keys in the same order have the same sorted form only
if their values have. -/
theorem map_sorted_of_sorted_eq {l m : List (String × Json)}
    (keys : l.map Prod.fst = m.map Prod.fst) (distinct : (l.map Prod.fst).Nodup)
    (h : (Json.obj l).sorted = (Json.obj m).sorted) :
    l.map (fun field => field.2.sorted) = m.map (fun field => field.2.sorted) := by
  have hsort : (sortedFields l).insertionSort fieldLe = (sortedFields m).insertionSort fieldLe := by
    simpa only [sorted, Json.obj.injEq] using h
  have perm : (sortedFields l).Perm (sortedFields m) :=
    (List.perm_insertionSort fieldLe _).symm.trans
      (hsort ▸ List.perm_insertionSort fieldLe (sortedFields m))
  have mapKeys : ∀ fields, (sortedFields fields).map Prod.fst = fields.map Prod.fst := by
    intro fields
    simp [Function.comp_def]
  have equal := eq_of_perm_of_keys (by rw [mapKeys, mapKeys, keys]) (by rwa [mapKeys]) perm
  have values := congrArg (List.map Prod.snd) equal
  simpa [Function.comp_def] using values

end Json

example : canonicalJson (.obj [("b", .arr [.int 1, .null]), ("a", .str "x\"\né")]) =
    "\x7b\"a\":\"x\\\"\\n\\u00e9\",\"b\":[1,null]\x7d" := by decide

end BlueTeam
