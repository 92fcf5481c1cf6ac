/-
# JSON schemas

The keywords of JSON Schema that a document format with fixed keys needs.  A
schema is the test it makes of a value, so schemas are put together as functions
and can be evaluated; a keyword says nothing of values of another type.

`object_obj` is the rule for the objects of such a format: the required keys are
there, and each listed property that is there passes.  `object_reread` is the
rule for an object that was written and read back.
-/

import Pidprobe.Lib.JsonRoundTrip

namespace Pidprobe

/-- The values of the keyword `type`; an `integer` is a `number` as well. -/
inductive JsonType
  | null
  | boolean
  | integer
  | number
  | string
  | array
  | object
  deriving DecidableEq

/-- A value is of a type.  A `number` without a fractional part is an `integer`
too. -/
def Json.hasType : Json → JsonType → Bool
  | .null, .null => true
  | .bool _, .boolean => true
  | .int _, .integer => true
  | .int _, .number => true
  | .float (.finite q), .integer => q.den = 1
  | .float .negZero, .integer => true
  | .float _, .number => true
  | .str _, .string => true
  | .arr _, .array => true
  | .obj _, .object => true
  | _, _ => false

/-- A schema, as the test it makes: a value passes or does not. -/
abbrev Schema := Json → Bool

namespace Schema

/-- A schema object: a value passes where it passes all its keywords. -/
def keywords (schemas : List Schema) : Schema := fun v => schemas.all fun s => s v

/-- `type`: one of the types is the value's. -/
def type (types : List JsonType) : Schema := fun v => types.any v.hasType

/-- `enum`, of strings: no other value passes. -/
def enum (values : List PyStr) : Schema
  | .str s => s ∈ values
  | _ => false

/-- `const`, of a string: an `enum` of one. -/
def const (value : PyStr) : Schema := enum [value]

/-- `minimum`, which says nothing of what is no number. -/
def minimum (least : ℤ) : Schema
  | .int n => least ≤ n
  | .float (.finite q) => (least : ℚ) ≤ q
  | .float .negZero => least ≤ 0
  | .float .negInf => false
  | _ => true

/-- `required`, which says nothing of what is no object. -/
def required (keys : List PyStr) : Schema
  | .obj ms => keys.all fun key => (Dict.get? key ms).isSome
  | _ => true

/-- `properties`: those that are there pass, and none has to be there. -/
def properties (schemas : List (PyStr × Schema)) : Schema
  | .obj ms => schemas.all fun (key, s) => (Dict.get? key ms).all s
  | _ => true

/-- `additionalProperties`, where no property is listed: it is asked of all of them. -/
def additionalProperties (s : Schema) : Schema
  | .obj ms => ms.all fun kv => s kv.2
  | _ => true

/-- `items`, which says nothing of what is no array. -/
def items (s : Schema) : Schema
  | .arr xs => xs.all s
  | _ => true

/-- `anyOf`: one of the schemas is enough. -/
def anyOf (schemas : List Schema) : Schema := fun v => schemas.any fun s => s v

/-! ## Combinations -/

/-- A schema of one type and nothing else. -/
def ofType (t : JsonType) : Schema := type [t]

/-- A number of a type that is not below a bound. -/
def atLeast (t : JsonType) (least : ℤ) : Schema := keywords [ofType t, minimum least]

/-- An object with these properties, some of them required; others may be there. -/
def object (keys : List PyStr) (schemas : List (PyStr × Schema)) : Schema :=
  keywords [ofType .object, required keys, properties schemas]

/-- An array of values that pass. -/
def arrayOf (s : Schema) : Schema := keywords [ofType .array, items s]

/-- What passes, or `null`. -/
def orNull (s : Schema) : Schema := anyOf [s, ofType .null]

section

variable {s : Schema} {v : Json} {ms : List (PyStr × Json)}

/-- **An object passes** if it has the required keys and its listed properties
pass. -/
theorem object_obj {keys : List PyStr} {schemas : List (PyStr × Schema)} :
    object keys schemas (.obj ms) = true ↔
      (∀ key ∈ keys, (Dict.get? key ms).isSome = true) ∧
        ∀ p ∈ schemas, ∀ v, Dict.get? p.1 ms = some v → p.2 v = true := by
  simp [object, keywords, ofType, type, Json.hasType, required, properties, Option.all_eq_true]

/-- **An object passes after a round trip** if it had the required keys and its
listed properties pass after it; the keys a schema knows are ASCII. -/
theorem object_reread {keys : List PyStr} {schemas : List (PyStr × Schema)}
    (hkeys : (keys ++ schemas.map Prod.fst).all (fun key => key.all fun c => IsAscii c) = true)
    (hms : Dict.NodupKeys ms) :
    object keys schemas (Json.obj ms).reread = true ↔
      (∀ key ∈ keys, (Dict.get? key ms).isSome = true) ∧
        ∀ p ∈ schemas, ∀ v, Dict.get? p.1 ms = some v → p.2 v.reread = true := by
  have hget : ∀ key ∈ keys ++ schemas.map Prod.fst,
      Dict.get? key (Dict.ofPairs (Json.rereadMembers ms)) =
        (Dict.get? key ms).map Json.reread := by
    intro key hkey
    have hascii := List.all_eq_true.1 (List.all_eq_true.1 hkeys key hkey)
    exact Json.get?_reread (fun c hc => of_decide_eq_true (hascii c hc)) hms
  rw [Json.reread, object_obj]
  refine and_congr (forall₂_congr fun key hkey => ?_) (forall₂_congr fun p hp => ?_)
  · rw [hget key (List.mem_append_left _ hkey), Option.isSome_map]
  · rw [hget p.1 (List.mem_append_right _ (List.mem_map_of_mem hp))]
    simp

@[simp] theorem arrayOf_arr {xs : List Json} :
    arrayOf s (.arr xs) = true ↔ ∀ x ∈ xs, s x = true := by
  simp [arrayOf, keywords, ofType, type, Json.hasType, items]

/-- An array that was read passes where its elements do as they are read. -/
@[simp] theorem arrayOf_reread {xs : List Json} :
    arrayOf s (Json.arr xs).reread = true ↔ ∀ x ∈ xs, s x.reread = true := by
  rw [Json.reread, arrayOf_arr, Json.rereadElems_eq_map, List.forall_mem_map]

theorem orNull_iff : orNull s v = true ↔ s v = true ∨ v = .null := by
  have hnull : ofType .null v = true ↔ v = .null := by
    cases v with
    | float x => cases x <;> simp [ofType, type, Json.hasType]
    | _ => simp [ofType, type, Json.hasType]
  simp [orNull, anyOf, hnull]

@[simp] theorem orNull_null : orNull s .null = true := by
  simp [orNull, anyOf, ofType, type, Json.hasType]

/-- An object that may be `null` is not, so it has to pass. -/
@[simp] theorem orNull_obj : orNull s (.obj ms) = s (.obj ms) := by
  simp [orNull, anyOf, ofType, type, Json.hasType]

@[simp] theorem atLeast_int {least n : ℤ} :
    atLeast .integer least (.int n) = true ↔ least ≤ n := by
  simp [atLeast, keywords, ofType, type, Json.hasType, minimum]

@[simp] theorem atLeast_float {least : ℤ} {q : ℚ} :
    atLeast .number least (.float (.finite q)) = true ↔ (least : ℚ) ≤ q := by
  simp [atLeast, keywords, ofType, type, Json.hasType, minimum]

@[simp] theorem ofType_str (t : PyStr) : ofType .string (.str t) = true := rfl

@[simp] theorem ofType_int (n : ℤ) : ofType .integer (.int n) = true := rfl

@[simp] theorem ofType_bool (b : Bool) : ofType .boolean (.bool b) = true := rfl

@[simp] theorem enum_str {values : List PyStr} {t : PyStr} :
    enum values (.str t) = true ↔ t ∈ values := by
  simp [enum]

@[simp] theorem type_str (t : JsonType) (text : PyStr) : type [.string, t] (.str text) = true := rfl

@[simp] theorem type_null (t : JsonType) : type [t, .null] .null = true := by
  cases t <;> rfl

end

end Schema
end Pidprobe
