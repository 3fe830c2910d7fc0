import Desktop2Stereo.Lib.GoText

/-!
# Desktop2Stereo: cleaning of function parameters for Gemini

The depth of the source counts up to `geminiFunctionSchemaMaxDepth`; here the levels that are left are counted down.
-/

namespace Desktop2Stereo

open GoText

inductive Json
  | null
  | bool (b : Bool)
  | number (n : ℚ)
  | str (s : String)
  | arr (items : List Json)
  | obj (fields : String → Option Json)

def geminiOpenAPISchemaAllowedFields : List String :=
  ["anyOf", "default", "description", "enum", "example", "format", "items", "maxItems", "maxLength", "maxProperties",
    "maximum", "minItems", "minLength", "minProperties", "minimum", "nullable", "pattern", "properties",
    "propertyOrdering", "required", "title", "type"]

def geminiFunctionSchemaMaxDepth : ℕ := 64

abbrev Fields := String → Option Json

def Fields.set (key : String) (v : Json) (fields : Fields) : Fields := Function.update fields key (some v)

def Fields.delete (key : String) (fields : Fields) : Fields := Function.update fields key none

/-- `normalize`: none for the type `null`. -/
def normalizeType (t : String) : Option String :=
  match toLower (trimSpace t) with
  | "object" => some "OBJECT"
  | "array" => some "ARRAY"
  | "string" => some "STRING"
  | "integer" => some "INTEGER"
  | "number" => some "NUMBER"
  | "boolean" => some "BOOLEAN"
  | "null" => none
  | _ => some t

def Json.str? : Json → Option String
  | .str s => some s
  | _ => none

/-- `normalizeGeminiSchemaTypeAndNullable` -/
def Fields.normalizeTypeAndNullable (schema : Fields) : Fields :=
  match schema "type" with
  | some (.str typed) =>
    match normalizeType typed with
    | none => (schema.set "nullable" (.bool true)).delete "type"
    | some normalized => schema.set "type" (.str normalized)
  | some (.arr typed) =>
    let types := (typed.filterMap Json.str?).map normalizeType
    let schema := if none ∈ types then schema.set "nullable" (.bool true) else schema
    match types.reduceOption.find? (· ≠ "") with
    | some chosen => schema.set "type" (.str chosen)
    | none => schema.delete "type"
  | _ => schema

/-- The allowed fields of an object, with its types normalized. -/
def cleanedMap (fields : Fields) : Fields :=
  Fields.normalizeTypeAndNullable fun key => if key ∈ geminiOpenAPISchemaAllowedFields then fields key else none

/-- `cleanGeminiFunctionParametersShallow` -/
def Json.cleanShallow : Json → Json
  | .obj fields => .obj ((((cleanedMap fields).delete "properties").delete "items").delete "anyOf")
  | .arr _ => .arr []
  | v => v

/-- A field that may have schemas. -/
def cleanField (clean : Json → Json) : String → Json → Json
  | "properties", .obj props => .obj fun propName => (props propName).map clean
  | "items", .obj fields => clean (.obj fields)
  | "items", .arr (item :: _) => clean item
  | "anyOf", .arr nested => .arr (nested.map clean)
  | _, v => v

/-- `cleanGeminiFunctionParametersWithDepth` -/
def Json.clean : ℕ → Json → Json
  | 0, v => v.cleanShallow
  | n + 1, .obj fields => .obj fun key => (cleanedMap fields key).map (cleanField (clean n) key)
  | n + 1, .arr items => .arr (items.map (clean n))
  | _ + 1, v => v

def cleanFunctionParameters (params : Json) : Json := params.clean geminiFunctionSchemaMaxDepth

end Desktop2Stereo
