import Blockflow.Decimal.Text
import Blockflow.Json.Record
import Blockflow.Pattern.Reader
import Blockflow.Text.Blank
import Blockflow.Yaml.Reader

/-!
# Fields

A block has settings, and a field says which values a setting may have. Two questions are asked of
a value: whether it has the right form, which is asked at every change, and whether it may be
missing or empty, which is asked of a finished workflow only.

Component `schema` of `workflow-engine`; specification C.1 and C.2.
-/

namespace Blockflow

/-- The form of a field's values, and how they are edited. Enumeration `FieldType`. -/
inductive FieldType where
  /-- One line. -/
  | text
  /-- Several lines. -/
  | textarea
  /-- One of some options. -/
  | select
  /-- Several of some options. -/
  | multiselect
  /-- A number. -/
  | number
  /-- A truth value. -/
  | boolean
  /-- A script or a piece of YAML. -/
  | code
  /-- A reference to a secret. -/
  | secret
deriving DecidableEq, Inhabited

namespace FieldType

/-- The name a field type is written with. -/
def tag : FieldType → String
  | .text => "text"
  | .textarea => "textarea"
  | .select => "select"
  | .multiselect => "multiselect"
  | .number => "number"
  | .boolean => "boolean"
  | .code => "code"
  | .secret => "secret"

/-- The field type with the given name. -/
def ofTag? (s : String) : Option FieldType :=
  [FieldType.text, .textarea, .select, .multiselect, .number, .boolean, .code, .secret].find?
    fun t ↦ t.tag == s

/-- Reads a field type. -/
def ofJson? : Json → Option FieldType := Json.choice? ofTag?

/-- The written form of a field type. -/
def toJson (t : FieldType) : Json := .str t.tag

end FieldType

/-- What a value has to satisfy beyond its form. Record `FieldRule`. -/
structure Rule where
  /-- A pattern that has to match in the text. -/
  pattern : Option String
  /-- The least number. -/
  min : Option Float
  /-- The greatest number. -/
  max : Option Float
  /-- Whether the text has to be a YAML mapping. -/
  yamlMapping : Bool
deriving DecidableEq, Inhabited

namespace Rule

/-- The rule that every value satisfies. -/
def free : Rule := ⟨none, none, none, false⟩

/-- Reads a rule. -/
def ofJson? : Json → Option Rule := Json.record? do
  let pattern ← .optional "pattern" Json.text?
  let min ← .optional "min" Json.real?
  let max ← .optional "max" Json.real?
  let yamlMapping ← .defaulted "yamlMapping" Json.bool? false
  return { pattern, min, max, yamlMapping }

/-- The written form of a rule. -/
def toJson (r : Rule) : Json :=
  .obj <| Json.optional "pattern" .str r.pattern ++ Json.optional "min" .ofFloat r.min ++
    Json.optional "max" .ofFloat r.max ++ [("yamlMapping", .bool r.yamlMapping)]

end Rule

/-- Why a value is refused. -/
inductive Refusal where
  /-- A value has a different form: what was expected, and what came. -/
  | form (expected : String) (got : Json)
  /-- A text is none of the options. -/
  | option (text : String) (options : List String)
  /-- A number is too small. -/
  | below (number least : Float)
  /-- A number is too great. -/
  | above (number greatest : Float)
  /-- The pattern of the field cannot be read. -/
  | badPattern
  /-- A text does not match the pattern of the field. -/
  | mismatch (text pattern : String)
  /-- A text is no YAML. -/
  | badYaml
  /-- A text is YAML, but no mapping. -/
  | notMapping
  /-- A required value is missing. -/
  | missing
  /-- A required value is empty. -/
  | empty
deriving DecidableEq

namespace Refusal

/-- The name of a value's form. Function `type_name`. -/
def formName : Json → String
  | .null => "null"
  | .bool _ => "a boolean"
  | .num _ => "a number"
  | .str _ => "a string"
  | .arr _ => "a list"
  | .obj _ => "an object"

/-- The reason in words. -/
def reason : Refusal → String
  | .form expected got => "expected " ++ expected ++ ", got " ++ formName got
  | .option text options =>
    "'" ++ text ++ "' is not one of [" ++ String.intercalate ", " options ++ "]"
  | .below n least => Decimal.plain n ++ " is below the minimum " ++ Decimal.plain least
  | .above n greatest => Decimal.plain n ++ " is above the maximum " ++ Decimal.plain greatest
  | .badPattern => "invalid pattern: not a regular expression"
  | .mismatch text pattern => "'" ++ text ++ "' does not match " ++ pattern
  | .badYaml => "invalid YAML: not a document"
  | .notMapping => "expected a YAML mapping"
  | .missing => "required field is missing"
  | .empty => "required field is empty"

end Refusal

/-- A setting that blocks of one kind have. Record `ConfigField`. -/
structure Field where
  /-- The key of the setting. -/
  key : String
  /-- What readers call it. -/
  label : String
  /-- The form of its values. -/
  type : FieldType
  /-- Whether a finished workflow needs a value. -/
  required : Bool
  /-- The value that a new block has. -/
  default : Option Json
  /-- The texts to choose from. -/
  options : List String
  /-- What a value has to satisfy beyond its form. -/
  rule : Option Rule
deriving DecidableEq, Inhabited

namespace Field

/-- Refuses a text that is none of the options, if there are any. Function `check_option`. -/
def checkOption (f : Field) (s : String) : Except Refusal Unit :=
  if f.options.isEmpty || f.options.contains s then .ok () else .error (.option s f.options)

/-- Refuses a text that breaks the rule. Function `check_string_rule`. -/
def checkText (f : Field) (s : String) : Except Refusal Unit := do
  let rule := f.rule.getD .free
  match rule.pattern with
  | none => pure ()
  | some source =>
    match Pattern.read? source with
    | none => throw .badPattern
    | some p => if p.isFoundIn s then pure () else throw (.mismatch s source)
  if rule.yamlMapping then
    match Yaml.read? s with
    | none => throw .badYaml
    | some y => if y.isMapping then pure () else throw .notMapping

/-- Refuses a number that breaks the rule. Part of `check_value`. -/
def checkNumber (f : Field) (n : Float) : Except Refusal Unit := do
  let rule := f.rule.getD .free
  match rule.min with
  | some least => if n < least then throw (.below n least)
  | none => pure ()
  match rule.max with
  | some greatest => if n > greatest then throw (.above n greatest)
  | none => pure ()

/-- Refuses a value of the wrong form, and one that breaks the rule. Empty texts and lists pass.
Function `check_value`. -/
def check (f : Field) (value : Json) : Except Refusal Unit :=
  match f.type with
  | .text | .textarea | .code | .secret =>
    match value with
    | .str s => if Text.allBlank s then .ok () else f.checkText s
    | value => .error (.form "a string" value)
  | .select =>
    match value with
    | .str s => if s.isEmpty && f.options.contains "" then .ok () else f.checkOption s
    | value => .error (.form "a string" value)
  | .multiselect =>
    match value with
    | .arr items =>
      items.forM fun item ↦
        match item with
        | .str s => f.checkOption s
        | item => .error (.form "string items" item)
    | value => .error (.form "a list" value)
  | .number =>
    match value.real? with
    | some n => f.checkNumber n
    | none => .error (.form "a number" value)
  | .boolean =>
    match value with
    | .bool _ => .ok ()
    | value => .error (.form "a boolean" value)

/-- Whether a value counts as none: `null`, a blank text, an empty list. Function `is_empty`. -/
def isEmptyValue : Json → Bool
  | .null => true
  | .str s => Text.allBlank s
  | .arr items => items.isEmpty
  | _ => false

/-- Refuses a value as `check` does, and also a missing or empty one that is required. `null` counts
as missing. Function `check_required`. -/
def checkPresent (f : Field) (value : Option Json) : Except Refusal Unit :=
  match value.filter (!·.isNull) with
  | none => if f.required then .error .missing else .ok ()
  | some value => if f.required && isEmptyValue value then .error .empty else f.check value

/-- Reads a field. -/
def ofJson? : Json → Option Field := Json.record? do
  let key ← .required "key" Json.text?
  let label ← .required "label" Json.text?
  let type ← .required "fieldType" FieldType.ofJson?
  let required ← .required "required" Json.bool?
  let default ← .optional "default" some
  let options ← .defaulted "options" (Json.list? Json.text?) []
  let rule ← .optional "rule" Rule.ofJson?
  return { key, label, type, required, default, options, rule }

/-- The written form of a field. -/
def toJson (f : Field) : Json :=
  .obj <| [("key", .str f.key), ("label", .str f.label), ("fieldType", f.type.toJson),
    ("required", .bool f.required)] ++ Json.optional "default" id f.default ++
    (if f.options.isEmpty then [] else [("options", .ofList .str f.options)]) ++
    Json.optional "rule" Rule.toJson f.rule

end Field

end Blockflow
