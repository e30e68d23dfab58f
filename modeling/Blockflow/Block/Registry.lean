import Blockflow.Block.Field
import Blockflow.Block.Kind
import Blockflow.Block.Port
import Blockflow.Workflow.Basic

/-!
# Definitions and registries

A definition says what blocks of one kind are: their family, their ports and their fields. A
registry holds at most one definition for each kind, in the order in which the kinds came.

Component `registry` of `workflow-engine`; specification §4.1.
-/

namespace Blockflow

/-- What blocks of one kind are. Record `BlockDefinition`. -/
structure Definition where
  /-- The kind of block. -/
  kind : Kind
  /-- The family of the block. -/
  category : Category
  /-- What readers call it. -/
  name : String
  /-- What it does. -/
  description : String
  /-- The ports that connections go to. -/
  inputs : List Port
  /-- The ports that connections come from. -/
  outputs : List Port
  /-- The settings. -/
  fields : List Field
deriving DecidableEq, Inhabited

namespace Definition

/-- The tag of the kind. Function `BlockDefinition.block_type`. -/
def tag (d : Definition) : String := d.kind.tag

/-- Whether blocks of this kind start a run. Function `BlockDefinition.is_trigger`. -/
def isTrigger (d : Definition) : Bool := d.category = .trigger

/-- The input with the given id. Function `BlockDefinition.input`. -/
def input? (d : Definition) (id : String) : Option Port := d.inputs.find? fun p ↦ p.id == id

/-- The output with the given id. Function `BlockDefinition.output`. -/
def output? (d : Definition) (id : String) : Option Port := d.outputs.find? fun p ↦ p.id == id

/-- The field with the given key. Function `BlockDefinition.field`. -/
def field? (d : Definition) (key : String) : Option Field := d.fields.find? fun f ↦ f.key == key

/-- The settings of a new block: what the fields have as defaults. Function
`BlockDefinition.default_config`. -/
def defaultConfig (d : Definition) : Settings :=
  .ofList (d.fields.filterMap fun f ↦ f.default.map fun v ↦ (f.key, v))

/-- Reads a definition. -/
def ofJson? : Json → Option Definition := Json.record? do
  let kind ← .required "type" Kind.ofJson?
  let category ← .required "category" Category.ofJson?
  let name ← .required "name" Json.text?
  let description ← .required "description" Json.text?
  let inputs ← .required "inputs" (Json.list? Port.ofJson?)
  let outputs ← .required "outputs" (Json.list? Port.ofJson?)
  let fields ← .required "configSchema" (Json.list? Field.ofJson?)
  return { kind, category, name, description, inputs, outputs, fields }

/-- The written form of a definition. -/
def toJson (d : Definition) : Json :=
  .obj [("type", d.kind.toJson), ("category", d.category.toJson), ("name", .str d.name),
    ("description", .str d.description), ("inputs", .ofList Port.toJson d.inputs),
    ("outputs", .ofList Port.toJson d.outputs), ("configSchema", .ofList Field.toJson d.fields)]

end Definition

/-- The definitions in use. Record `BlockRegistry`. -/
structure Registry where
  /-- The definitions, in the order in which their kinds came. -/
  definitions : List Definition
deriving DecidableEq, Inhabited

namespace Registry

/-- The registry without definitions. -/
def empty : Registry := ⟨[]⟩

/-- A definition put into a list: in the place of the one of the same kind, or at the end. -/
def put (d : Definition) : List Definition → List Definition
  | [] => [d]
  | e :: rest => if e.kind = d.kind then d :: rest else e :: put d rest

/-- The registry with a definition, in the place of the one of the same kind if there is one.
Function `register`. -/
def register (r : Registry) (d : Definition) : Registry := ⟨put d r.definitions⟩

/-- The registry with several definitions, one after the other. -/
def registerAll (r : Registry) (ds : List Definition) : Registry := ds.foldl register r

/-- The definition for a tag. Functions `get` and `lookup`. -/
def get? (r : Registry) (tag : String) : Option Definition :=
  r.definitions.find? fun d ↦ d.tag == tag

/-- Whether there is a definition for a tag. Function `has_block_type`. -/
def contains (r : Registry) (tag : String) : Bool := (r.get? tag).isSome

/-- The category of the blocks with a tag. -/
def category? (r : Registry) (tag : String) : Option Category := (r.get? tag).map (·.category)

/-- Whether blocks with a tag start runs. Function `BlockRegistry.is_trigger`. -/
def isTrigger (r : Registry) (tag : String) : Bool := (r.get? tag).any Definition.isTrigger

/-- The definitions of one category. Function `list_by_category`. -/
def ofCategory (r : Registry) (c : Category) : List Definition :=
  r.definitions.filter fun d ↦ d.category = c

/-- The number of definitions. -/
def size (r : Registry) : Nat := r.definitions.length

/-- Whether there are no definitions. -/
def isEmpty (r : Registry) : Bool := r.definitions.isEmpty

end Registry

end Blockflow
