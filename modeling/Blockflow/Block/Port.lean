import Blockflow.Json.Record

/-!
# Ports

A block is wired through its ports. The type of flow that a port carries says which outputs may
feed which inputs.

Component `types` of `workflow-engine`; specification §3 and C.1.
-/

namespace Blockflow

/-- The type of flow that a port carries. Enumeration `PortType`. -/
inductive PortType where
  /-- The output of a trigger. -/
  | trigger
  /-- The order of steps. -/
  | job
  /-- Artifacts and data. -/
  | data
  /-- A conditional branch. -/
  | condition
  /-- Anything. -/
  | any
deriving DecidableEq, Inhabited

namespace PortType

/-- The name a port type is written with. -/
def tag : PortType → String
  | .trigger => "trigger"
  | .job => "job"
  | .data => "data"
  | .condition => "condition"
  | .any => "any"

/-- The name of a port type, as it stands in the texts of problems and errors. -/
def title : PortType → String
  | .trigger => "Trigger"
  | .job => "Job"
  | .data => "Data"
  | .condition => "Condition"
  | .any => "Any"

/-- The port type with the given name. -/
def ofTag? (s : String) : Option PortType :=
  [PortType.trigger, .job, .data, .condition, .any].find? fun t ↦ t.tag == s

/-- Whether an output of the first type may feed an input of the second: only from data to the flow
of control there is no way. Function `PortType.is_compatible_with`. -/
def feeds : (source target : PortType) → Bool
  | .data, .data => true
  | .data, .any => true
  | .data, _ => false
  | _, _ => true

/-- Reads a port type. -/
def ofJson? : Json → Option PortType := Json.choice? ofTag?

/-- The written form of a port type. -/
def toJson (t : PortType) : Json := .str t.tag

end PortType

/-- A port of a block. Record `PortDefinition`. -/
structure Port where
  /-- What connections call it. -/
  id : String
  /-- What readers call it. -/
  label : String
  /-- The flow it carries. -/
  type : PortType
  /-- Whether it has to be connected. -/
  required : Bool
  /-- Whether it takes more than one connection. -/
  multiple : Bool
deriving DecidableEq, Inhabited

namespace Port

/-- How many connections an input takes, if there is a limit. Function `PortDefinition.input_arity`.
-/
def limit? (p : Port) : Option Nat := if p.multiple then none else some 1

/-- Reads a port. -/
def ofJson? : Json → Option Port := Json.record? do
  let id ← .required "id" Json.text?
  let label ← .required "label" Json.text?
  let type ← .required "portType" PortType.ofJson?
  let required ← .required "required" Json.bool?
  let multiple ← .required "multiple" Json.bool?
  return { id, label, type, required, multiple }

/-- The written form of a port. -/
def toJson (p : Port) : Json :=
  .obj [("id", .str p.id), ("label", .str p.label), ("portType", p.type.toJson),
    ("required", .bool p.required), ("multiple", .bool p.multiple)]

end Port

end Blockflow
