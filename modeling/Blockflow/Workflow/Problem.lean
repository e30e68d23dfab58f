import Blockflow.Json.Record

/-!
# Problems

A problem is something that keeps a workflow from becoming a pipeline, with the block or the
connection where it lies.

Component `validation` of `workflow-engine`; specification §4.3.
-/

namespace Blockflow

/-- The kind of a problem. Enumeration `ValidationErrorKind`. -/
inductive ProblemKind where
  /-- A block of a type that no definition describes. -/
  | unknownBlockType
  /-- A required setting without a value. -/
  | missingRequiredField
  /-- A setting with a wrong value. -/
  | schemaViolation
  /-- An end of a connection that is no block. -/
  | missingBlock
  /-- An end of a connection that is no port. -/
  | missingPort
  /-- A connection between ports of different flows. -/
  | portMismatch
  /-- An input with too many connections. -/
  | arityExceeded
  /-- A block that comes before itself. -/
  | cycle
  /-- A block that no run comes to. -/
  | unreachable
  /-- No block that starts a run. -/
  | missingTrigger
deriving DecidableEq, Inhabited

namespace ProblemKind

/-- The name of a kind, as it stands in the text of a problem. -/
def title : ProblemKind → String
  | .unknownBlockType => "UnknownBlockType"
  | .missingRequiredField => "MissingRequiredField"
  | .schemaViolation => "SchemaViolation"
  | .missingBlock => "MissingBlock"
  | .missingPort => "MissingPort"
  | .portMismatch => "PortMismatch"
  | .arityExceeded => "ArityExceeded"
  | .cycle => "Cycle"
  | .unreachable => "Unreachable"
  | .missingTrigger => "MissingTrigger"

/-- The name a kind is written with. -/
def tag : ProblemKind → String
  | .unknownBlockType => "unknownBlockType"
  | .missingRequiredField => "missingRequiredField"
  | .schemaViolation => "schemaViolation"
  | .missingBlock => "missingBlock"
  | .missingPort => "missingPort"
  | .portMismatch => "portMismatch"
  | .arityExceeded => "arityExceeded"
  | .cycle => "cycle"
  | .unreachable => "unreachable"
  | .missingTrigger => "missingTrigger"

/-- Every kind. -/
def all : List ProblemKind :=
  [.unknownBlockType, .missingRequiredField, .schemaViolation, .missingBlock, .missingPort,
    .portMismatch, .arityExceeded, .cycle, .unreachable, .missingTrigger]

/-- The kind with the given name. -/
def ofTag? (s : String) : Option ProblemKind := all.find? fun k ↦ k.tag == s

end ProblemKind

/-- Something that keeps a workflow from becoming a pipeline. Record `ValidationError`. -/
structure Problem where
  /-- The block where it lies. -/
  block : Option String
  /-- The connection where it lies. -/
  connection : Option String
  /-- What kind of problem it is. -/
  kind : ProblemKind
  /-- The problem in words. -/
  message : String
deriving DecidableEq, Inhabited

namespace Problem

/-- The problem on one line. -/
def text (p : Problem) : String :=
  let place :=
    match p.block, p.connection with
    | some b, _ => "block '" ++ b ++ "': "
    | none, some c => "connection '" ++ c ++ "': "
    | none, none => ""
  "[" ++ p.kind.title ++ "] " ++ place ++ p.message

/-- Reads a problem. -/
def ofJson? : Json → Option Problem := Json.record? do
  let block ← .optional "blockId" Json.text?
  let connection ← .optional "connectionId" Json.text?
  let kind ← .required "kind" (Json.choice? ProblemKind.ofTag?)
  let message ← .required "message" Json.text?
  return { block, connection, kind, message }

/-- The written form of a problem. -/
def toJson (p : Problem) : Json :=
  .obj <| Json.optional "blockId" .str p.block ++ Json.optional "connectionId" .str p.connection ++
    [("kind", .str p.kind.tag), ("message", .str p.message)]

end Problem

end Blockflow
