import Blockflow.Workflow.Graph
import Blockflow.Workflow.Problem

/-!
# Validation

Every problem of a workflow, in this order: blocks of unknown types; settings; connections; cycles;
blocks that no run comes to; no trigger at all. Nothing stops at the first problem, and a workflow
without problems can be compiled.

Component `validation` of `workflow-engine`; specification §4.3 and C.3.
-/

namespace Blockflow

/-- What is wrong, and where. -/
inductive Finding where
  /-- A block has an unknown type. -/
  | unknownType (block tag : String)
  /-- A required field has no value. -/
  | requiredMissing (block label : String)
  /-- A field has a wrong value. -/
  | badValue (block label : String) (why : Refusal)
  /-- A setting belongs to no field. -/
  | noField (block tag key : String)
  /-- A connection has an end that is no block. -/
  | noBlock (connection block : String)
  /-- A connection comes from a port that its block does not have. -/
  | noOutput (connection block port : String)
  /-- A connection goes to a port that its block does not have. -/
  | noInput (connection block port : String)
  /-- A connection joins ports of different flows. -/
  | incompatible (connection : String) (source target : PortType)
  /-- An input has too many connections. -/
  | tooMany (block port : String) (limit : Nat)
  /-- A block comes before itself. -/
  | cycle (block : String)
  /-- No run comes to a block. -/
  | unreachable (block : String)
  /-- Nothing starts a run. -/
  | noTrigger
deriving DecidableEq

namespace Finding

/-- The block where a problem lies. -/
def block? : Finding → Option String
  | .unknownType b _ | .requiredMissing b _ | .badValue b _ _ | .noField b _ _ | .tooMany b _ _
  | .cycle b | .unreachable b => some b
  | _ => none

/-- The connection where a problem lies. -/
def connection? : Finding → Option String
  | .noBlock c _ | .noOutput c _ _ | .noInput c _ _ | .incompatible c _ _ => some c
  | _ => none

/-- The kind of a problem. -/
def kind : Finding → ProblemKind
  | .unknownType _ _ => .unknownBlockType
  | .requiredMissing _ _ => .missingRequiredField
  | .badValue _ _ _ | .noField _ _ _ => .schemaViolation
  | .noBlock _ _ => .missingBlock
  | .noOutput _ _ _ | .noInput _ _ _ => .missingPort
  | .incompatible _ _ _ => .portMismatch
  | .tooMany _ _ _ => .arityExceeded
  | .cycle _ => .cycle
  | .unreachable _ => .unreachable
  | .noTrigger => .missingTrigger

/-- A problem in words. -/
def message : Finding → String
  | .unknownType _ tag => "Unknown block type '" ++ tag ++ "'"
  | .requiredMissing _ label => "'" ++ label ++ "' is required"
  | .badValue _ label why => "'" ++ label ++ "': " ++ why.reason
  | .noField _ tag key => "'" ++ tag ++ "' has no field '" ++ key ++ "'"
  | .noBlock _ block => "references missing block '" ++ block ++ "'"
  | .noOutput _ block port => "block '" ++ block ++ "' has no output port '" ++ port ++ "'"
  | .noInput _ block port => "block '" ++ block ++ "' has no input port '" ++ port ++ "'"
  | .incompatible _ source target =>
    source.title ++ " output cannot feed " ++ target.title ++ " input"
  | .tooMany _ port limit =>
    "input '" ++ port ++ "' accepts at most " ++ toString limit ++ " connection(s)"
  | .cycle _ => "block is part of a dependency cycle"
  | .unreachable _ => "no path from any trigger reaches this block"
  | .noTrigger => "workflow has no trigger block"

/-- What is wrong, as a problem. -/
def problem (f : Finding) : Problem := ⟨f.block?, f.connection?, f.kind, f.message⟩

end Finding

namespace Validation

/-- What is wrong with the type of a block. Function `check_block_types`. -/
def typeFindings (r : Registry) (b : Block) : List Finding :=
  if r.contains b.tag then [] else [.unknownType b.id b.tag]

/-- What is wrong with the value of a field. -/
def fieldFindings (b : Block) (f : Field) : List Finding :=
  let value := b.config.get? f.key
  if f.required && value.all Field.isEmptyValue then [.requiredMissing b.id f.label]
  else
    match f.checkPresent value with
    | .ok () => []
    | .error why => [.badValue b.id f.label why]

/-- What is wrong with the settings of a block. Function `check_config`. -/
def configFindings (r : Registry) (b : Block) : List Finding :=
  match r.get? b.tag with
  | none => []
  | some d =>
    d.fields.flatMap (fieldFindings b) ++
      (b.config.keys.filter fun k ↦ (d.field? k).isNone).map (.noField b.id d.tag)

/-- What a connection leads from and to: both blocks, their definitions and the ports. -/
structure Link where
  /-- The definition of the block it comes from. -/
  source : Definition
  /-- The port it comes from. -/
  output : Port
  /-- The block it goes to. -/
  target : Block
  /-- The port it goes to. -/
  input : Port

/-- What is wrong with the ends of a connection, or what it links. Part of `check_connections`. -/
def linkOf (w : Workflow) (r : Registry) (c : Connection) : List Finding ⊕ Option Link :=
  match w.block? c.source, w.block? c.target with
  | some source, some target =>
    match r.get? source.tag, r.get? target.tag with
    | some sourceDef, some targetDef =>
      match sourceDef.output? c.sourcePort, targetDef.input? c.targetPort with
      | some output, some input => .inr (some ⟨sourceDef, output, target, input⟩)
      | output, input =>
        .inl ((if output.isNone then [.noOutput c.id source.id c.sourcePort] else []) ++
          if input.isNone then [.noInput c.id target.id c.targetPort] else [])
    | _, _ => .inr none
  | source, target =>
    .inl ((if source.isNone then [.noBlock c.id c.source] else []) ++
      if target.isNone then [.noBlock c.id c.target] else [])

/-- The problems of connections, given the inputs that the earlier ones go to. An input with a limit
is reported where the first connection exceeds it; connections from triggers do not count. Function
`check_connections`. -/
def connectionFindings (w : Workflow) (r : Registry) :
    (taken : List (String × String)) → List Connection → List Finding
  | _, [] => []
  | taken, c :: rest =>
    match linkOf w r c with
    | .inl findings => findings ++ connectionFindings w r taken rest
    | .inr none => connectionFindings w r taken rest
    | .inr (some link) =>
      let mismatch : List Finding :=
        if link.output.type.feeds link.input.type then []
        else [.incompatible c.id link.output.type link.input.type]
      if link.source.isTrigger then mismatch ++ connectionFindings w r taken rest
      else
        let input := (link.target.id, link.input.id)
        let count := taken.count input + 1
        let exceeded : List Finding :=
          match link.input.limit? with
          | some limit =>
            if count = limit + 1 then [.tooMany link.target.id link.input.id limit] else []
          | none => []
        mismatch ++ exceeded ++ connectionFindings w r (input :: taken) rest

/-- The blocks that come before themselves. Function `check_cycles`. -/
def cycleFindings (w : Workflow) (r : Registry) : List Finding :=
  let ids := w.stepIds r
  let edges := w.edgesAmong ids
  (ids.filter (Workflow.isOnCycle edges)).map .cycle

/-- The ids that runs come to. -/
def reachedIds (w : Workflow) (r : Registry) : List String :=
  Workflow.reachable (w.connections.map fun c ↦ (c.source, c.target)) ((w.triggers r).map (·.id))

/-- The blocks that no run comes to. Function `check_reachability`. -/
def reachFindings (w : Workflow) (r : Registry) : List Finding :=
  let reached := reachedIds w r
  let lost := ((w.steps r).map (·.id)).filter (!reached.contains ·)
  (lost.mergeSort fun a b ↦ a ≤ b).map .unreachable

/-- Nothing starts a run. Function `check_trigger_present`. -/
def triggerFindings (w : Workflow) (r : Registry) : List Finding :=
  if (w.triggers r).isEmpty then [.noTrigger] else []

end Validation

open Validation in
/-- Everything that is wrong with a workflow. Function `validate`. -/
def Workflow.findings (w : Workflow) (r : Registry) : List Finding :=
  w.blocks.flatMap (typeFindings r) ++ w.blocks.flatMap (configFindings r) ++
    connectionFindings w r [] w.connections ++ cycleFindings w r ++ reachFindings w r ++
    triggerFindings w r

/-- The problems of a workflow. -/
def Workflow.problems (w : Workflow) (r : Registry) : List Problem :=
  (w.findings r).map Finding.problem

/-- Whether a workflow has no problems. Function `ValidationResult.is_valid`. -/
def Workflow.isValid (w : Workflow) (r : Registry) : Bool := (w.findings r).isEmpty

end Blockflow
