import Blockflow.Ids
import Blockflow.Workflow.Event
import Blockflow.Workflow.Graph

/-!
# Editing a workflow

The changes that may be made to a workflow. Each of them checks first whether it may be made, and
then answers, gives the changed workflow, and tells in events what has changed. A change that is
refused changes nothing. Connections keep to these rules: they join existing ports of blocks of
known types with compatible flows; no input takes more than its limit, triggers not counted; no two
are the same; and the blocks that are no triggers never come before themselves.

Components `graph` and `error` of `workflow-engine`; specification §4.2, §7 and C.2.
-/

namespace Blockflow

/-- Why a change is refused. Enumeration `WorkflowError`. -/
inductive EditError where
  /-- No definition describes a type of block. -/
  | unknownBlockType (tag : String)
  /-- There is no block with the id. -/
  | blockNotFound (id : String)
  /-- There is no connection with the id. -/
  | connectionNotFound (id : String)
  /-- Blocks of a type have no such output. -/
  | noOutput (tag port : String)
  /-- Blocks of a type have no such input. -/
  | noInput (tag port : String)
  /-- Two ports carry different flows. -/
  | incompatible (source target : PortType)
  /-- An input has as many connections as it takes. -/
  | arityExceeded (block port : String) (limit : Nat)
  /-- A block would come before itself. -/
  | wouldCreateCycle (source target : String)
  /-- There is such a connection. -/
  | duplicateConnection (source target : String)
  /-- Two blocks have one id. -/
  | duplicateBlockId (id : String)
  /-- Blocks of a type have no field with the key. -/
  | noField (block tag key : String)
  /-- A field refuses a value. -/
  | badValue (block key : String) (why : Refusal)
  /-- Something that should be a workflow is none. -/
  | unreadable
deriving DecidableEq

namespace EditError

/-- The text about a setting that is refused. -/
def settingMessage (block key reason : String) : String :=
  "Schema violation on block '" ++ block ++ "', field '" ++ key ++ "': " ++ reason

/-- The error in words. -/
def message : EditError → String
  | .unknownBlockType tag => "Unknown block type: " ++ tag
  | .blockNotFound id => "Block not found: " ++ id
  | .connectionNotFound id => "Connection not found: " ++ id
  | .noOutput tag port => "Port mismatch: '" ++ tag ++ "' has no output port '" ++ port ++ "'"
  | .noInput tag port => "Port mismatch: '" ++ tag ++ "' has no input port '" ++ port ++ "'"
  | .incompatible source target =>
    "Port mismatch: cannot connect " ++ source.title ++ " output to " ++ target.title ++ " input"
  | .arityExceeded block port limit =>
    "Input port '" ++ port ++ "' on block '" ++ block ++ "' accepts at most " ++ toString limit ++
      " connection(s)"
  | .wouldCreateCycle source target =>
    "Connecting '" ++ source ++ "' to '" ++ target ++ "' would create a cycle"
  | .duplicateConnection source target =>
    "Connection from '" ++ source ++ "' to '" ++ target ++ "' already exists"
  | .duplicateBlockId id => "Duplicate block id: " ++ id
  | .noField block tag key =>
    settingMessage block key ("'" ++ tag ++ "' has no field '" ++ key ++ "'")
  | .badValue block key why => settingMessage block key why.reason
  | .unreadable => "Serialization error: not a workflow"

end EditError

/-- A change that has been made. -/
structure Edit (α : Type) where
  /-- What the change answers. -/
  answer : α
  /-- The workflow after it. -/
  workflow : Workflow
  /-- What is told about it. -/
  events : List Event

/-- A change that takes ids from a counter. The ids that it takes are used up even if it is
refused. There is no result if it looks for a free id and none is left: such a search does not
end. -/
abbrev Editing (α : Type) : Type := ExceptT EditError (StateT Nat Option) α

namespace Editing

/-- Makes a change, with ids that count from the given number on. -/
def runFrom {α : Type} (x : Editing α) (n : Nat) : Option (Except EditError α × Nat) :=
  StateT.run (ExceptT.run x) n

/-- Takes an id that is not among the taken ones. One attempt more than there are taken ids finds
it, if there is one. Functions `next_block_id` and `next_connection_id`. -/
def freshId (idOf : Nat → String) (taken : List String) : Editing String :=
  ExceptT.lift fun n ↦ Ids.fresh? idOf taken (taken.length + 1) n

/-- Goes on with a value, or refuses. -/
def ofExcept {α : Type} (x : Except EditError α) : Editing α := ExceptT.mk (pure x)

end Editing

namespace Editor

/-- The definition of a type of block. -/
def definition (r : Registry) (tag : String) : Except EditError Definition :=
  match r.get? tag with
  | some d => .ok d
  | none => .error (.unknownBlockType tag)

/-- The block with an id. -/
def block (w : Workflow) (id : String) : Except EditError Block :=
  match w.block? id with
  | some b => .ok b
  | none => .error (.blockNotFound id)

/-- Refuses a setting that belongs to no field, and a value that its field refuses. `null` always
passes. -/
def checkSetting (block : String) (d : Definition) (key : String) (value : Json) :
    Except EditError Unit :=
  match d.field? key with
  | none => .error (.noField block d.tag key)
  | some f =>
    if value.isNull then .ok ()
    else
      match f.check value with
      | .ok () => .ok ()
      | .error why => .error (.badValue block key why)

/-- The settings with one of them changed; `null` gives back the default of its field. -/
def putSetting (d : Definition) (config : Settings) (key : String) (value : Json) : Settings :=
  if value.isNull then
    match (d.field? key).bind (·.default) with
    | some value => config.insert key value
    | none => config.erase key
  else config.insert key value

/-- The settings with some of them changed, unless one of the changes is refused. Function
`apply_patch`. -/
def patched (block : String) (d : Definition) (config patch : Settings) :
    Except EditError Settings := do
  patch.entries.forM fun e ↦ checkSetting block d e.1 e.2
  return patch.entries.foldl (fun config e ↦ putSetting d config e.1 e.2) config

/-- A new block at the end. -/
def appended (w : Workflow) (b : Block) : Edit Block :=
  ⟨b, { w with blocks := w.blocks ++ [b] }, [.blockAdded w.id b]⟩

/-- Adds a block of a known type; settings that are not given have the defaults of their fields.
Function `add_block`. -/
def addBlock (r : Registry) (w : Workflow) (tag : String) (position : Position)
    (config : Settings) : Editing (Edit Block) := do
  let d ← Editing.ofExcept (definition r tag)
  let id ← Editing.freshId Ids.block (w.blocks.map (·.id))
  let config ← Editing.ofExcept (patched id d d.defaultConfig config)
  return appended w { id, tag, position, config, label := none }

/-- Adds a copy of a block, a little away from it. Function `duplicate_block`. -/
def duplicateBlock (r : Registry) (w : Workflow) (id : String) : Editing (Edit Block) := do
  let b ← Editing.ofExcept (block w id)
  let d ← Editing.ofExcept (definition r b.tag)
  let fresh ← Editing.freshId Ids.block (w.blocks.map (·.id))
  let label := b.label.getD d.name ++ " (copy)"
  return appended w { b with id := fresh, position := b.position.shift 50 50, label := some label }

/-- Removes a block and every connection at it. Function `remove_block`. -/
def removeBlock (w : Workflow) (id : String) : Except EditError (Edit Block) := do
  let b ← block w id
  let removed := w.touching id
  let workflow :=
    { w with
      blocks := w.blocks.eraseP fun b ↦ b.id == id
      connections := w.connections.filter fun c ↦ !c.touches id }
  return ⟨b, workflow,
    removed.map (fun c ↦ .connectionRemoved w.id c.id) ++ [.blockRemoved w.id b.id]⟩

/-- Changes a block. Function `modify_block`. -/
def updateBlock (w : Workflow) (id : String) (f : Block → Block) :
    Except EditError (Edit Block) := do
  let b ← block w id
  return ⟨f b, w.changeBlock id f, [.blockUpdated w.id (f b)]⟩

/-- Changes settings of a block. Function `update_config`. -/
def updateConfig (r : Registry) (w : Workflow) (id : String) (patch : Settings) :
    Except EditError (Edit Block) := do
  let b ← block w id
  let d ← definition r b.tag
  let config ← patched id d b.config patch
  updateBlock w id fun b ↦ { b with config }

/-- Gives a block a label, or takes it away; a blank label is none. Function `update_label`. -/
def updateLabel (w : Workflow) (id : String) (label : Option String) :
    Except EditError (Edit Block) :=
  updateBlock w id fun b ↦ { b with label := label.filter fun l ↦ !Text.allBlank l }

/-- Moves a block. Function `update_position`. -/
def updatePosition (w : Workflow) (id : String) (position : Position) :
    Except EditError (Edit Block) :=
  updateBlock w id fun b ↦ { b with position }

/-! ### Connections -/

/-- What a connection would join, as far as the definitions say. -/
structure Ends where
  /-- The definition of the block it comes from. -/
  source : Definition
  /-- The definition of the block it goes to. -/
  target : Definition
  /-- The port it goes to. -/
  input : Port

/-- The ends of a connection, unless a block or a port is missing or the flows differ. Part of
`add_connection`. -/
def ends (r : Registry) (w : Workflow) (source sourcePort target targetPort : String) :
    Except EditError Ends := do
  let s ← block w source
  let t ← block w target
  let sourceDef ← definition r s.tag
  let targetDef ← definition r t.tag
  match sourceDef.output? sourcePort with
  | none => throw (.noOutput sourceDef.tag sourcePort)
  | some output =>
    match targetDef.input? targetPort with
    | none => throw (.noInput targetDef.tag targetPort)
    | some input =>
      if output.type.feeds input.type then return ⟨sourceDef, targetDef, input⟩
      else throw (.incompatible output.type input.type)

/-- The connections that an input has. -/
def connectionsInto (w : Workflow) (target targetPort : String) : List Connection :=
  (w.incoming target).filter fun c ↦ c.targetPort == targetPort

/-- Whether the first block with an id starts runs. -/
def isTriggerId (r : Registry) (w : Workflow) (id : String) : Bool :=
  (w.block? id).any fun b ↦ r.isTrigger b.tag

/-- Whether one block comes after another one, along blocks that start no runs. Function `reaches`.
-/
def comesAfter (r : Registry) (w : Workflow) (id other : String) : Bool :=
  let next (x : String) : List String :=
    (w.dependents x).filter fun y ↦ !isTriggerId r w y
  (Graph.reachFrom next (w.connections.length + 2) [other] []).contains id

/-- Whether an input has as many connections as it takes; those from triggers do not count. Part of
`add_connection`. -/
def isFull (r : Registry) (w : Workflow) (into : List Connection) (limit : Nat) : Bool :=
  (into.filter fun c ↦ !isTriggerId r w c.source).length ≥ limit

/-- Refuses a connection between two blocks with the given ends that breaks a rule. Part of
`add_connection`. -/
def checkConnection (r : Registry) (w : Workflow) (e : Ends)
    (source sourcePort target targetPort : String) : Except EditError Unit := do
  if source = target then throw (.wouldCreateCycle source target)
  let into := connectionsInto w target targetPort
  if into.any fun c ↦ c.source == source && c.sourcePort == sourcePort then
    throw (.duplicateConnection source target)
  match e.input.limit? with
  | some limit =>
    if !e.source.isTrigger && isFull r w into limit then
      throw (.arityExceeded target targetPort limit)
  | none => pure ()
  if !e.source.isTrigger && !e.target.isTrigger && comesAfter r w source target then
    throw (.wouldCreateCycle source target)

/-- Connects an output of a block with an input of a block. Function `add_connection`. -/
def addConnection (r : Registry) (w : Workflow) (source sourcePort target targetPort : String) :
    Editing (Edit Connection) := do
  let e ← Editing.ofExcept (ends r w source sourcePort target targetPort)
  Editing.ofExcept (checkConnection r w e source sourcePort target targetPort)
  let id ← Editing.freshId Ids.connection (w.connections.map (·.id))
  let c : Connection := { id, source, sourcePort, target, targetPort }
  return ⟨c, { w with connections := w.connections ++ [c] }, [.connectionAdded w.id c]⟩

/-- Removes a connection. Function `remove_connection`. -/
def removeConnection (w : Workflow) (id : String) : Except EditError (Edit Connection) :=
  match w.connection? id with
  | none => .error (.connectionNotFound id)
  | some c =>
    .ok ⟨c, { w with connections := w.connections.eraseP fun c ↦ c.id == id },
      [.connectionRemoved w.id c.id]⟩

end Editor

/-! ### Changes as data -/

/-- A change that someone asks for. -/
inductive EditCall where
  /-- Adds a block. -/
  | addBlock (tag : String) (position : Position) (config : Settings)
  /-- Removes a block. -/
  | removeBlock (id : String)
  /-- Changes settings of a block. -/
  | updateConfig (id : String) (patch : Settings)
  /-- Gives a block a label or takes it away. -/
  | updateLabel (id : String) (label : Option String)
  /-- Moves a block. -/
  | updatePosition (id : String) (position : Position)
  /-- Copies a block. -/
  | duplicateBlock (id : String)
  /-- Connects two blocks. -/
  | addConnection (source sourcePort target targetPort : String)
  /-- Removes a connection. -/
  | removeConnection (id : String)
deriving DecidableEq

/-- What a change answers: the block or the connection that it is about. -/
inductive EditAnswer where
  /-- A block. -/
  | block (b : Block)
  /-- A connection. -/
  | connection (c : Connection)
deriving DecidableEq

namespace EditAnswer

/-- The written form of an answer. -/
def toJson : EditAnswer → Json
  | .block b => b.toJson
  | .connection c => c.toJson

end EditAnswer

namespace Edit

/-- The change with its answer in another form. -/
def map {α β : Type} (f : α → β) (e : Edit α) : Edit β := ⟨f e.answer, e.workflow, e.events⟩

end Edit

/-- Makes the change that is asked for. -/
def EditCall.run (r : Registry) (w : Workflow) : EditCall → Editing (Edit EditAnswer)
  | .addBlock tag position config => Edit.map .block <$> Editor.addBlock r w tag position config
  | .removeBlock id => Edit.map .block <$> Editing.ofExcept (Editor.removeBlock w id)
  | .updateConfig id patch =>
    Edit.map .block <$> Editing.ofExcept (Editor.updateConfig r w id patch)
  | .updateLabel id label => Edit.map .block <$> Editing.ofExcept (Editor.updateLabel w id label)
  | .updatePosition id position =>
    Edit.map .block <$> Editing.ofExcept (Editor.updatePosition w id position)
  | .duplicateBlock id => Edit.map .block <$> Editor.duplicateBlock r w id
  | .addConnection source sourcePort target targetPort =>
    Edit.map .connection <$> Editor.addConnection r w source sourcePort target targetPort
  | .removeConnection id =>
    Edit.map .connection <$> Editing.ofExcept (Editor.removeConnection w id)

/-! ### Loading -/

namespace Workflow

/-- Refuses a workflow with a block of an unknown type, or with two blocks of one id. -/
def checkBlocks (r : Registry) : (seen : List String) → List Block → Except EditError Unit
  | _, [] => .ok ()
  | seen, b :: rest =>
    if !r.contains b.tag then .error (.unknownBlockType b.tag)
    else if seen.contains b.id then .error (.duplicateBlockId b.id)
    else checkBlocks r (b.id :: seen) rest

/-- The workflow that a JSON value describes, unless one of its blocks has an unknown type or two
have one id. Function `deserialize`. -/
def load (r : Registry) (j : Json) : Except EditError Workflow :=
  match ofJson? j with
  | none => .error .unreadable
  | some w => (checkBlocks r [] w.blocks).map fun _ ↦ w

end Workflow

end Blockflow
