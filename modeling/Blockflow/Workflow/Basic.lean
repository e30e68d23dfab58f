import Blockflow.Json.Record

/-!
# Workflows

A workflow is a graph that someone has drawn: blocks with their settings, and connections from an
output port of one block to an input port of another. Nothing here says that a workflow makes
sense; that is the matter of its validation.

Component `types` of `workflow-engine`; specification §3 and §6.
-/

namespace Blockflow

/-- A place on the canvas. Record `Position`. -/
structure Position where
  /-- The horizontal coordinate. -/
  x : Float
  /-- The vertical coordinate. -/
  y : Float
deriving DecidableEq

namespace Position

/-- The corner of the canvas. -/
def origin : Position := ⟨0, 0⟩

instance : Inhabited Position := ⟨origin⟩

/-- The place at the given distances. Function `Position.offset`. -/
def shift (p : Position) (dx dy : Float) : Position := ⟨p.x + dx, p.y + dy⟩

/-- Whether two places have equal coordinates; the two zeros are equal. -/
def sameAs (p q : Position) : Bool := p.x == q.x && p.y == q.y

/-- Reads a place. -/
def ofJson? : Json → Option Position := Json.record? do
  let x ← .required "x" Json.real?
  let y ← .required "y" Json.real?
  return ⟨x, y⟩

/-- The written form of a place. -/
def toJson (p : Position) : Json := .obj [("x", .ofFloat p.x), ("y", .ofFloat p.y)]

end Position

/-- The settings of a block by the keys of their fields. -/
abbrev Settings : Type := Dict Json

/-- A block of a workflow. Record `BlockInstance`. -/
structure Block where
  /-- What connections call it. -/
  id : String
  /-- The tag of its kind, as it was stored. -/
  tag : String
  /-- Its place on the canvas. -/
  position : Position
  /-- Its settings. -/
  config : Settings
  /-- A name that someone gave it. -/
  label : Option String
deriving DecidableEq, Inhabited

namespace Block

/-- A setting that is a text. Function `config_str`. -/
def text? (b : Block) (key : String) : Option String := (b.config.get? key).bind Json.text?

/-- A setting that is a truth value. Function `config_bool`. -/
def flag? (b : Block) (key : String) : Option Bool := (b.config.get? key).bind Json.bool?

/-- Reads a block. -/
def ofJson? : Json → Option Block := Json.record? do
  let id ← .required "id" Json.text?
  let tag ← .required "type" Json.text?
  let position ← .defaulted "position" Position.ofJson? .origin
  let config ← .defaulted "config" Json.dict? .empty
  let label ← .optional "label" Json.text?
  return { id, tag, position, config, label }

/-- The written form of a block. -/
def toJson (b : Block) : Json :=
  .obj <| [("id", .str b.id), ("type", .str b.tag), ("position", b.position.toJson),
    ("config", .obj b.config.entries)] ++ Json.optional "label" .str b.label

end Block

/-- A connection from an output port of a block to an input port of a block. Record `Connection`. -/
structure Connection where
  /-- What events call it. -/
  id : String
  /-- The block it comes from. -/
  source : String
  /-- The output port it comes from. -/
  sourcePort : String
  /-- The block it goes to. -/
  target : String
  /-- The input port it goes to. -/
  targetPort : String
deriving DecidableEq, Inhabited

namespace Connection

/-- Whether a connection has the given block at one of its ends. Function `Connection.touches`. -/
def touches (c : Connection) (block : String) : Bool := c.source == block || c.target == block

/-- Whether two connections join the same ports. -/
def sameEnds (c d : Connection) : Bool :=
  c.source == d.source && c.sourcePort == d.sourcePort && c.target == d.target &&
    c.targetPort == d.targetPort

/-- Reads a connection. -/
def ofJson? : Json → Option Connection := Json.record? do
  let id ← .required "id" Json.text?
  let source ← .required "sourceBlockId" Json.text?
  let sourcePort ← .required "sourcePortId" Json.text?
  let target ← .required "targetBlockId" Json.text?
  let targetPort ← .required "targetPortId" Json.text?
  return { id, source, sourcePort, target, targetPort }

/-- The written form of a connection. -/
def toJson (c : Connection) : Json :=
  .obj [("id", .str c.id), ("sourceBlockId", .str c.source), ("sourcePortId", .str c.sourcePort),
    ("targetBlockId", .str c.target), ("targetPortId", .str c.targetPort)]

end Connection

/-- A graph of blocks. Record `Workflow`. -/
structure Workflow where
  /-- What deployments call it. -/
  id : String
  /-- What readers call it. -/
  name : String
  /-- What it is for. -/
  description : String
  /-- The blocks, in the order they were added. -/
  blocks : List Block
  /-- The connections, in the order they were added. -/
  connections : List Connection
deriving DecidableEq, Inhabited

namespace Workflow

/-- A workflow without blocks. -/
def blank (id name : String) : Workflow :=
  { id, name, description := "", blocks := [], connections := [] }

/-- The first block with the given id. Function `find_block`. -/
def block? (w : Workflow) (id : String) : Option Block := w.blocks.find? fun b ↦ b.id == id

/-- The first connection with the given id. Function `find_connection`. -/
def connection? (w : Workflow) (id : String) : Option Connection :=
  w.connections.find? fun c ↦ c.id == id

/-- The connections that go to a block. Function `incoming`. -/
def incoming (w : Workflow) (block : String) : List Connection :=
  w.connections.filter fun c ↦ c.target == block

/-- The connections that come from a block. Function `outgoing`. -/
def outgoing (w : Workflow) (block : String) : List Connection :=
  w.connections.filter fun c ↦ c.source == block

/-- The connections that have a block at one of their ends. -/
def touching (w : Workflow) (block : String) : List Connection :=
  w.connections.filter fun c ↦ c.touches block

/-- The blocks that come before a block, one per connection. Function `get_dependencies`. -/
def dependencies (w : Workflow) (block : String) : List String :=
  (w.incoming block).map (·.source)

/-- The blocks that come after a block, one per connection. Function `get_dependents`. -/
def dependents (w : Workflow) (block : String) : List String :=
  (w.outgoing block).map (·.target)

/-- Changes the first element that satisfies a condition. -/
def changeFirst {α : Type} (p : α → Bool) (f : α → α) : List α → List α
  | [] => []
  | a :: as => if p a then f a :: as else a :: changeFirst p f as

/-- The workflow with its first block of the given id changed. -/
def changeBlock (w : Workflow) (id : String) (f : Block → Block) : Workflow :=
  { w with blocks := changeFirst (fun b ↦ b.id == id) f w.blocks }

/-- Reads a workflow. -/
def ofJson? : Json → Option Workflow := Json.record? do
  let id ← .required "id" Json.text?
  let name ← .required "name" Json.text?
  let description ← .defaulted "description" Json.text? ""
  let blocks ← .defaulted "blocks" (Json.list? Block.ofJson?) []
  let connections ← .defaulted "connections" (Json.list? Connection.ofJson?) []
  return { id, name, description, blocks, connections }

/-- The written form of a workflow. -/
def toJson (w : Workflow) : Json :=
  .obj [("id", .str w.id), ("name", .str w.name), ("description", .str w.description),
    ("blocks", .ofList Block.toJson w.blocks),
    ("connections", .ofList Connection.toJson w.connections)]

end Workflow

end Blockflow
