import Blockflow.Block.Catalog

/-!
# Drafts

Workflows put together without any checks: blocks with the defaults of the catalog, and connections
with counted ids. Settings and labels go to the block that was added last.

Component `builder` of `workflow-engine`; specification C.2.
-/

namespace Blockflow.Workflow

/-- With a description. Function `description`. -/
def describe (w : Workflow) (description : String) : Workflow := { w with description }

/-- With a block; blocks of unknown types have no settings. Function `add_block`. -/
def draftBlock (w : Workflow) (id tag : String) (position : Position) : Workflow :=
  let config := ((Registry.builtin.get? tag).map (·.defaultConfig)).getD .empty
  { w with blocks := w.blocks ++ [{ id, tag, position, config, label := none }] }

/-- Changes the last element of a list. -/
def changeLast {α : Type} (f : α → α) : List α → List α
  | [] => []
  | [a] => [f a]
  | a :: as => a :: changeLast f as

/-- With the last block changed. -/
def changeLastBlock (w : Workflow) (f : Block → Block) : Workflow :=
  { w with blocks := changeLast f w.blocks }

/-- Settings with one of them changed; `null` takes it away. -/
def overrideSetting (config : Settings) (key : String) (value : Json) : Settings :=
  if value.isNull then config.erase key else config.insert key value

/-- With some settings of the last block changed. Function `with_config`. -/
def draftConfig (w : Workflow) (config : Settings) : Workflow :=
  w.changeLastBlock fun b ↦
    { b with
      config := config.entries.foldl (fun d e ↦ overrideSetting d e.1 e.2) b.config }

/-- With all settings of the last block replaced. Function `with_raw_config`. -/
def replaceConfig (w : Workflow) (config : Settings) : Workflow :=
  w.changeLastBlock fun b ↦ { b with config }

/-- With a label for the last block. Function `with_label`. -/
def draftLabel (w : Workflow) (label : String) : Workflow :=
  w.changeLastBlock fun b ↦ { b with label := some label }

/-- With a connection, whose id counts the connections. Functions `connect` and `connect_ports`. -/
def draftConnection (w : Workflow) (source sourcePort target targetPort : String) : Workflow :=
  let id := "conn-" ++ toString (w.connections.length + 1)
  { w with connections := w.connections ++ [{ id, source, sourcePort, target, targetPort }] }

end Blockflow.Workflow
