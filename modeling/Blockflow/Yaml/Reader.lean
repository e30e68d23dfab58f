import Blockflow.Yaml.Node
import Blockflow.Yaml.Scalar

/-!
# Reading YAML

The value that a YAML text stands for. A text has one document; collections nest at most 128 deep,
references included; no mapping has a key twice; and references may not make a document more than
a hundred times its size.
-/

namespace Blockflow.Yaml

/-- How deep collections nest at most. -/
def maxDepth : Nat := 128

/-- How often the size of a document may go into references. -/
def maxGrowth : Nat := 100

/-- The name of a local tag, without its exclamation mark; other tags have none. -/
def localTag? (tag : Option String) : Option String :=
  let unmarked : List Char → List Char
    | '!' :: c :: cs => c :: cs
    | cs => cs
  tag.bind fun t ↦
    match t.toList with
    | '!' :: cs => some (String.ofList (unmarked (unmarked ('!' :: cs))))
    | _ => none

/-- What a scalar stands for. -/
def ofScalar? (text : String) (plain : Bool) (tag : Option String) : Option Yaml :=
  match localTag? tag with
  | some name =>
    (if plain then ofPlain? text else some (.str text)).map fun v ↦ .tagged name v
  | none =>
    match tag with
    | some tag => (ofCoreTag? tag text).getD (some (.str text))
    | none => if plain then ofPlain? text else some (.str text)

/-- A value under a local tag, if there is one. -/
def withTag (tag : Option String) (v : Yaml) : Yaml :=
  match localTag? tag with
  | some name => .tagged name v
  | none => v

/-- The entries of a mapping, unless a key stands twice. -/
def distinct? (entries : List (Yaml × Yaml)) : Option (List (Yaml × Yaml)) :=
  let rec go (seen : List Yaml) : List (Yaml × Yaml) → Bool
    | [] => true
    | (k, _) :: rest => !(seen.any (sameKey k)) && go (k :: seen) rest
  if go [] entries then some entries else none

/-- A reader of values, which counts the references that it has followed. -/
abbrev Resolver (α : Type) : Type := StateT Nat Option α

/-- The node that is meant: the node itself, or the one that it refers to. -/
def meant (table : List (Nat × Node)) (limit : Nat) : Node → Resolver Node
  | .alias number => fun followed ↦
    if followed + 1 > limit then none
    else (table.lookup number).map (·, followed + 1)
  | node => pure node

/-- The value of a node that refers to no other one. The function gives the values of the nodes in a
collection; without it there may be no collection. -/
def ofMeant? (inner? : Option (Node → Resolver Yaml)) : Node → Resolver Yaml
  | .scalar text plain tag _ => StateT.lift (ofScalar? text plain tag)
  | .seq items tag _ => do
    let inner ← StateT.lift inner?
    return withTag tag (.seq (← items.mapM inner))
  | .map entries tag _ => do
    let inner ← StateT.lift inner?
    let entries ← entries.mapM fun e ↦ do return (← inner e.1, ← inner e.2)
    let entries ← StateT.lift (distinct? entries)
    return withTag tag (.map entries)
  | .alias _ => StateT.lift none

/-- The value of a node that is at most so many collections deep. -/
def ofNode? (table : List (Nat × Node)) (limit : Nat) : Nat → Node → Resolver Yaml
  | 0, node => do ofMeant? none (← meant table limit node)
  | depth + 1, node => do ofMeant? (some (ofNode? table limit depth)) (← meant table limit node)

/-- The value that a text stands for. -/
def read? (text : String) : Option Yaml := do
  let tokens ← Token.ofText? text
  let root ← Node.ofTokens? tokens
  (ofNode? (root.anchored []) (maxGrowth * root.steps) maxDepth root).run' 0

end Blockflow.Yaml
