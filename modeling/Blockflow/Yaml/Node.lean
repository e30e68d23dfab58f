import Blockflow.Yaml.Token

/-!
# YAML nodes

The tree that a list of tokens stands for: scalars, lists, mappings, and references to nodes that
carry a name. A name stands for the number of different names before it, and a name that is given
again stands for a new number; a reference means the last node with its number.
-/

namespace Blockflow.Yaml

/-- A node of a document. -/
inductive Node where
  /-- A scalar, and whether it is neither quoted nor a block. -/
  | scalar (text : String) (plain : Bool) (tag : Option String) (anchor : Option Nat)
  /-- A list. -/
  | seq (items : List Node) (tag : Option String) (anchor : Option Nat)
  /-- A mapping. -/
  | map (entries : List (Node × Node)) (tag : Option String) (anchor : Option Nat)
  /-- A reference to the node with a number. -/
  | alias (number : Nat)
deriving Inhabited

namespace Node

/-- The node that stands where nothing is written. -/
def blank : Node := .scalar "" true none none

mutual

/-- How many steps it takes to walk through a node: one for a scalar or a reference, two more
than the contents for a collection. -/
def steps : Node → Nat
  | .scalar _ _ _ _ => 1
  | .alias _ => 1
  | .seq items _ _ => 2 + stepsOfItems items
  | .map entries _ _ => 2 + stepsOfEntries entries

/-- How many steps it takes to walk through a list of nodes. -/
def stepsOfItems : List Node → Nat
  | [] => 0
  | item :: rest => steps item + stepsOfItems rest

/-- How many steps it takes to walk through a list of entries. -/
def stepsOfEntries : List (Node × Node) → Nat
  | [] => 0
  | (k, v) :: rest => steps k + steps v + stepsOfEntries rest

end

mutual

/-- The nodes with a number, put before a list of such nodes, the last of the text first. -/
def anchored : Node → List (Nat × Node) → List (Nat × Node)
  | .scalar s p t (some n), found => (n, .scalar s p t (some n)) :: found
  | .scalar _ _ _ none, found => found
  | .alias _, found => found
  | .seq items t (some n), found => anchoredItems items ((n, .seq items t (some n)) :: found)
  | .seq items _ none, found => anchoredItems items found
  | .map entries t (some n), found =>
    anchoredEntries entries ((n, .map entries t (some n)) :: found)
  | .map entries _ none, found => anchoredEntries entries found

/-- The nodes with a number in a list of nodes. -/
def anchoredItems : List Node → List (Nat × Node) → List (Nat × Node)
  | [], found => found
  | item :: rest, found => anchoredItems rest (anchored item found)

/-- The nodes with a number in a list of entries. -/
def anchoredEntries : List (Node × Node) → List (Nat × Node) → List (Nat × Node)
  | [], found => found
  | (k, v) :: rest, found => anchoredEntries rest (anchored v (anchored k found))

end

/-! ### From tokens to nodes -/

/-- What is still to be read, and what is known from before. -/
structure Reading where
  /-- The tokens that follow. -/
  tokens : List Token
  /-- The names of nodes with their numbers, each name once. -/
  names : List (String × Nat)
  /-- The handles of tags and what they stand for. -/
  handles : List (String × String)

/-- A reader of a part of a document. -/
abbrev Reader (α : Type) : Type := StateT Reading Option α

/-- The next token. -/
def peek : Reader Token := fun r ↦
  match r.tokens with
  | t :: _ => some (t, r)
  | [] => none

/-- Goes past the next token. -/
def pop : Reader Unit := fun r ↦ some ((), { r with tokens := r.tokens.drop 1 })

/-- Reads nothing. -/
def refuse {α : Type} : Reader α := fun _ ↦ none

/-- The number for a name that is given now. -/
def nameNode (name : String) : Reader Nat := fun r ↦
  let number := r.names.length
  some (number, { r with names := (name, number) :: r.names.filter fun e ↦ e.1 ≠ name })

/-- The number that a name stands for. -/
def numberOf (name : String) : Reader Nat := fun r ↦ (r.names.lookup name).map (·, r)

/-- A text up to its first null character. -/
def beforeNull (s : String) : String := String.ofList (s.toList.takeWhile (· ≠ '\x00'))

/-- A tag in full; each of its two parts ends at a null character. -/
def fullTag (handle suffix : String) : Reader String := fun r ↦
  if handle.isEmpty then some (beforeNull suffix, r)
  else (r.handles.lookup handle).map fun start ↦ (beforeNull start ++ beforeNull suffix, r)

/-- What stands before a node: a name and a tag, in either order. -/
def properties : Reader (Option String × Option String) := do
  match ← peek with
  | .anchor name =>
    pop
    match ← peek with
    | .tag handle suffix =>
      pop
      return (some name, some (← fullTag handle suffix))
    | _ => return (some name, none)
  | .tag handle suffix =>
    pop
    match ← peek with
    | .anchor name =>
      pop
      return (some name, some (← fullTag handle suffix))
    | _ => return (none, some (← fullTag handle suffix))
  | _ => return (none, none)

mutual

/-- A node. A list whose items are not indented further than the mapping around it may come as
the value of that mapping. -/
def node? : Nat → (block indentless : Bool) → Reader Node
  | 0, _, _ => refuse
  | fuel + 1, block, indentless => do
    match ← peek with
    | .alias name =>
      pop
      return .alias (← numberOf name)
    | _ =>
      let (name, tag) ← properties
      let named : Reader (Option Nat) :=
        match name with
        | some name => some <$> nameNode name
        | none => pure none
      match ← peek with
      | .scalar text plain =>
        pop
        return .scalar text plain tag (← named)
      | .flowSequenceStart =>
        pop
        let number ← named
        return .seq (← flowItems? fuel true) tag number
      | .flowMappingStart =>
        pop
        let number ← named
        return .map (← flowEntries? fuel true) tag number
      | .blockEntry =>
        if indentless then
          let number ← named
          return .seq (← indentlessItems? fuel) tag number
        else if name.isSome || tag.isSome then return .scalar "" true tag (← named)
        else refuse
      | .blockSequenceStart =>
        if block then
          pop
          let number ← named
          return .seq (← blockItems? fuel) tag number
        else if name.isSome || tag.isSome then return .scalar "" true tag (← named)
        else refuse
      | .blockMappingStart =>
        if block then
          pop
          let number ← named
          return .map (← blockEntries? fuel) tag number
        else if name.isSome || tag.isSome then return .scalar "" true tag (← named)
        else refuse
      | _ =>
        if name.isSome || tag.isSome then return .scalar "" true tag (← named) else refuse

/-- The items of a list by indentation, up to its end. -/
def blockItems? : Nat → Reader (List Node)
  | 0 => refuse
  | fuel + 1 => do
    match ← peek with
    | .blockEntry =>
      pop
      let item ←
        match ← peek with
        | .blockEntry | .blockEnd => pure blank
        | _ => node? fuel true false
      return item :: (← blockItems? fuel)
    | .blockEnd =>
      pop
      return []
    | _ => refuse

/-- The items of a list that is not indented further, up to the first token that is no item. -/
def indentlessItems? : Nat → Reader (List Node)
  | 0 => refuse
  | fuel + 1 => do
    match ← peek with
    | .blockEntry =>
      pop
      let item ←
        match ← peek with
        | .blockEntry | .key | .value | .blockEnd => pure blank
        | _ => node? fuel true false
      return item :: (← indentlessItems? fuel)
    | _ => return []

/-- The value of an entry of a mapping by indentation. -/
def blockValue? : Nat → Reader Node
  | 0 => refuse
  | fuel + 1 => do
    match ← peek with
    | .value =>
      pop
      match ← peek with
      | .key | .value | .blockEnd => return blank
      | _ => node? fuel true true
    | _ => return blank

/-- The entries of a mapping by indentation, up to its end. -/
def blockEntries? : Nat → Reader (List (Node × Node))
  | 0 => refuse
  | fuel + 1 => do
    match ← peek with
    | .key =>
      pop
      let key ←
        match ← peek with
        | .key | .value | .blockEnd => pure blank
        | _ => node? fuel true true
      let value ← blockValue? fuel
      return (key, value) :: (← blockEntries? fuel)
    | .blockEnd =>
      pop
      return []
    | _ => refuse

/-- The value of an entry in brackets or braces; the given tokens end it where nothing is
written. -/
def flowValue? : Nat → (closing : Token) → Reader Node
  | 0, _ => refuse
  | fuel + 1, closing => do
    match ← peek with
    | .value =>
      pop
      let t ← peek
      if t = .flowEntry || t = closing then return blank else node? fuel false false
    | _ => return blank

/-- The items in brackets, up to the closing one. An item after a question mark or before a colon
is a mapping with one entry; where the question mark has no key after it, the token that shows
this is lost. -/
def flowItems? : Nat → (first : Bool) → Reader (List Node)
  | 0, _ => refuse
  | fuel + 1, first => do
    let t ← peek
    if t = .flowSequenceEnd then
      pop
      return []
    else
      if !first then
        if t = .flowEntry then pop else refuse
      match ← peek with
      | .key =>
        pop
        let key ←
          match ← peek with
          | .value | .flowEntry | .flowSequenceEnd => do
            pop
            pure blank
          | _ => node? fuel false false
        let value ← flowValue? fuel .flowSequenceEnd
        return .map [(key, value)] none none :: (← flowItems? fuel false)
      | .flowSequenceEnd =>
        pop
        return []
      | _ =>
        let item ← node? fuel false false
        return item :: (← flowItems? fuel false)

/-- The entries in braces, up to the closing one. -/
def flowEntries? : Nat → (first : Bool) → Reader (List (Node × Node))
  | 0, _ => refuse
  | fuel + 1, first => do
    let t ← peek
    if t = .flowMappingEnd then
      pop
      return []
    else
      if !first then
        if t = .flowEntry then pop else refuse
      match ← peek with
      | .key =>
        pop
        let key ←
          match ← peek with
          | .value | .flowEntry | .flowMappingEnd => pure blank
          | _ => node? fuel false false
        let value ← flowValue? fuel .flowMappingEnd
        return (key, value) :: (← flowEntries? fuel false)
      | .flowMappingEnd =>
        pop
        return []
      | _ =>
        let key ← node? fuel false false
        return (key, blank) :: (← flowEntries? fuel false)

end

/-- The directives before a document: at most one version of YAML, which has to be 1.1 or 1.2,
and one meaning for each handle. -/
def directives? : Nat → (version : Bool) → (handles : List (String × String)) → List Token →
    Option (Bool × List (String × String) × List Token)
  | 0, _, _, _ => none
  | fuel + 1, version, handles, tokens =>
    match tokens with
    | .version major minor :: rest =>
      if version || major ≠ 1 || (minor ≠ 1 && minor ≠ 2) then none
      else directives? fuel true handles rest
    | .tagDirective handle start :: rest =>
      if (handles.lookup handle).isSome then none
      else directives? fuel version ((handle, start) :: handles) rest
    | tokens => some (version || !handles.isEmpty, handles, tokens)

/-- The handles of tags that always have a meaning. -/
def standardHandles : List (String × String) := [("!", "!"), ("!!", "tag:yaml.org,2002:")]

/-- The only document of a list of tokens. -/
def ofTokens? (tokens : List Token) : Option Node := do
  let fuel := 2 * tokens.length + 2
  let (directed, handles, rest) ← directives? fuel false [] tokens
  let read (explicit : Bool) (rest : List Token) : Option Node := do
    let empty :=
      match rest with
      | .version _ _ :: _ | .tagDirective _ _ :: _ | .documentStart :: _ | .documentEnd :: _
      | .streamEnd :: _ => true
      | _ => false
    let start : Reading := ⟨rest, [], handles ++ standardHandles⟩
    let (node, after) ←
      if explicit && empty then some (blank, start) else (node? fuel true false).run start
    match after.tokens.dropWhile (· = .documentEnd) with
    | [.streamEnd] => return node
    | _ => none
  match rest with
  | .documentStart :: rest => read true rest
  | [.streamEnd] => if directed then none else some blank
  | rest => if directed then none else read false rest

end Node

end Blockflow.Yaml
