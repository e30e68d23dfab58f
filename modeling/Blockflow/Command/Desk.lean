import Blockflow.Command.Terminal
import Blockflow.Ids

/-!
# Commands in rehearsal

A terminal that lives in memory: files with their texts, an environment and a clock, but no
network. Everything that is printed is kept.

Specification B.4 and C.8.
-/

namespace Blockflow.Command

/-- A terminal in memory. -/
structure Desk where
  /-- The texts of the files by their paths. -/
  files : Dict String
  /-- The token of the environment. -/
  token : Option String
  /-- What time it is. -/
  now : Timestamp
  /-- The number for the next id. -/
  nextId : Nat
  /-- What has been printed, the latest first. -/
  printed : List Output

namespace Desk

/-- The names in a path, without those that lead nowhere. -/
def names (path : String) : List String :=
  (Text.pieces '/' path).filter fun s ↦ s ≠ "" && s ≠ "."

/-- What stands at a place. -/
inductive Place where
  /-- A file. -/
  | file (text : String)
  /-- A directory. -/
  | directory
  /-- Nothing. -/
  | nothing
deriving DecidableEq

/-- What stands at the place with the given names; there is a directory where files have further
names. -/
def place (d : Desk) (at_ : List String) : Place :=
  match d.files.get? ("/".intercalate at_) with
  | some text => .file text
  | none =>
    if at_.isEmpty || d.files.keys.any fun k ↦ at_.isPrefixOf (names k) then .directory
    else .nothing

/-- Follows names from a directory to the place that they lead to; on the way there may be nothing
but directories. -/
def walk (d : Desk) : (here : List String) → List String → Except FileError (List String)
  | here, [] => .ok here
  | here, name :: rest =>
    match d.place here with
    | .directory =>
      if name = ".." then walk d here.dropLast rest else walk d (here ++ [name]) rest
    | .file _ => .error .notDirectory
    | .nothing => .error .missing

/-- The place that a path leads to. Only paths below the working directory lead anywhere, and a
slash at the end asks for a directory. -/
def resolve (d : Desk) (path : String) : Except FileError (List String × Place) := do
  if path.startsWith "/" then throw .missing
  let there ← d.walk [] (names path)
  match d.place there with
  | .file text => if path.endsWith "/" then throw .notDirectory else return (there, .file text)
  | place => return (there, place)

/-- What stands at a path, as a text. -/
def read (d : Desk) (path : String) : Except FileError String := do
  match (← d.resolve path).2 with
  | .file text => return text
  | .directory => throw .isDirectory
  | .nothing => throw .missing

/-- What stands at a path, if anything does. -/
def find (d : Desk) (path : String) : Option (Except FileError String) :=
  match d.resolve path with
  | .ok (_, .nothing) | .error _ => none
  | .ok _ => some (d.read path)

/-- Writes a file. -/
def write (d : Desk) (path text : String) : Except FileError Desk := do
  match ← d.resolve path with
  | (_, .directory) => throw .isDirectory
  | (there, _) =>
    if path.endsWith "/" then throw .isDirectory
    return { d with files := d.files.insert ("/".intercalate there) text }

/-- Answers a question. -/
def answer : (q : Question) → StateM Desk (Answer q)
  | .find path => return (← get).find path
  | .read path => return (← get).read path
  | .write path text => do
    match (← get).write path text with
    | .ok d => set d; return .ok ()
    | .error e => return .error e
  | .token => return (← get).token
  | .send _ => return .broken
  | .wait _ => return ()
  | .now => return (← get).now
  | .freshId => modifyGet fun d ↦ (Ids.execution d.nextId, { d with nextId := d.nextId + 1 })
  | .print o => modify fun d ↦ { d with printed := o :: d.printed }

/-- What has been printed, the earliest first. -/
def outputs (d : Desk) : List Output := d.printed.reverse

end Desk

end Blockflow.Command
