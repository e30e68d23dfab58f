import Blockflow.File
import Blockflow.GitHub.Client
import Blockflow.Json.Writer
import Blockflow.Remote.Deploy
import Blockflow.Workflow.Editor

/-!
# The terminal

What a command asks of the world around it: files, the environment, the network, time, and to print
something. A command is a dialogue of such questions, which may fail.

Component `error` of `workflow-cli`; specification C.8.
-/

namespace Blockflow.Command

/-- Something to print. -/
inductive Output where
  /-- A text as it is. -/
  | text (s : String)
  /-- A text on a line of its own. -/
  | line (s : String)
  /-- An indented JSON value on lines of its own. -/
  | document (j : Json)
deriving DecidableEq

/-- What is printed. -/
def Output.render : Output → String
  | .text s => s
  | .line s => s ++ "\n"
  | .document j => j.indented ++ "\n"

/-- What a command asks for. -/
inductive Question where
  /-- What stands at a path, if anything does. -/
  | find (path : String)
  /-- The text of a file. -/
  | read (path : String)
  /-- To write a file. -/
  | write (path text : String)
  /-- The token of the environment. -/
  | token
  /-- To send a request. -/
  | send (r : Http.Request)
  /-- To let some time pass, in milliseconds. -/
  | wait (ms : Nat)
  /-- What time it is. -/
  | now
  /-- An id for an execution. -/
  | freshId
  /-- To print something. -/
  | print (o : Output)

/-- The answers to a question. -/
abbrev Answer : Question → Type
  | .find _ => Option (Except FileError String)
  | .read _ => Except FileError String
  | .write .. => Except FileError Unit
  | .token => Option String
  | .send _ => Http.Exchange
  | .wait _ => Unit
  | .now => Timestamp
  | .freshId => String
  | .print _ => Unit

/-- A dialogue with the world around a command. -/
abbrev Talk (α : Type) : Type := Dialogue Question Answer α

/-- Asks one question. -/
def ask (q : Question) : Talk (Answer q) := .question q

/-- Why a command fails. Enumeration `CliError`. -/
inductive Failure where
  /-- A file cannot be read. -/
  | read (path : String) (why : FileError)
  /-- A file cannot be written. -/
  | write (path : String) (why : FileError)
  /-- The text of a file is no workflow. -/
  | load (path : String) (why : EditError)
  /-- The workflow has problems. -/
  | invalid (problems : List Problem)
  /-- The workflow cannot be compiled. -/
  | compile (why : CompileError)
  /-- The remote side could not be reached, or something went wrong there. -/
  | sync (why : SyncError)
deriving DecidableEq

namespace Failure

/-- The failure in words. -/
def message : Failure → String
  | .read path why => "Failed to read " ++ path ++ ": " ++ why.message
  | .write path why => "Failed to write " ++ path ++ ": " ++ why.message
  | .load path why => path ++ " is not a workflow: " ++ why.message
  | .invalid problems =>
    "Workflow has " ++ toString problems.length ++ " validation error(s)"
  | .compile why => why.message
  | .sync why => why.message

/-- The lines that tell about the failure: each problem on its own, anything else in words. -/
def lines : Failure → List String
  | .invalid problems => problems.map fun p ↦ "error: " ++ p.text
  | f => [f.message]

/-- The number that tells the kind of failure: a workflow that is no good, a conflict, or anything
else. Function `CliError.exit_code`. -/
def exitCode : Failure → Nat
  | .invalid _ | .load .. | .compile _ => 1
  | .sync (.remote (.conflict ..)) => 2
  | _ => 3

end Failure

/-- A dialogue with the world that may fail. -/
abbrev Doing (α : Type) : Type := ExceptT Failure Talk α

namespace Doing

variable {α : Type}

/-- Asks one question. -/
def ask (q : Question) : Doing (Answer q) := ExceptT.lift (Command.ask q)

/-- Prints something. -/
def print (o : Output) : Doing Unit := ask (.print o)

/-- Goes on with a value, or fails. -/
def ofExcept (x : Except Failure α) : Doing α := ExceptT.mk (.done x)

/-- Answers the questions of a procedure with requests of a client. -/
def remoteAnswer (g : GitHub.Client) : (q : Remote.Question) → Talk (Remote.Answer q)
  | .call c => g.answer (fun r ↦ Command.ask (.send r)) c
  | .wait ms => Command.ask (.wait ms)

/-- Leads a procedure with requests of a client. -/
def perform (g : GitHub.Client) (p : Procedure α) : Doing α :=
  ExceptT.mk ((p.run.lead (remoteAnswer g)).bind fun x ↦ .done (x.mapError .sync))

end Doing

end Blockflow.Command
