import Blockflow.Block.Catalog
import Blockflow.Command.Arguments
import Blockflow.Command.Terminal
import Blockflow.Remote.Tracker

/-!
# Commands

What each command does. All of them read the workflow first. Those that work with the remote side
then read the options; a workflow that is to be deployed or followed must have no problems.

Component `main` of `workflow-cli`; specification C.8.
-/

namespace Blockflow.Command

/-- A text with blanks at its end up to the given width. -/
def padded (width : Nat) (s : String) : String :=
  String.ofList (s.toList ++ List.replicate (width - s.toList.length) ' ')

/-- A type of blocks on one line. -/
def definitionLine (d : Definition) : String :=
  padded 28 d.tag ++ " " ++ padded 12 d.category.tag ++ " " ++ d.description

/-- The workflow in a file. Function `load_workflow`. -/
def loadWorkflow (path : String) : Doing Workflow := do
  match ← Doing.ask (.read path) with
  | .error why => throw (.read path why)
  | .ok text =>
    match Json.read? text with
    | none => throw (.load path .unreadable)
    | some j => Doing.ofExcept ((Workflow.load .builtin j).mapError (.load path))

/-- The pipeline of a workflow; the problems are reported one by one if there are any. Function
`checked_compile`. -/
def pipelineOf (w : Workflow) : Except Failure Pipeline :=
  match w.problems .builtin with
  | [] => (w.compile .builtin).mapError .compile
  | problems => .error (.invalid problems)

/-- The options, and a client for the repository in them. Function `connect`. -/
def connect (config : String) : Doing (GitHub.Client × Options) := do
  match Options.load (← Doing.ask (.find config)) with
  | .error e => throw (.sync (.options e))
  | .ok options =>
    match GitHub.Client.new options.target (← Doing.ask .token) with
    | .error e => throw (.sync (.remote e))
    | .ok g => return (g, options)

/-- Prints events, each on a line. Function `print_event`. -/
def printEvents : List Event → Talk Unit
  | [] => .done ()
  | e :: rest => do
    let () ← ask (.print (.line e.toJson.compact))
    printEvents rest

/-- Keeps asking about a run, and prints every event, until there is nothing more to ask. It asks
at most so many times; the tracker is given back with whether that was enough. -/
def follow (g : GitHub.Client) : Nat → Tracker → Talk (Bool × Tracker)
  | 0, t => .done (false, t)
  | polls + 1, t => do
    let reply ← g.answer (fun r ↦ ask (.send r)) (.runDetail t.execution.run)
    let (t, events) := t.receive reply
    let () ← printEvents events
    match t.nextWait? reply with
    | none => .done (true, t)
    | some ms =>
      let () ← ask (.wait ms)
      follow g polls t

/-- Follows a run of a workflow, and prints its execution in the end. Function `follow`. -/
def followRun (polls : Nat) (w : Workflow) (g : GitHub.Client) (options : Options) (run : Nat) :
    Doing Bool := do
  let pipeline ← Doing.ofExcept (pipelineOf w)
  let id ← Doing.ask .freshId
  let now ← Doing.ask .now
  let e := Execution.start id w .builtin run now
  let (finished, t) ← ExceptT.lift (follow g polls (.start e pipeline.names options.pace))
  if finished then Doing.print (.document t.execution.toJson)
  return finished

/-- Does what was ordered, and tells whether it is finished. Only a command that follows a run may
not be finished, when it has asked as often as it may. Function `run`. -/
def Order.perform (polls : Nat) (o : Order) : Doing Bool :=
  match o.action with
  | .blocks category => do
    let definitions := match category with
      | some c => Registry.builtin.ofCategory c
      | none => Registry.builtin.definitions
    definitions.forM fun d ↦ Doing.print (.line (definitionLine d))
    return true
  | .validate file json => do
    let w ← loadWorkflow file
    let problems := w.problems .builtin
    if json then Doing.print (.document (.obj [("errors", .ofList Problem.toJson problems)]))
    if !problems.isEmpty then throw (.invalid problems)
    if !json then Doing.print (.line (file ++ ": ok"))
    return true
  | .compile file output => do
    let w ← loadWorkflow file
    let pipeline ← Doing.ofExcept (pipelineOf w)
    match output with
    | none => Doing.print (.text pipeline.text)
    | some path =>
      match ← Doing.ask (.write path pipeline.text) with
      | .error why => throw (.write path why)
      | .ok () => pure ()
    return true
  | .deploy file overwrite lastSeen => do
    let w ← loadWorkflow file
    let _ ← Doing.ofExcept (pipelineOf w)
    let (g, _) ← connect o.config
    let policy : ConflictPolicy := if overwrite then .overwrite else .fail
    let report ← Doing.perform g (w.deploy .builtin lastSeen policy)
    Doing.print (.line report.outcome.toJson.compact)
    return true
  | .undeploy file => do
    let w ← loadWorkflow file
    let (g, _) ← connect o.config
    let removed ← Doing.perform g w.undeploy
    Doing.print (.line (if removed then "removed" else "not deployed"))
    return true
  | .run file ref => do
    let w ← loadWorkflow file
    let (g, options) ← connect o.config
    let ref := ref.getD options.target.branch
    let run ← Doing.perform g (w.dispatch ref .empty .initial)
    Doing.print (.line (Json.obj [("runId", .ofNat run)]).compact)
    followRun polls w g options run
  | .watch file run => do
    let w ← loadWorkflow file
    let (g, options) ← connect o.config
    followRun polls w g options run

/-- How the program ends. -/
inductive Ending where
  /-- Everything is done. -/
  | done
  /-- It has failed. -/
  | failed (f : Failure)
  /-- It has asked as often as it may about a run that has not ended. -/
  | unfinished
  /-- There was nothing to be done. -/
  | stopped (s : Stop)
deriving DecidableEq

/-- The version of the program. -/
def versionLine : String := "flowctl 0.1.0"

/-- What the program does with its arguments. Function `main`. -/
def program (polls : Nat) (args : List String) : Talk Ending :=
  match Order.ofArguments args with
  | .error .version => do
    let () ← ask (.print (.line versionLine))
    .done (.stopped .version)
  | .error s => .done (.stopped s)
  | .ok order => do
    match ← (order.perform polls).run with
    | .ok true => .done .done
    | .ok false => .done .unfinished
    | .error f => .done (.failed f)

/-- The number that the program ends with. -/
def Ending.exitCode : Ending → Nat
  | .done | .unfinished => 0
  | .failed f => f.exitCode
  | .stopped .misuse => 2
  | .stopped _ => 0

end Blockflow.Command
