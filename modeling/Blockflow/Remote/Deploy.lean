import Blockflow.Remote.Call
import Blockflow.Pipeline.Compile

/-!
# Deploying workflows

A workflow is deployed by writing its pipeline to a file of the repository. A file that is not the
one seen last is a conflict, unless it shall be overwritten; a file that already holds the pipeline
is left alone. A run is started by name only, so its number is found by comparing the lists of runs
before and after.

Component `deploy` of `workflow-sync`; specification §7 and C.6.
-/

namespace Blockflow

/-- What to do about a file that is not the one seen last. Enumeration `ConflictPolicy`. -/
inductive ConflictPolicy where
  /-- Leave it alone. -/
  | fail
  /-- Overwrite it. -/
  | overwrite
deriving DecidableEq, Inhabited

namespace ConflictPolicy

/-- The policy with the given name. -/
def ofTag? : String → Option ConflictPolicy
  | "fail" => some .fail
  | "overwrite" => some .overwrite
  | _ => none

/-- Reads a policy. -/
def ofJson? : Json → Option ConflictPolicy := Json.choice? ofTag?

/-- The written form of a policy. -/
def toJson : ConflictPolicy → Json
  | .fail => .str "fail"
  | .overwrite => .str "overwrite"

end ConflictPolicy

/-- What a deployment has done, with the version of the file after it. Enumeration `DeployOutcome`.
-/
inductive DeployOutcome where
  /-- There was no file before. -/
  | created (version : String)
  /-- The file was overwritten. -/
  | updated (version : String)
  /-- The file held the pipeline already. -/
  | unchanged (version : String)
deriving DecidableEq, Inhabited

namespace DeployOutcome

/-- The version of the file after the deployment. Function `DeployOutcome.sha`. -/
def version : DeployOutcome → String
  | .created v | .updated v | .unchanged v => v

/-- Reads an outcome. -/
def ofJson? : Json → Option DeployOutcome := Json.tagged? "outcome" fun
  | "created" => some (.created <$> .required "sha" Json.text?)
  | "updated" => some (.updated <$> .required "sha" Json.text?)
  | "unchanged" => some (.unchanged <$> .required "sha" Json.text?)
  | _ => none

/-- The written form of an outcome. -/
def toJson (o : DeployOutcome) : Json :=
  let tag := match o with
    | .created _ => "created"
    | .updated _ => "updated"
    | .unchanged _ => "unchanged"
  .obj [("outcome", .str tag), ("sha", .str o.version)]

end DeployOutcome

/-- What a deployment does about the file that it finds. Part of `deploy_workflow`. -/
inductive DeployDecision where
  /-- It is not the file seen last, so leave it alone. -/
  | refuse (version : String)
  /-- It holds the pipeline already. -/
  | keep (version : String)
  /-- Write the file, over this version if there is one. -/
  | write (replaced : Option String)
deriving DecidableEq

/-- What to do about the file that was found, with the version seen last. -/
def DeployDecision.about (text : String) (lastSeen : Option String) (policy : ConflictPolicy) :
    Option RemoteFile → DeployDecision
  | none => .write none
  | some f =>
    if lastSeen ≠ some f.version && policy = .fail then .refuse f.version
    else if f.content = text then .keep f.version
    else .write (some f.version)

/-- A deployment that has been made. Record `DeployReport`. -/
structure DeployReport where
  /-- Where the file is. -/
  path : String
  /-- What was done. -/
  outcome : DeployOutcome
  /-- What the file holds. -/
  pipeline : Pipeline
deriving DecidableEq, Inhabited

namespace Workflow

/-- Writes the pipeline of a workflow to its file. Function `deploy_workflow`. -/
def deploy (w : Workflow) (r : Registry) (lastSeen : Option String) (policy : ConflictPolicy) :
    Procedure DeployReport := do
  let pipeline ← Procedure.ofExcept ((w.compile r).mapError .compile)
  let found ← Procedure.call (.getFile w.path)
  match DeployDecision.about pipeline.text lastSeen policy found with
  | .refuse version => throw (.remote (.conflict w.path (some version)))
  | .keep version => return ⟨w.path, .unchanged version, pipeline⟩
  | .write replaced =>
    let write : FileWrite :=
      { path := w.path, content := pipeline.text, message := "Deploy workflow: " ++ w.name,
        version := replaced }
    let version ← Procedure.call (.putFile write)
    return ⟨w.path, if replaced.isSome then .updated version else .created version, pipeline⟩

/-- Deletes the file of a workflow, and tells whether there was one. Function `undeploy_workflow`.
-/
def undeploy (w : Workflow) : Procedure Bool := do
  match ← Procedure.call (.getFile w.path) with
  | none => return false
  | some f =>
    let () ← Procedure.call (.deleteFile w.path f.version ("Remove workflow: " ++ w.name))
    return true

end Workflow

/-- How to look for a run that was started. Record `DispatchOptions`. -/
structure LookUp where
  /-- How often to look; no look counts as one. -/
  attempts : Nat
  /-- The wait after each look, in milliseconds. -/
  delay : Nat
deriving DecidableEq

/-- The look-up where nobody says otherwise. -/
def LookUp.initial : LookUp := ⟨5, 2000⟩

/-- Looks so many times for a run of a file that is not among the known ones. Part of
`dispatch_run`. -/
def findRun (file : String) (known : List Nat) (delay : Nat) : Nat → Procedure Nat
  | 0 => throw (.remote (.notFound ("run dispatched for " ++ file)))
  | attempts + 1 => do
    let runs ← Procedure.call (.listRuns file)
    match runs.find? fun r ↦ !known.contains r.id with
    | some r => return r.id
    | none =>
      Procedure.wait delay
      findRun file known delay attempts

/-- Starts a run of a deployed workflow, and finds its number. Function `dispatch_run`. -/
def Workflow.dispatch (w : Workflow) (ref : String) (inputs : Settings) (lookUp : LookUp) :
    Procedure Nat := do
  let file := fileName w.path
  let known ← Procedure.call (.listRuns file)
  let () ← Procedure.call (.triggerRun file ref inputs)
  findRun file (known.map (·.id)) lookUp.delay (max lookUp.attempts 1)

end Blockflow
