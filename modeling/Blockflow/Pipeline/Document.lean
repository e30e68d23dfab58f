import Blockflow.Yaml.Basic

/-!
# Pipeline documents

What a pipeline file says: which events start it, and which jobs it has. The order of entries in
the file is the order of the fields here; what is empty is left out.

Component `pipeline` of `workflow-engine`; specification C.4.
-/

namespace Blockflow

/-- The events of one kind that start a pipeline; an empty list leaves all through. Record
`BranchFilter`. -/
structure EventFilter where
  /-- The types of event. -/
  types : List String
  /-- The branches. -/
  branches : List String
  /-- The paths of changed files. -/
  paths : List String
deriving DecidableEq, Inhabited

namespace EventFilter

/-- The items of a second list put behind those of a first, without those that are there. Function
`union`. -/
def union (l more : List String) : List String :=
  more.foldl (fun l item ↦ if l.contains item then l else l ++ [item]) l

/-- The filter with the lists of another one put behind its own. Function `BranchFilter.merge`. -/
def merge (f g : EventFilter) : EventFilter :=
  ⟨union f.types g.types, union f.branches g.branches, union f.paths g.paths⟩

/-- The filter that leaves all through. -/
def free : EventFilter := ⟨[], [], []⟩

/-- A list as an entry, unless it is empty. -/
def entry (key : String) (l : List String) : List (Yaml × Yaml) :=
  if l.isEmpty then [] else [(.str key, .seq (l.map .str))]

/-- The filter in a document. -/
def toYaml (f : EventFilter) : Yaml :=
  .map (entry "types" f.types ++ entry "branches" f.branches ++ entry "paths" f.paths)

end EventFilter

/-- An entry, if there is a value. -/
def Yaml.optional {α : Type} (key : String) (toYaml : α → Yaml) : Option α → List (Yaml × Yaml)
  | none => []
  | some a => [(.str key, toYaml a)]

/-- The start of a pipeline by hand. Record `Dispatch`. -/
structure Dispatch where
  /-- What may be given to it. -/
  inputs : Option Yaml
deriving Inhabited

/-- The events that start a pipeline. Record `OnSection`. -/
structure Events where
  /-- Commits. -/
  push : Option EventFilter
  /-- Pull requests. -/
  pullRequest : Option EventFilter
  /-- Points in time, in cron form. -/
  schedule : Option (List String)
  /-- A start by hand. -/
  dispatch : Option Dispatch
  /-- Releases. -/
  release : Option EventFilter
deriving Inhabited

namespace Events

/-- No events. -/
def empty : Events := ⟨none, none, none, none, none⟩

/-- The events in a document. -/
def toYaml (e : Events) : Yaml :=
  .map <| Yaml.optional "push" EventFilter.toYaml e.push ++
    Yaml.optional "pull_request" EventFilter.toYaml e.pullRequest ++
    Yaml.optional "schedule" (fun l ↦ .seq (l.map fun c ↦ .map [(.str "cron", .str c)]))
      e.schedule ++
    Yaml.optional "workflow_dispatch" (fun d ↦ .map (Yaml.optional "inputs" id d.inputs))
      e.dispatch ++
    Yaml.optional "release" EventFilter.toYaml e.release

end Events

/-- What a step does. -/
inductive Work where
  /-- It uses an action with some inputs. -/
  | use (action : String) (inputs : Dict Json)
  /-- It runs a script, perhaps in a directory. -/
  | run (script : String) (directory : Option String)
deriving Inhabited

/-- A step of a job. Record `Step`. -/
structure Step where
  /-- Its name. -/
  name : String
  /-- What it does. -/
  work : Work
  /-- Its environment variables. -/
  env : Dict String
deriving Inhabited

namespace Step

/-- A step that uses an action. Functions `Step.uses` and `Step.with`. -/
def use (name action : String) (inputs : List (String × Json)) : Step :=
  ⟨name, .use action (.ofList inputs), .empty⟩

/-- A step that runs a script. Function `Step.run`. -/
def run (name script : String) : Step := ⟨name, .run script none, .empty⟩

/-- The step with an environment variable. Function `Step.env`. -/
def withEnv (s : Step) (key value : String) : Step := { s with env := s.env.insert key value }

/-- What a step does, in a document. -/
def workEntries : Work → List (Yaml × Yaml)
  | .use action inputs =>
    (.str "uses", .str action) ::
      if inputs.isEmpty then []
      else [(.str "with", .map (inputs.entries.map fun e ↦ (.str e.1, .ofJson e.2)))]
  | .run script directory =>
    (.str "run", .str script) :: Yaml.optional "working-directory" .str directory

/-- The step in a document. -/
def toYaml (s : Step) : Yaml :=
  .map <| (.str "name", .str s.name) :: workEntries s.work ++
    if s.env.isEmpty then []
    else [(.str "env", .map (s.env.entries.map fun e ↦ (.str e.1, .str e.2)))]

end Step

/-- How a job is run several times. Record `Strategy`. -/
structure Strategy where
  /-- The values for which it is run. -/
  matrix : Yaml
  /-- Whether one failure ends all. -/
  failFast : Bool
deriving Inhabited

/-- A job of a pipeline. Record `Job`. -/
structure Job where
  /-- The machine that it runs on. -/
  runner : String
  /-- The keys of the jobs that come before it. -/
  needs : List String
  /-- The condition for it. -/
  condition : Option String
  /-- The environment that it deploys to. -/
  environment : Option String
  /-- How it is run several times. -/
  strategy : Option Strategy
  /-- Its steps. -/
  steps : List Step
deriving Inhabited

namespace Job

/-- The job in a document. -/
def toYaml (j : Job) : Yaml :=
  .map <| (.str "runs-on", .str j.runner) :: EventFilter.entry "needs" j.needs ++
    Yaml.optional "if" .str j.condition ++ Yaml.optional "environment" .str j.environment ++
    Yaml.optional "strategy"
      (fun s ↦ .map [(.str "matrix", s.matrix), (.str "fail-fast", .bool s.failFast)])
      j.strategy ++
    [(.str "steps", .seq (j.steps.map Step.toYaml))]

end Job

/-- A pipeline file. Record `PipelineFile`. -/
structure Document where
  /-- Its name. -/
  name : String
  /-- The events that start it. -/
  events : Events
  /-- The jobs with their keys. -/
  jobs : List (String × Job)
deriving Inhabited

namespace Document

/-- The document as a YAML value. -/
def toYaml (d : Document) : Yaml :=
  .map [(.str "name", .str d.name), (.str "on", d.events.toYaml),
    (.str "jobs", .map (d.jobs.map fun j ↦ (.str j.1, j.2.toYaml)))]

end Document

end Blockflow
