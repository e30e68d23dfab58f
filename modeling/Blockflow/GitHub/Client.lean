import Blockflow.GitHub.Base64
import Blockflow.Http.Address
import Blockflow.Json.Skim
import Blockflow.Remote.Call
import Blockflow.Text.Pieces

/-!
# GitHub as the remote side

Every call of the remote side is one request or two to the interface of GitHub. How requests are
sent is left open. A status that is no success says what kind of failure it is; a body that is not
what was asked for is a failure that does not pass.

Component `github` of `workflow-sync`; specification C.6.
-/

namespace Blockflow

namespace GitHub

/-- How many jobs are asked for with a run. Constant `JOBS_PER_PAGE`. -/
def jobsPerPage : Nat := 100

/-- How many runs are asked for in a list. Constant `RUNS_PER_PAGE`. -/
def runsPerPage : Nat := 20

/-- Whoever makes calls for one repository. Record `GitHubClient`. -/
structure Client where
  /-- The repository. -/
  target : Target
  /-- What gives access to it. -/
  token : Option String
deriving DecidableEq

namespace Client

/-- A client for a repository, with the token of the environment if there is one. -/
def new (t : Target) (environment : Option String) : Except RemoteError Client :=
  if !t.isSet then .error (.unconfigured "github.owner and github.repo must be set")
  else if !Http.isHeaderValue t.userAgent then .error (.unconfigured "HTTP client: builder error")
  else .ok ⟨t, t.tokenOr environment⟩

/-- The address of something in the repository. Function `repo_url`. -/
def url (g : Client) (path : String) : String :=
  let root := (g.target.apiUrl.toList.reverse.dropWhile (· == '/')).reverse
  let path := path.toList.dropWhile (· == '/')
  String.ofList root ++ "/repos/" ++ g.target.owner ++ "/" ++ g.target.repo ++ "/" ++
    String.ofList path

/-- A request about something in the repository. Function `request`. -/
def request (g : Client) (method : Http.Method) (path : String) (query : List (String × String))
    (body : Option Json) : Http.Request :=
  { method, url := g.url path, query, body,
    headers :=
      [("accept", "application/vnd.github+json"), ("x-github-api-version", "2022-11-28")] ++
        (g.token.map fun t ↦ ("authorization", "Bearer " ++ t)).toList ++
        [("user-agent", g.target.userAgent)] ++
        (body.map fun _ ↦ ("content-type", "application/json")).toList }

end Client

/-! ### Answers -/

/-- The body of a refusal; one that is cut counts as empty, and a mark of byte order in front does
not count. -/
def refusalText : Http.Body → String
  | .whole text =>
    match text.toList with
    | '\uFEFF' :: rest => String.ofList rest
    | _ => text
  | .cut => ""

/-- What a refusal says: its `message`, or else all of it. Function `api_message`. -/
def refusalMessage (body : String) : String :=
  (((Json.read? body).bind fun j ↦ j.member? "message").bind Json.text?).getD (Text.trim body)

/-- Whether a refusal is about too many requests. -/
def saysRateLimit (message : String) : Bool :=
  Text.contains (String.ofList (message.toList.map Char.toLower)) "rate limit"

/-- The failure that a status means which is no success. Function `classify`. -/
def failureOf (status : Nat) (context message : String) : RemoteError :=
  if status = 401 then .unauthorized message
  else if status = 403 then
    if saysRateLimit message then .transient message else .unauthorized message
  else if status = 404 then .notFound context
  else if status = 409 then .conflict context none
  else if status = 422 && Text.contains message "sha" then .conflict context none
  else if status = 429 then .transient message
  else if 500 ≤ status && status < 600 then
    .transient ("HTTP " ++ toString status ++ ": " ++ message)
  else .refused status message

/-- The body of a success. Function `check`. -/
def success? (context : String) : Http.Exchange → Except RemoteError Http.Body
  | .unwritten => .error (.transient "builder error")
  | .broken => .error .disconnected
  | .answered status body =>
    if 200 ≤ status && status < 300 then .ok body
    else .error (failureOf status context (refusalMessage (refusalText body)))

/-- The value in the body of a success, of which only a part is of interest. Part of `get_json`. -/
def value? {α : Type} (context : String) (interest : Json.Interest) (read? : Json → Option α)
    (x : Http.Exchange) : Except RemoteError α := do
  match ← success? context x with
  | .cut => throw (.undecodable context)
  | .whole text =>
    match (Json.parsePart? interest text).bind read? with
    | some a => return a
    | none => throw (.undecodable context)

/-! ### Files -/

/-- The text of a file as it is sent. -/
def encodeContent (s : String) : String := String.ofList (Base64.encode s.toUTF8.data.toList)

/-- The text of a file as it was received; blanks in between do not count. Function
`decode_content`. -/
def decodeContent? (s : String) : Option String := do
  let bytes ← Base64.decode? (s.toList.filter fun c ↦ !Text.isBlank c)
  String.fromUTF8? ⟨bytes.toArray⟩

/-- A file as it is received: its version, and its text as it is sent. -/
structure FileBody where
  /-- Its version. -/
  version : String
  /-- Its text as it is sent. -/
  content : String

/-- What to know of a file as it is received. -/
def FileBody.interest : Json.Interest := .fields ["sha", "content"]

/-- Reads a file as it is received. -/
def FileBody.ofJson? : Json → Option FileBody := Json.record? do
  let version ← .required "sha" Json.text?
  let content ← .defaulted "content" Json.text? ""
  return { version, content }

/-- What to know of the answer to a write. -/
def writtenInterest : Json.Interest := .record [("content", .fields ["sha"])]

/-- Reads the version in the answer to a write. -/
def writtenVersion? : Json → Option String :=
  Json.record? (.required "content" (Json.record? (.required "sha" Json.text?)))

/-- The file in an answer; there is none where nothing was found. -/
def fileOf (path : String) (x : Http.Exchange) : Except RemoteError (Option RemoteFile) :=
  match value? path FileBody.interest FileBody.ofJson? x with
  | .ok f =>
    match decodeContent? f.content with
    | some content => .ok (some { path, version := f.version, content })
    | none => .error (.undecodable path)
  | .error (.notFound _) => .ok none
  | .error e => .error e

/-- The version in the answer to a write. A refusal to create a file means that there is one. -/
def versionOf (w : FileWrite) (x : Http.Exchange) : Except RemoteError String :=
  match value? w.path writtenInterest writtenVersion? x with
  | .error (.refused 422 m) =>
    if w.version.isNone then .error (.conflict w.path none) else .error (.refused 422 m)
  | other => other

/-! ### Runs -/

/-- A run without its jobs. -/
structure RunBody where
  /-- Its number. -/
  id : Nat
  /-- Where it stands. -/
  status : RemoteStatus
  /-- How it has ended. -/
  conclusion : Option Conclusion

/-- What to know of a run without its jobs. -/
def RunBody.interest : Json.Interest := .fields ["id", "status", "conclusion"]

/-- Reads a run without its jobs. -/
def RunBody.ofJson? : Json → Option RunBody := Json.record? do
  let id ← .required "id" (Json.unsigned? 64)
  let status ← .required "status" RemoteStatus.ofJson?
  let conclusion ← .optional "conclusion" Conclusion.ofJson?
  return { id, status, conclusion }

/-- What to know of a list of runs. -/
def runsInterest : Json.Interest := .record [("workflow_runs", .list RunSummary.interest)]

/-- Reads a list of runs. -/
def runs? : Json → Option (List RunSummary) :=
  Json.record? (.required "workflow_runs" (Json.list? RunSummary.ofJson?))

/-- What to know of a list of jobs. -/
def jobsInterest : Json.Interest := .record [("jobs", .list RemoteJob.interest)]

/-- Reads a list of jobs. -/
def jobs? : Json → Option (List RemoteJob) :=
  Json.record? (.required "jobs" (Json.list? RemoteJob.ofJson?))

namespace Client

/-- The request for a file. Part of `get_file`. -/
def fileRequest (g : Client) (path : String) : Http.Request :=
  g.request .get ("contents/" ++ path) [("ref", g.target.branch)] none

/-- The request to write a file. Part of `put_file`. -/
def writeRequest (g : Client) (w : FileWrite) : Http.Request :=
  g.request .put ("contents/" ++ w.path) [] <| some <| .obj <|
    [("message", .str w.message), ("content", .str (encodeContent w.content)),
      ("branch", .str g.target.branch)] ++ Json.optional "sha" .str w.version

/-- The request to delete a version of a file. Part of `delete_file`. -/
def deleteRequest (g : Client) (path version message : String) : Http.Request :=
  g.request .delete ("contents/" ++ path) [] <| some <| .obj
    [("message", .str message), ("sha", .str version), ("branch", .str g.target.branch)]

/-- The request for the runs of a pipeline file. Part of `list_runs`. -/
def runsRequest (g : Client) (file : String) : Http.Request :=
  g.request .get ("actions/workflows/" ++ file ++ "/runs")
    [("branch", g.target.branch), ("per_page", toString runsPerPage)] none

/-- The request for a run. Part of `get_run_detail`. -/
def runRequest (g : Client) (run : Nat) : Http.Request :=
  g.request .get ("actions/runs/" ++ toString run) [] none

/-- The request for the jobs of a run. Part of `get_run_detail`. -/
def jobsRequest (g : Client) (run : Nat) : Http.Request :=
  g.request .get ("actions/runs/" ++ toString run ++ "/jobs")
    [("per_page", toString jobsPerPage)] none

/-- The request to start a run. Part of `trigger_run`. -/
def triggerRequest (g : Client) (file ref : String) (inputs : Settings) : Http.Request :=
  g.request .post ("actions/workflows/" ++ file ++ "/dispatches") [] <| some <| .obj
    [("ref", .str ref), ("inputs", .obj inputs.entries)]

variable {m : Type → Type} [Monad m]

/-- Sends a request in the given way, unless it cannot be written. -/
def exchange (send : Http.Request → m Http.Exchange) (r : Http.Request) : m Http.Exchange :=
  if r.isWritable then send r else pure .unwritten

/-- Makes a call, with the given way to send requests. The functions of `PipelineRemote` for
`GitHubClient`. -/
def answer (g : Client) (send : Http.Request → m Http.Exchange) : (c : Call) → m c.Outcome
  | .getFile path => return fileOf path (← exchange send (g.fileRequest path))
  | .putFile w => return versionOf w (← exchange send (g.writeRequest w))
  | .deleteFile path version message =>
    return (success? path (← exchange send (g.deleteRequest path version message))).map fun _ ↦ ()
  | .listRuns file => return value? file runsInterest runs? (← exchange send (g.runsRequest file))
  | .runDetail run => do
    let context := "run " ++ toString run
    match value? context RunBody.interest RunBody.ofJson? (← exchange send (g.runRequest run)) with
    | .error e => return .error e
    | .ok r =>
      let page ← exchange send (g.jobsRequest run)
      return (value? context jobsInterest jobs? page).map fun jobs ↦
        { run := r.id, status := r.status, conclusion := r.conclusion, jobs }
  | .triggerRun file ref inputs =>
    return (success? file (← exchange send (g.triggerRequest file ref inputs))).map fun _ ↦ ()

end Client

end GitHub

end Blockflow
