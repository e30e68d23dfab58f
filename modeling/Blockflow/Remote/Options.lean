import Blockflow.File
import Blockflow.Json.Skim
import Blockflow.Json.Writer
import Blockflow.Json.Record
import Blockflow.Text.Blank

/-!
# Options

What has to be known before a workflow is deployed and its runs are followed: the repository, and
how often to ask about a run. Options are kept in a JSON file in which everything may be left out.

Components `config` and `constants` of `workflow-sync`; specification B.3.
-/

namespace Blockflow

/-- The repository that pipelines are deployed to. Record `GitHubConfig`. -/
structure Target where
  /-- The root of the remote interface. -/
  apiUrl : String
  /-- Who owns the repository. -/
  owner : String
  /-- The repository. -/
  repo : String
  /-- The branch that pipelines are written to and run on. -/
  branch : String
  /-- What gives access to the repository. -/
  token : Option String
  /-- How many seconds a request may take. -/
  timeoutSeconds : Nat
  /-- What the remote side is told about who asks. -/
  userAgent : String
deriving DecidableEq, Inhabited

namespace Target

/-- The target in which nothing has been set. -/
def initial : Target :=
  { apiUrl := "https://api.github.com", owner := "", repo := "", branch := "main", token := none,
    timeoutSeconds := 30, userAgent := "flowctl/0.1.0" }

/-- Whether the repository has been set. Function `has_target`. -/
def isSet (t : Target) : Bool := !Text.allBlank t.owner && !Text.allBlank t.repo

/-- The token to use: the one of the environment, unless it is blank, or else the target's own.
Function `resolved_token`. -/
def tokenOr (t : Target) (environment : Option String) : Option String :=
  (environment.filter fun s ↦ !Text.allBlank s).or t.token

/-- How many milliseconds a request may take. Function `request_timeout`. -/
def timeout (t : Target) : Nat := t.timeoutSeconds * 1000

/-- What to know of a written target. -/
def interest : Json.Interest := .fields
  ["api_base_url", "owner", "repo", "branch", "token", "request_timeout_secs", "user_agent"]

/-- Reads a target. -/
def ofJson? : Json → Option Target := Json.record? do
  let apiUrl ← .defaulted "api_base_url" Json.text? initial.apiUrl
  let owner ← .defaulted "owner" Json.text? initial.owner
  let repo ← .defaulted "repo" Json.text? initial.repo
  let branch ← .defaulted "branch" Json.text? initial.branch
  let token ← .optional "token" Json.text?
  let timeoutSeconds ←
    .defaulted "request_timeout_secs" (Json.unsigned? 64) initial.timeoutSeconds
  let userAgent ← .defaulted "user_agent" Json.text? initial.userAgent
  return { apiUrl, owner, repo, branch, token, timeoutSeconds, userAgent }

/-- The written form of a target. -/
def toJson (t : Target) : Json :=
  .obj <| [("api_base_url", .str t.apiUrl), ("owner", .str t.owner), ("repo", .str t.repo),
    ("branch", .str t.branch)] ++ Json.optional "token" .str t.token ++
    [("request_timeout_secs", .ofNat t.timeoutSeconds), ("user_agent", .str t.userAgent)]

end Target

/-- How often to ask about a run, with all times in milliseconds. Record `TrackerConfig`. -/
structure Pace where
  /-- The wait after an answer. -/
  pollInterval : Nat
  /-- After how many failures in a row a run counts as out of sight. -/
  failureThreshold : Nat
  /-- The wait after one failure. -/
  backoffBase : Nat
  /-- The longest wait after failures. -/
  backoffMax : Nat
deriving DecidableEq, Inhabited

namespace Pace

/-- The pace in which nothing has been set. -/
def initial : Pace :=
  { pollInterval := 5000, failureThreshold := 3, backoffBase := 1000, backoffMax := 30000 }

/-- The greatest number of doublings of a wait. -/
def maxDoublings : Nat := 20

/-- The longest wait that there is, below `2 ^ 64` milliseconds. -/
def longestWait : Nat := Nat.pow 2 64 - 1

/-- The wait after so many failures in a row. It doubles with each failure after the first one, at
most twenty times, up to the longest one. Function `backoff_delay`. -/
def backoff (p : Pace) (failures : Nat) : Nat :=
  min (min (p.backoffBase * Nat.pow 2 (min (failures - 1) maxDoublings)) longestWait) p.backoffMax

/-- What to know of a written pace. -/
def interest : Json.Interest := .fields
  ["poll_interval_ms", "failure_threshold", "backoff_base_ms", "backoff_max_ms"]

/-- Reads a pace. -/
def ofJson? : Json → Option Pace := Json.record? do
  let pollInterval ← .defaulted "poll_interval_ms" (Json.unsigned? 64) initial.pollInterval
  let failureThreshold ←
    .defaulted "failure_threshold" (Json.unsigned? 32) initial.failureThreshold
  let backoffBase ← .defaulted "backoff_base_ms" (Json.unsigned? 64) initial.backoffBase
  let backoffMax ← .defaulted "backoff_max_ms" (Json.unsigned? 64) initial.backoffMax
  return { pollInterval, failureThreshold, backoffBase, backoffMax }

/-- The written form of a pace. -/
def toJson (p : Pace) : Json :=
  .obj [("poll_interval_ms", .ofNat p.pollInterval),
    ("failure_threshold", .ofNat p.failureThreshold), ("backoff_base_ms", .ofNat p.backoffBase),
    ("backoff_max_ms", .ofNat p.backoffMax)]

end Pace

/-- Everything that can be set. Record `SyncConfig`. -/
structure Options where
  /-- The repository. -/
  target : Target
  /-- How runs are followed. -/
  pace : Pace
deriving DecidableEq, Inhabited

namespace Options

/-- The options in which nothing has been set. -/
def initial : Options := ⟨.initial, .initial⟩

/-- What to know of written options. -/
def interest : Json.Interest := .record [("github", Target.interest), ("tracker", Pace.interest)]

/-- Reads options. -/
def ofJson? : Json → Option Options := Json.record? do
  let target ← .defaulted "github" Target.ofJson? .initial
  let pace ← .defaulted "tracker" Pace.ofJson? .initial
  return { target, pace }

/-- The written form of options. -/
def toJson (o : Options) : Json :=
  .obj [("github", o.target.toJson), ("tracker", o.pace.toJson)]

/-- Why options cannot be used. Enumeration `ConfigError`. -/
inductive LoadError where
  /-- The file cannot be read. -/
  | unreadable (why : FileError)
  /-- The text of the file holds no options. -/
  | malformed
deriving DecidableEq

/-- The error in words. -/
def LoadError.message : LoadError → String
  | .unreadable why => "IO error: " ++ why.message
  | .malformed => "Failed to parse config: not options"

/-- The options in a text. -/
def parse (s : String) : Except LoadError Options :=
  match (Json.parsePart? interest s).bind ofJson? with
  | some o => .ok o
  | none => .error .malformed

/-- The options in what stands at the place of a file. Where there is nothing, nothing has been set.
Function `SyncConfig.load`. -/
def load : Option (Except FileError String) → Except LoadError Options
  | none => .ok .initial
  | some (.error why) => .error (.unreadable why)
  | some (.ok s) => parse s

/-- The text of the file that keeps options. Part of `SyncConfig.save`. -/
def text (o : Options) : String := o.toJson.indented

end Options

end Blockflow
