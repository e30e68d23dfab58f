import Blockflow.Pipeline.Document
import Blockflow.Pipeline.Names
import Blockflow.Pipeline.Triggers
import Blockflow.Yaml.Writer

/-!
# Steps

The steps that each kind of block stands for. Triggers and control blocks have none.

Component `compiler` of `workflow-engine`; specification C.4.
-/

namespace Blockflow

/-- A value as it stands in a shell script: a text as itself, no value as nothing, a number or a
truth value as YAML writes it, and anything else as its YAML text. Function `yaml_scalar`. -/
def Yaml.shellText : Yaml → String
  | .str s => s
  | .null => ""
  | .bool b => Yaml.wordOf (.bool b)
  | .int n => Yaml.wordOf (.int n)
  | .real x => Yaml.wordOf (.real x)
  | v => Text.trim ((Yaml.text? v).getD "")

namespace Block

/-- A setting that is a text, or the empty text. -/
def textOf (b : Block) (key : String) : String := (b.text? key).getD ""

/-- A setting that is a truth value, or the given one. -/
def flagOf (b : Block) (key : String) (value : Bool) : Bool := (b.flag? key).getD value

/-- An input of an action, if its setting is filled. -/
def filledInput (b : Block) (key input : String) : List (String × Json) :=
  Json.optional input .str (b.filled? key)

/-- The command that installs dependencies. -/
def installCommand (manager : String) (frozen : Bool) : String :=
  match manager with
  | "yarn" => if frozen then "yarn --frozen-lockfile" else "yarn install"
  | "pnpm" => if frozen then "pnpm install --frozen-lockfile" else "pnpm install"
  | "pip" => "pip install -r requirements.txt"
  | _ => if frozen then "npm ci" else "npm install"

/-- The number of the pull request, as the one who runs a pipeline puts it in. -/
def pullRequestNumber : String := "$\x7b\x7b github.event.pull_request.number \x7d\x7d"

/-- The token of the repository, as the one who runs a pipeline puts it in. -/
def repositoryToken : String := "$\x7b\x7b secrets.GITHUB_TOKEN \x7d\x7d"

/-- Where an image is pushed to, and its full name. -/
def imageOf (b : Block) : String × String :=
  let registry := (b.text? "registry").getD "ghcr.io"
  let image := b.textOf "imageName"
  if registry == "custom" then (String.ofList (image.toList.takeWhile (· ≠ '/')), image)
  else (registry, registry ++ "/" ++ image)

/-- The names under which an image is pushed. -/
def imageTags (b : Block) : String :=
  String.intercalate "," ((b.listed "tags").map fun tag ↦ b.imageOf.2 ++ ":" ++ tag)

/-- The line that exports a variable. -/
def exportLine (key value : Yaml) : String :=
  "echo \"" ++ key.shellText ++ "=" ++ value.shellText ++ "\" >> \"$GITHUB_ENV\""

/-- The script that exports variables; nothing if their text is no YAML. -/
def exportScript? (b : Block) : Option String := do
  let lines ←
    match b.filled? "variables" with
    | none => some []
    | some source => (Yaml.read? source).map fun v ↦
      (v.entries?.getD []).map fun e ↦ exportLine e.1 e.2
  return if lines.isEmpty then "echo \"No variables to export\"" else String.intercalate "\n" lines

/-- The depth to which a repository is fetched, if it is a number. -/
def fetchDepth (b : Block) : List (String × Json) :=
  Json.optional "fetch-depth" (fun n ↦ n) ((b.config.get? "fetchDepth").filter Json.isNumber)

/-- The submodules to fetch, if any. -/
def submodules (b : Block) : List (String × Json) :=
  Json.optional "submodules" .str ((b.filled? "submodules").filter (· ≠ "false"))

/-- The steps of a block of the given kind; nothing if a setting that has to be YAML is none. Part
of `emit_steps`. -/
def stepsOfKind? (b : Block) : Kind → Option (List Step)
  | .jobCheckout => some [.use b.stepName "actions/checkout@v4" (b.fetchDepth ++ b.submodules)]
  | .jobSetupNode =>
    some [.use b.stepName "actions/setup-node@v4" <|
      ("node-version", .str (b.textOf "nodeVersion")) :: b.filledInput "cache" "cache"]
  | .jobSetupPython =>
    some [.use b.stepName "actions/setup-python@v5" <|
      ("python-version", .str (b.textOf "pythonVersion")) :: b.filledInput "cache" "cache"]
  | .jobRunScript =>
    some [⟨b.stepName, .run (b.textOf "run") (b.filled? "workingDirectory"), .empty⟩]
  | .jobInstallDeps =>
    some [.run b.stepName
      (installCommand ((b.text? "packageManager").getD "npm") (b.flagOf "frozen" true))]
  | .jobBuild | .jobTest | .jobLint => some [.run b.stepName (b.textOf "command")]
  | .actionCreateRelease =>
    some [.use b.stepName "softprops/action-gh-release@v2" <|
      [("tag_name", .str (b.textOf "tagName")), ("draft", .bool (b.flagOf "draft" false)),
        ("prerelease", .bool (b.flagOf "prerelease" false))] ++ b.filledInput "releaseName" "name"]
  | .actionCommentPr =>
    some [((Step.run b.stepName
      ("gh pr comment \"" ++ pullRequestNumber ++ "\" --body \"$COMMENT_BODY\"")).withEnv
        "GH_TOKEN" repositoryToken).withEnv "COMMENT_BODY" (b.textOf "message")]
  | .actionLabel =>
    let flag := if b.text? "action" = some "remove" then "--remove-label" else "--add-label"
    some [((Step.run b.stepName
      ("gh pr edit \"" ++ pullRequestNumber ++ "\" " ++ flag ++ " \"$LABELS\"")).withEnv
        "GH_TOKEN" repositoryToken).withEnv "LABELS" (String.intercalate "," (b.listed "labels"))]
  | .integrationDeployVercel =>
    some [.use b.stepName "amondnet/vercel-action@v25" <|
      [("vercel-token", .str "$\x7b\x7b secrets.VERCEL_TOKEN \x7d\x7d"),
        ("vercel-org-id", .str (b.textOf "orgId")),
        ("vercel-project-id", .str (b.textOf "projectId"))] ++
        if b.flagOf "production" false then [("vercel-args", .str "--prod")] else []]
  | .integrationDockerBuild =>
    some [
      .use (b.auxiliaryStepName "login") "docker/login-action@v3"
        [("registry", .str b.imageOf.1), ("username", .str "$\x7b\x7b github.actor \x7d\x7d"),
          ("password", .str repositoryToken)],
      .use b.stepName "docker/build-push-action@v5"
        [("context", .str "."), ("file", .str (b.textOf "dockerfile")), ("push", .bool true),
          ("tags", .str b.imageTags)]]
  | .integrationNotifySlack =>
    some [(Step.use b.stepName "8398a7/action-slack@v3" <|
      [("status", .str "$\x7b\x7b job.status \x7d\x7d"), ("text", .str (b.textOf "message"))] ++
        b.filledInput "channel" "channel").withEnv "SLACK_WEBHOOK_URL" (b.textOf "webhookUrl")]
  | .integrationNpmPublish =>
    some [(Step.run b.stepName
      ("npm publish --access " ++ (b.text? "access").getD "public" ++ " --registry " ++
        b.textOf "registry")).withEnv "NODE_AUTH_TOKEN" "$\x7b\x7b secrets.NPM_TOKEN \x7d\x7d"]
  | .utilityCache =>
    some [.use b.stepName "actions/cache@v4" <|
      [("path", .str (b.textOf "path")), ("key", .str (b.textOf "key"))] ++
        b.filledInput "restoreKeys" "restore-keys"]
  | .utilityUploadArtifact =>
    some [.use b.stepName "actions/upload-artifact@v4"
      [("name", .str (b.textOf "name")), ("path", .str (b.textOf "path")),
        ("retention-days", (b.config.get? "retention").getD (.ofNat 30))]]
  | .utilityDownloadArtifact =>
    some [.use b.stepName "actions/download-artifact@v4" <|
      ("name", .str (b.textOf "name")) :: b.filledInput "path" "path"]
  | .utilityEnv => b.exportScript?.map fun script ↦ [.run b.stepName script]
  | .triggerPush | .triggerPr | .triggerSchedule | .triggerManual | .triggerRelease
  | .controlCondition | .controlMatrix | .controlParallel | .controlWait => some []

/-- The steps of a block; nothing if a setting that has to be YAML is none. Function `emit_steps`.
-/
def steps? (b : Block) : Option (List Step) :=
  match Kind.ofTag? b.tag with
  | some kind => b.stepsOfKind? kind
  | none => some []

end Block

end Blockflow
