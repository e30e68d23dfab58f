import Blockflow.Block.Registry

/-!
# The catalog

The definition of every kind of block. A block that is no trigger has one input and one output for
the order of steps; a trigger has an output only. Waiting is the one thing that takes several
connections at its input.

Component `catalog` of `workflow-engine`; specification C.1.
-/

namespace Blockflow.Catalog

/-- A field without default, options and rule. -/
def field (key label : String) (type : FieldType) : Field :=
  { key, label, type, required := false, default := none, options := [], rule := none }

/-- The field, required. -/
def needed (f : Field) : Field := { f with required := true }

/-- The field with a default. -/
def defaulting (value : Json) (f : Field) : Field := { f with default := some value }

/-- A field for one line of text. Function `text`. -/
def line (key label value : String) : Field := defaulting (.str value) (field key label .text)

/-- A field for several lines of text. -/
def lines (key label value : String) : Field :=
  defaulting (.str value) (field key label .textarea)

/-- A field for a script or a piece of YAML. -/
def code (key label value : String) : Field := defaulting (.str value) (field key label .code)

/-- A field for one of some options. Function `select`. -/
def select (key label : String) (options : List String) (value : String) : Field :=
  { defaulting (.str value) (field key label .select) with options }

/-- A field for several of some options. -/
def multiselect (key label : String) (options values : List String) : Field :=
  { defaulting (.ofList .str values) (field key label .multiselect) with options }

/-- A field for a truth value. Function `flag`. -/
def flag (key label : String) (value : Bool) : Field :=
  defaulting (.bool value) (field key label .boolean)

/-- A field for a number within limits. -/
def number (key label : String) (min max : Option Float) (value : Nat) : Field :=
  { defaulting (.ofNat value) (field key label .number) with
    rule := some { Rule.free with min, max } }

/-- The field for the command of a step. Function `command`. -/
def command (label value : String) : Field := needed (line "command" label value)

/-- The field with a pattern. -/
def matching (pattern : String) (f : Field) : Field :=
  { f with rule := some { f.rule.getD .free with pattern := some pattern } }

/-- The field for texts that are YAML mappings. -/
def yamlMapping (f : Field) : Field :=
  { f with rule := some { f.rule.getD .free with yamlMapping := true } }

/-- Five words with blanks between them. Constant `CRON_PATTERN`. -/
def cronPattern : String := "^\\S+(\\s+\\S+)\x7b4\x7d$"

/-- The output of a trigger. -/
def triggerOutput : Port := ⟨"out", "Output", .trigger, false, true⟩

/-- The input of a step. -/
def stepInput : Port := ⟨"in", "Input", .job, true, false⟩

/-- The output of a step. -/
def stepOutput : Port := ⟨"out", "Output", .job, false, true⟩

/-- A definition of a trigger. Function `trigger`. -/
def trigger (kind : Kind) (name description : String) (fields : List Field) : Definition :=
  { kind, category := .trigger, name, description, inputs := [], outputs := [triggerOutput],
    fields }

/-- A definition of a step. Function `step`. -/
def step (kind : Kind) (category : Category) (name description : String) (fields : List Field) :
    Definition :=
  { kind, category, name, description, inputs := [stepInput], outputs := [stepOutput], fields }

/-- The triggers. -/
def triggers : List Definition :=
  [trigger .triggerPush "Push" "Triggered when code is pushed to repository"
      [line "branches" "Branches" "main", line "paths" "Paths" ""],
    trigger .triggerPr "Pull Request" "Triggered on pull request events"
      [multiselect "types" "Event Types"
          ["opened", "closed", "synchronize", "reopened", "ready_for_review"]
          ["opened", "synchronize"],
        line "branches" "Target Branches" "main"],
    trigger .triggerSchedule "Schedule" "Triggered on a schedule (cron)"
      [matching cronPattern (needed (line "cron" "Cron Expression" "0 0 * * *"))],
    trigger .triggerManual "Manual Trigger" "Manually triggered workflow"
      [yamlMapping (code "inputs" "Input Parameters" "")],
    trigger .triggerRelease "Release" "Triggered on release events"
      [multiselect "types" "Event Types" ["published", "created", "prereleased"] ["published"]]]

/-- The build steps. -/
def jobs : List Definition :=
  [step .jobCheckout .job "Checkout" "Checkout repository code"
      [number "fetchDepth" "Fetch Depth" (some 0) none 1,
        select "submodules" "Submodules" ["false", "true", "recursive"] "false"],
    step .jobSetupNode .job "Setup Node.js" "Setup Node.js environment"
      [needed (select "nodeVersion" "Node Version" ["18", "20", "21", "22"] "20"),
        select "cache" "Package Manager Cache" ["", "npm", "yarn", "pnpm"] "npm"],
    step .jobSetupPython .job "Setup Python" "Setup Python environment"
      [needed (select "pythonVersion" "Python Version" ["3.9", "3.10", "3.11", "3.12"] "3.11"),
        select "cache" "Cache" ["", "pip", "pipenv", "poetry"] "pip"],
    step .jobRunScript .job "Run Script" "Run shell commands"
      [line "name" "Step Name" "", needed (code "run" "Commands" ""),
        line "workingDirectory" "Working Directory" ""],
    step .jobInstallDeps .job "Install Dependencies" "Install project dependencies"
      [needed (select "packageManager" "Package Manager" ["npm", "yarn", "pnpm", "pip"] "npm"),
        flag "frozen" "Frozen Lockfile" true],
    step .jobBuild .job "Build" "Build the project"
      [command "Build Command" "npm run build", line "outputDir" "Output Directory" "dist"],
    step .jobTest .job "Run Tests" "Run test suite"
      [command "Test Command" "npm test", flag "coverage" "Generate Coverage" true],
    step .jobLint .job "Lint" "Run linter checks" [command "Lint Command" "npm run lint"]]

/-- The control of whole jobs. -/
def controls : List Definition :=
  [step .controlCondition .control "Condition" "Conditional branching"
      [needed (code "condition" "Condition" "")],
    step .controlMatrix .control "Matrix" "Run job with matrix strategy"
      [yamlMapping (needed (code "matrix" "Matrix Definition" "os: [ubuntu-latest]\nnode: [20]")),
        flag "failFast" "Fail Fast" true],
    step .controlParallel .control "Parallel" "Run jobs in parallel" [],
    { step .controlWait .control "Wait All" "Wait for all inputs to complete" [] with
      inputs := [{ stepInput with multiple := true }] }]

/-- The actions on the repository. -/
def actions : List Definition :=
  [step .actionCreateRelease .action "Create Release" "Create GitHub release"
      [needed (line "tagName" "Tag Name" ""), line "releaseName" "Release Name" "",
        flag "draft" "Draft" false, flag "prerelease" "Pre-release" false],
    step .actionCommentPr .action "Comment on PR" "Add comment to pull request"
      [needed (lines "message" "Comment Message" "")],
    step .actionLabel .action "Manage Labels" "Add or remove labels"
      [needed (select "action" "Action" ["add", "remove"] "add"),
        needed (line "labels" "Labels" "")]]

/-- The services outside the repository. -/
def integrations : List Definition :=
  [step .integrationDeployVercel .integration "Deploy to Vercel" "Deploy to Vercel platform"
      [needed (line "projectId" "Project ID" ""), needed (line "orgId" "Org ID" ""),
        flag "production" "Production Deploy" false],
    step .integrationDockerBuild .integration "Docker Build & Push" "Build and push Docker image"
      [needed (select "registry" "Registry" ["ghcr.io", "docker.io", "custom"] "ghcr.io"),
        needed (line "imageName" "Image Name" ""),
        line "dockerfile" "Dockerfile Path" "./Dockerfile", line "tags" "Tags" "latest"],
    step .integrationNotifySlack .integration "Slack Notification" "Send Slack notification"
      [needed (defaulting (.str "$\x7b\x7b secrets.SLACK_WEBHOOK \x7d\x7d")
          (field "webhookUrl" "Webhook URL (Secret)" .secret)),
        needed (lines "message" "Message" ""), line "channel" "Channel" ""],
    step .integrationNpmPublish .integration "NPM Publish" "Publish package to npm"
      [needed (select "registry" "Registry"
          ["https://registry.npmjs.org", "https://npm.pkg.github.com"]
          "https://registry.npmjs.org"),
        select "access" "Access" ["public", "restricted"] "public"]]

/-- Caches, artifacts and environments. -/
def utilities : List Definition :=
  [step .utilityCache .utility "Cache" "Cache dependencies or build outputs"
      [needed (line "path" "Cache Path" ""), needed (line "key" "Cache Key" ""),
        line "restoreKeys" "Restore Keys" ""],
    step .utilityUploadArtifact .utility "Upload Artifact" "Upload build artifact"
      [needed (line "name" "Artifact Name" ""), needed (line "path" "Path" ""),
        number "retention" "Retention Days" (some 1) (some 90) 30],
    step .utilityDownloadArtifact .utility "Download Artifact"
      "Download artifact from previous job"
      [needed (line "name" "Artifact Name" ""), line "path" "Download Path" ""],
    step .utilityEnv .utility "Environment" "Set environment variables"
      [select "environment" "Environment" ["", "development", "staging", "production"]
          "production",
        yamlMapping (code "variables" "Variables" "")]]

/-- Every definition of the catalog, in the order of a palette. Function `builtin_definitions`. -/
def definitions : List Definition :=
  triggers ++ jobs ++ controls ++ actions ++ integrations ++ utilities

end Blockflow.Catalog

namespace Blockflow.Registry

/-- The registry with the definitions of the catalog. Function `with_builtin`. -/
def builtin : Registry := empty.registerAll Catalog.definitions

end Blockflow.Registry
