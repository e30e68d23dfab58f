import Blockflow.Json.Record

/-!
# Block kinds and categories

The closed set of blocks that a pipeline can be made of, with the tag each is stored under, and
the six families they belong to.

Components `types` and `registry` of `workflow-engine`; specification C.1.
-/

namespace Blockflow

/-- The family of a block. Enumeration `BlockCategory`. -/
inductive Category where
  /-- Events that start a run. -/
  | trigger
  /-- Build steps: checkout, setup, scripts. -/
  | job
  /-- Actions on the repository: releases, comments, labels. -/
  | action
  /-- Control of whole jobs: conditions, matrices, fan-in. -/
  | control
  /-- Services outside the repository. -/
  | integration
  /-- Caches, artifacts, environments. -/
  | utility
deriving DecidableEq, Inhabited

namespace Category

/-- Every category, in the order of a palette. -/
def all : List Category := [.trigger, .job, .action, .control, .integration, .utility]

/-- The name a category is written with. Function `BlockCategory.as_str`. -/
def tag : Category → String
  | .trigger => "trigger"
  | .job => "job"
  | .action => "action"
  | .control => "control"
  | .integration => "integration"
  | .utility => "utility"

/-- The category with the given name. Function `BlockCategory.from_str`. -/
def ofTag? (s : String) : Option Category := all.find? fun c ↦ c.tag == s

/-- What is said about a name that no category has. -/
def unknownMessage (s : String) : String := "unknown block category '" ++ s ++ "'"

/-- Reads a category. -/
def ofJson? : Json → Option Category := Json.choice? ofTag?

/-- The written form of a category. -/
def toJson (c : Category) : Json := .str c.tag

@[simp] theorem ofTag?_tag (c : Category) : ofTag? c.tag = some c := by cases c <;> rfl

end Category

/-- What a block is. Enumeration `BlockKind`. -/
inductive Kind where
  | triggerPush
  | triggerPr
  | triggerSchedule
  | triggerManual
  | triggerRelease
  | jobCheckout
  | jobSetupNode
  | jobSetupPython
  | jobRunScript
  | jobInstallDeps
  | jobBuild
  | jobTest
  | jobLint
  | controlCondition
  | controlMatrix
  | controlParallel
  | controlWait
  | actionCreateRelease
  | actionCommentPr
  | actionLabel
  | integrationDeployVercel
  | integrationDockerBuild
  | integrationNotifySlack
  | integrationNpmPublish
  | utilityCache
  | utilityUploadArtifact
  | utilityDownloadArtifact
  | utilityEnv
deriving DecidableEq, Inhabited

namespace Kind

/-- Every kind, in the order of a palette. -/
def all : List Kind :=
  [.triggerPush, .triggerPr, .triggerSchedule, .triggerManual, .triggerRelease,
    .jobCheckout, .jobSetupNode, .jobSetupPython, .jobRunScript, .jobInstallDeps, .jobBuild,
    .jobTest, .jobLint,
    .controlCondition, .controlMatrix, .controlParallel, .controlWait,
    .actionCreateRelease, .actionCommentPr, .actionLabel,
    .integrationDeployVercel, .integrationDockerBuild, .integrationNotifySlack,
    .integrationNpmPublish,
    .utilityCache, .utilityUploadArtifact, .utilityDownloadArtifact, .utilityEnv]

theorem mem_all (k : Kind) : k ∈ all := by cases k <;> decide

/-- The tag that stored blocks name their kind with. Function `BlockKind.as_str`. -/
def tag : Kind → String
  | .triggerPush => "trigger-push"
  | .triggerPr => "trigger-pr"
  | .triggerSchedule => "trigger-schedule"
  | .triggerManual => "trigger-manual"
  | .triggerRelease => "trigger-release"
  | .jobCheckout => "job-checkout"
  | .jobSetupNode => "job-setup-node"
  | .jobSetupPython => "job-setup-python"
  | .jobRunScript => "job-run-script"
  | .jobInstallDeps => "job-install-deps"
  | .jobBuild => "job-build"
  | .jobTest => "job-test"
  | .jobLint => "job-lint"
  | .controlCondition => "control-condition"
  | .controlMatrix => "control-matrix"
  | .controlParallel => "control-parallel"
  | .controlWait => "control-wait"
  | .actionCreateRelease => "action-create-release"
  | .actionCommentPr => "action-comment-pr"
  | .actionLabel => "action-label"
  | .integrationDeployVercel => "integration-deploy-vercel"
  | .integrationDockerBuild => "integration-docker-build"
  | .integrationNotifySlack => "integration-notify-slack"
  | .integrationNpmPublish => "integration-npm-publish"
  | .utilityCache => "utility-cache"
  | .utilityUploadArtifact => "utility-upload-artifact"
  | .utilityDownloadArtifact => "utility-download-artifact"
  | .utilityEnv => "utility-env"

/-- The kind with the given tag. Function `BlockKind.from_tag`. -/
def ofTag? (s : String) : Option Kind := all.find? fun k ↦ k.tag == s

/-- Reads a kind. -/
def ofJson? : Json → Option Kind := Json.choice? ofTag?

/-- The written form of a kind. -/
def toJson (k : Kind) : Json := .str k.tag

@[simp] theorem ofTag?_tag (k : Kind) : ofTag? k.tag = some k := by cases k <;> rfl

theorem tag_of_ofTag? {k : Kind} {tag : String} (h : ofTag? tag = some k) : k.tag = tag := by
  simpa using List.find?_some h

theorem ofTag?_eq_some_iff {k : Kind} {tag : String} : ofTag? tag = some k ↔ tag = k.tag := by
  constructor
  · intro h
    exact (tag_of_ofTag? h).symm
  · rintro rfl
    exact ofTag?_tag k

/-- Two kinds never share a tag. -/
theorem tag_injective {a b : Kind} (h : a.tag = b.tag) : a = b :=
  Option.some.inj ((ofTag?_tag a).symm.trans ((congrArg ofTag? h).trans (ofTag?_tag b)))

end Kind

end Blockflow
