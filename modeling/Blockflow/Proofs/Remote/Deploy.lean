import Blockflow.Remote.Session

/-!
# How a deployment goes on

A deployment reads the file, and then it leaves it alone, finds it as it should be, or writes over
the version that it has read. These are all the ways that it goes, whatever it is told; a session
goes them too, and remembers how they end. A session that has deleted its file remembers no version,
whatever it was told meanwhile.
-/

namespace Blockflow

/-- Whether a dialogue ends with nothing but values of some kind, whatever it is told. -/
inductive Dialogue.EndsWith {Q : Type} {A : Q → Type} {α : Type} (P : α → Prop) :
    Dialogue Q A α → Prop where
  /-- It has ended. -/
  | done (a : α) (h : P a) : EndsWith P (.done a)
  /-- It goes on so after each answer. -/
  | ask (q : Q) (next : A q → Dialogue Q A α) (h : ∀ answer, EndsWith P (next answer)) :
      EndsWith P (.ask q next)

theorem Dialogue.endsWith_bind_done {Q : Type} {A : Q → Type} {α β : Type} {P : β → Prop}
    {f : α → β} (hf : ∀ a, P (f a)) (d : Dialogue Q A α) :
    (d >>= fun a ↦ .done (f a)).EndsWith P := by
  induction d with
  | done a => exact .done _ (hf a)
  | ask q next ih => exact .ask q _ ih

/-- The file that a deployment leaves behind. -/
def DeployReport.file (d : DeployReport) : RemoteFile :=
  ⟨d.path, d.outcome.version, d.pipeline.text⟩

namespace DeployDecision

variable {text version : String} {lastSeen replaced : Option String} {policy : ConflictPolicy}
  {found : Option RemoteFile} {f : RemoteFile}

/-- A file that is not the one seen last is left alone, unless it shall be overwritten. -/
theorem about_of_ne (h : lastSeen ≠ some f.version) :
    about text lastSeen .fail (some f) = .refuse f.version := by
  simp [about, h]

/-- A file that is the one seen last and holds the text already is kept. -/
theorem about_self (f : RemoteFile) (policy : ConflictPolicy) :
    about f.content (some f.version) policy (some f) = .keep f.version := by
  simp [about]

/-- All that may be decided: a file that is not the one seen last is left alone if it shall not be
overwritten; any other one is kept if it holds the text, and else it is written over. -/
theorem about_cases (text : String) (lastSeen : Option String) (policy : ConflictPolicy)
    (found : Option RemoteFile) :
    (found = none ∧ about text lastSeen policy found = .write none) ∨
      ∃ f, found = some f ∧
        ((lastSeen ≠ some f.version ∧ policy = .fail ∧
            about text lastSeen policy found = .refuse f.version) ∨
          (f.content = text ∧ about text lastSeen policy found = .keep f.version) ∨
          ((policy = .fail → lastSeen = some f.version) ∧
            about text lastSeen policy found = .write (some f.version))) := by
  cases found with
  | none => exact .inl ⟨rfl, rfl⟩
  | some f =>
    refine .inr ⟨f, rfl, ?_⟩
    by_cases hother : lastSeen ≠ some f.version ∧ policy = .fail
    · exact .inl ⟨hother.1, hother.2, by simp [about, hother]⟩
    · right
      by_cases hcontent : f.content = text
      · exact .inl ⟨hcontent, by simp_all [about]⟩
      · have hknown : policy = .fail → lastSeen = some f.version := fun hfail ↦
          Classical.byContradiction fun hne ↦ hother ⟨hne, hfail⟩
        exact .inr ⟨hknown, by simp_all [about]⟩

theorem of_about_eq_refuse (h : about text lastSeen policy found = .refuse version) :
    policy = .fail ∧ ∃ f, found = some f ∧ f.version = version ∧ lastSeen ≠ some version := by
  obtain ⟨-, hd⟩ | ⟨f, hf, ⟨hne, hfail, hd⟩ | ⟨-, hd⟩ | ⟨-, hd⟩⟩ :=
    about_cases text lastSeen policy found
  · cases hd.symm.trans h
  · cases hd.symm.trans h
    exact ⟨hfail, f, hf, rfl, hne⟩
  · cases hd.symm.trans h
  · cases hd.symm.trans h

theorem of_about_eq_keep (h : about text lastSeen policy found = .keep version) :
    ∃ f, found = some f ∧ f.version = version ∧ f.content = text := by
  obtain ⟨-, hd⟩ | ⟨f, hf, ⟨-, -, hd⟩ | ⟨hcontent, hd⟩ | ⟨-, hd⟩⟩ :=
    about_cases text lastSeen policy found
  · cases hd.symm.trans h
  · cases hd.symm.trans h
  · cases hd.symm.trans h
    exact ⟨f, hf, rfl, hcontent⟩
  · cases hd.symm.trans h

/-- What is written replaces the version that was found. Whoever leaves alone what is not known
writes over nothing but the version seen last. -/
theorem of_about_eq_write (h : about text lastSeen policy found = .write replaced) :
    found.map (·.version) = replaced ∧
      ∀ version, replaced = some version → policy = .fail → lastSeen = some version := by
  obtain ⟨rfl, hd⟩ | ⟨f, rfl, ⟨-, -, hd⟩ | ⟨-, hd⟩ | ⟨hknown, hd⟩⟩ :=
    about_cases text lastSeen policy found
  · cases hd.symm.trans h
    exact ⟨rfl, nofun⟩
  · cases hd.symm.trans h
  · cases hd.symm.trans h
  · cases hd.symm.trans h
    refine ⟨rfl, fun version hversion ↦ ?_⟩
    rwa [← Option.some.inj hversion]

end DeployDecision

/-- Whether what a call gives is so, given which files have been written. -/
def Call.IsTold (known : RemoteFile → Prop) : (c : Call) → c.Outcome → Prop
  | .getFile path, .ok (some f) => f.path = path ∧ known f
  | .putFile w, .ok version => known ⟨w.path, version, w.content⟩
  | _, _ => True

namespace Procedure

variable {α β : Type}

/-- What comes after a call goes on from its reply, and not at all if it fails. -/
theorem run_call_bind (c : Call) (f : c.Reply → Procedure α) :
    (call c >>= f).run = .ask (.call c) fun
      | .error e => .done (.error (.remote e))
      | .ok reply => (f reply).run := by
  refine congrArg (Dialogue.ask _) (funext fun outcome ↦ ?_)
  cases outcome <;> rfl

section Lead

variable {σ : Type} {answer : (q : Remote.Question) → StateM σ (Remote.Answer q)} {c : Call}
  {f : c.Reply → Procedure β} {s t : σ}

theorem lead_call_bind_of_ok {reply : c.Reply} (h : answer (.call c) s = (.ok reply, t)) :
    ((call c >>= f).run.lead answer).run s = ((f reply).run.lead answer).run t := by
  rw [run_call_bind, Dialogue.lead_ask, StateT.run_bind]
  simp only [StateT.run, h]
  rfl

end Lead

theorem run_ofExcept_bind (x : Except SyncError α) (f : α → Procedure β) :
    (ofExcept x >>= f).run = match x with
      | .error e => .done (.error e)
      | .ok a => (f a).run := by
  cases x <;> rfl

end Procedure

/-! ### Deployments -/

namespace Workflow

open Remote

variable {w : Workflow} {lastSeen : Option String} {policy : ConflictPolicy} {p : Pipeline}
  {known known' : RemoteFile → Prop}

/-- The wish to write a pipeline over a version of the file of a workflow, if there is one. -/
def writeOver (w : Workflow) (p : Pipeline) (replaced : Option String) : FileWrite :=
  { path := w.path, content := p.text, message := "Deploy workflow: " ++ w.name,
    version := replaced }

/-- How a deployment ends that has tried to write the file. -/
def afterWrite (w : Workflow) (p : Pipeline) (replaced : Option String) :
    Except RemoteError String → Talk (Except SyncError DeployReport)
  | .error e => .done (.error (.remote e))
  | .ok version =>
    .done (.ok ⟨w.path, if replaced.isSome then .updated version else .created version, p⟩)

/-- How a deployment goes on that has decided what to do about the file. -/
def afterDecision (w : Workflow) (p : Pipeline) :
    DeployDecision → Talk (Except SyncError DeployReport)
  | .refuse version => .done (.error (.remote (.conflict w.path (some version))))
  | .keep version => .done (.ok ⟨w.path, .unchanged version, p⟩)
  | .write replaced => .ask (.call (.putFile (w.writeOver p replaced))) (w.afterWrite p replaced)

/-- How a deployment goes on that has tried to read the file. -/
def afterRead (w : Workflow) (lastSeen : Option String) (policy : ConflictPolicy) (p : Pipeline) :
    Except RemoteError (Option RemoteFile) → Talk (Except SyncError DeployReport)
  | .error e => .done (.error (.remote e))
  | .ok found => w.afterDecision p (DeployDecision.about p.text lastSeen policy found)

/-- A deployment reads the file and goes on from there, unless the workflow does not compile. -/
theorem run_deploy (w : Workflow) (r : Registry) (lastSeen : Option String)
    (policy : ConflictPolicy) : (w.deploy r lastSeen policy).run = match w.compile r with
      | .error e => .done (.error (.compile e))
      | .ok p => .ask (.call (.getFile w.path)) (w.afterRead lastSeen policy p) := by
  rw [deploy, Procedure.run_ofExcept_bind]
  cases hp : w.compile r with
  | error e => rfl
  | ok p =>
    refine (Procedure.run_call_bind _ _).trans (congrArg (Dialogue.ask _) (funext fun outcome ↦ ?_))
    cases outcome with
    | error e => rfl
    | ok found =>
      simp only [afterRead]
      cases DeployDecision.about p.text lastSeen policy found with
      | refuse version => rfl
      | keep version => rfl
      | write replaced =>
        refine (Procedure.run_call_bind _ _).trans
          (congrArg (Dialogue.ask _) (funext fun outcome ↦ ?_))
        cases outcome <;> rfl

/-- What is left of a deployment that leaves alone what is not known: it reads the file, or it
writes over the version seen last or where there is no file, or it has ended. -/
inductive DeployRest (w : Workflow) (lastSeen : Option String) (known : RemoteFile → Prop) :
    Talk (Except SyncError DeployReport) → Prop where
  /-- It reads the file. -/
  | read (p : Pipeline) :
      DeployRest w lastSeen known (.ask (.call (.getFile w.path)) (w.afterRead lastSeen .fail p))
  /-- It writes the file. -/
  | write (p : Pipeline) (replaced : Option String)
      (hseen : ∀ version, replaced = some version → lastSeen = some version) :
      DeployRest w lastSeen known
        (.ask (.call (.putFile (w.writeOver p replaced))) (w.afterWrite p replaced))
  /-- It has failed. -/
  | failed (e : SyncError) : DeployRest w lastSeen known (.done (.error e))
  /-- It has ended, and the file is one that has been written. -/
  | ended (report : DeployReport) (hfile : known report.file) :
      DeployRest w lastSeen known (.done (.ok report))

theorem deployRest_run (w : Workflow) (r : Registry) (lastSeen : Option String) :
    w.DeployRest lastSeen known (w.deploy r lastSeen .fail).run := by
  rw [run_deploy]
  cases w.compile r with
  | error e => exact .failed _
  | ok p => exact .read p

theorem DeployRest.mono {talk : Talk (Except SyncError DeployReport)}
    (h : w.DeployRest lastSeen known talk) (hknown : ∀ f, known f → known' f) :
    w.DeployRest lastSeen known' talk := by
  cases h with
  | read p => exact .read p
  | write p replaced hseen => exact .write p replaced hseen
  | failed e => exact .failed e
  | ended report hfile => exact .ended report (hknown _ hfile)

private theorem deployRest_afterRead {outcome : (Call.getFile w.path).Outcome}
    (htold : Call.IsTold known _ outcome) :
    w.DeployRest lastSeen known (w.afterRead lastSeen .fail p outcome) := by
  cases outcome with
  | error e => exact .failed _
  | ok found =>
    rw [afterRead]
    cases hdecision : DeployDecision.about p.text lastSeen .fail found with
    | refuse version => exact .failed _
    | keep version =>
      obtain ⟨f, rfl, rfl, hcontent⟩ := DeployDecision.of_about_eq_keep hdecision
      obtain ⟨hpath, hknown⟩ := htold
      refine .ended _ ?_
      rwa [DeployReport.file, DeployOutcome.version, ← hpath, ← hcontent]
    | write replaced =>
      exact .write p replaced fun version hsome ↦
        (DeployDecision.of_about_eq_write hdecision).2 version hsome rfl

private theorem deployRest_afterWrite {replaced : Option String}
    {outcome : (Call.putFile (w.writeOver p replaced)).Outcome}
    (htold : Call.IsTold known _ outcome) :
    w.DeployRest lastSeen known (w.afterWrite p replaced outcome) := by
  cases outcome with
  | error e => exact .failed _
  | ok version =>
    refine .ended _ ?_
    have hversion : (if replaced.isSome then DeployOutcome.updated version
        else .created version).version = version := by
      split <;> rfl
    rwa [DeployReport.file, hversion]

/-- A deployment goes on as one, whatever it is told that is so. -/
theorem DeployRest.next {c : Call} {next : c.Outcome → Talk (Except SyncError DeployReport)}
    {outcome : c.Outcome} (h : w.DeployRest lastSeen known (.ask (.call c) next))
    (htold : c.IsTold known outcome) : w.DeployRest lastSeen known (next outcome) := by
  cases h with
  | read p => exact deployRest_afterRead htold
  | write p replaced hseen => exact deployRest_afterWrite htold

end Workflow

/-! ### What sessions make of them -/

namespace Session

open Remote

variable {s t : Session} {known known' : RemoteFile → Prop}
  {talk : Talk (Except SyncError (DeployReport × Session))}

/-- The session after a deployment. -/
def deployed (s : Session) (report : DeployReport) : Session :=
  { s with lastSeen := some report.outcome.version, names := some report.pipeline.names }

/-- A deployment of which a session remembers how it ends. -/
def remembering (s : Session) (talk : Talk (Except SyncError DeployReport)) :
    Talk (Except SyncError (DeployReport × Session)) :=
  talk >>= fun ended ↦ .done (ended.map fun report ↦ (report, s.deployed report))

theorem run_deploy (s : Session) (policy : ConflictPolicy) : (s.deploy policy).run =
    s.remembering (s.workflow.deploy s.registry s.lastSeen policy).run := by
  refine congrArg (Dialogue.bind (s.workflow.deploy s.registry s.lastSeen policy).run)
    (funext fun ended ↦ ?_)
  cases ended <;> rfl

/-- What is left of a session's deployment that leaves alone what is not known. -/
def DeployRest (s : Session) (known : RemoteFile → Prop)
    (talk : Talk (Except SyncError (DeployReport × Session))) : Prop :=
  ∃ rest, s.workflow.DeployRest s.lastSeen known rest ∧ talk = s.remembering rest

theorem deployRest_run (s : Session) : s.DeployRest known (s.deploy .fail).run :=
  ⟨_, s.workflow.deployRest_run s.registry s.lastSeen, s.run_deploy .fail⟩

theorem DeployRest.mono (h : s.DeployRest known talk) (hknown : ∀ f, known f → known' f) :
    s.DeployRest known' talk := by
  obtain ⟨rest, hrest, htalk⟩ := h
  exact ⟨rest, hrest.mono hknown, htalk⟩

/-- A deployment goes on as one, whatever it is told that is so. -/
theorem DeployRest.next {c : Call}
    {next : c.Outcome → Talk (Except SyncError (DeployReport × Session))} {outcome : c.Outcome}
    (h : s.DeployRest known (.ask (.call c) next)) (htold : c.IsTold known outcome) :
    s.DeployRest known (next outcome) := by
  obtain ⟨rest, hrest, htalk⟩ := h
  cases rest with
  | done ended => cases htalk
  | ask q goesOn =>
    cases htalk
    exact ⟨goesOn outcome, hrest.next htold, rfl⟩

/-- A deployment that asks makes a call: it reads the file, or it writes over the version that the
session has seen last or where there is no file. -/
theorem DeployRest.exists_call {q : Question}
    {next : Remote.Answer q → Talk (Except SyncError (DeployReport × Session))}
    (h : s.DeployRest known (.ask q next)) : q = .call (.getFile s.workflow.path) ∨
      ∃ p replaced, q = .call (.putFile (s.workflow.writeOver p replaced)) ∧
        ∀ version, replaced = some version → s.lastSeen = some version := by
  obtain ⟨rest, hrest, htalk⟩ := h
  cases hrest with
  | read p =>
    cases htalk
    exact .inl rfl
  | write p replaced hseen =>
    cases htalk
    exact .inr ⟨p, replaced, rfl, hseen⟩
  | failed e => cases htalk
  | ended report hfile => cases htalk

/-- A deployment that has ended well has written its file, and the session remembers it. -/
theorem DeployRest.of_done {report : DeployReport}
    (h : s.DeployRest known (.done (.ok (report, t)))) :
    known report.file ∧ t = s.deployed report := by
  obtain ⟨rest, hrest, htalk⟩ := h
  cases hrest with
  | read p => cases htalk
  | write p replaced hseen => cases htalk
  | failed e => cases htalk
  | ended report hfile =>
    cases htalk
    exact ⟨hfile, rfl⟩

/-- What is left when a session deletes its file: if it ends well, no version is remembered. -/
def UndeployRest : Talk (Except SyncError (Bool × Session)) → Prop :=
  Dialogue.EndsWith fun result ↦ ∀ removed t, result = .ok (removed, t) → t.lastSeen = none

theorem undeployRest_run (s : Session) : UndeployRest s.undeploy.run := by
  have hrun : s.undeploy.run = s.workflow.undeploy.run >>= fun removed ↦
      .done (removed.map fun b ↦ (b, { s with lastSeen := none, names := none })) := by
    refine congrArg (Dialogue.bind s.workflow.undeploy.run) (funext fun removed ↦ ?_)
    cases removed <;> rfl
  rw [hrun]
  refine Dialogue.endsWith_bind_done (fun removed b t ht ↦ ?_) _
  cases removed with
  | error e => cases ht
  | ok b =>
    obtain ⟨-, rfl⟩ := Prod.mk.inj (Except.ok.inj ht)
    rfl

end Session

end Blockflow
