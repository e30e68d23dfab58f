import Blockflow.Block.Catalog
import Blockflow.Proofs.Remote.Deploy
import Blockflow.Proofs.Remote.Store
import Blockflow.Remote.Rehearsal
import Mathlib.Logic.Function.Basic

/-!
# What a deployment does to the remote side

A deployment is led by a remote side that may fail at every call. Main statements: it refuses a file
that is there and is not the one seen last, but a file that is gone is written anew; and where
nobody else writes, a deployment that ends well leaves its pipeline behind and nothing else, can be
made again without a write, and has changed nothing if it fails.
-/

namespace Blockflow

/-! ### Remote sides -/

/-- A remote side. -/
structure RemoteSide (σ : Type) where
  /-- What a call gives, and the state of the remote side after it. -/
  answer (c : Call) : StateM σ c.Outcome
  /-- A file. -/
  file? : σ → String → Option RemoteFile

namespace RemoteSide

variable {σ α : Type} (side : RemoteSide σ)

/-- Answers a question, with a record of the calls. Nothing happens in a wait. -/
def recorded : (q : Remote.Question) → StateM (σ × List Call) (Remote.Answer q)
  | .call c => fun (s, made) ↦ ((side.answer c s).1, (side.answer c s).2, made ++ [c])
  | .wait _ => pure ()

/-- Leads a procedure, and gives the calls that are made with the state after them. -/
def lead (p : Procedure α) (s : σ) : Except SyncError α × σ × List Call :=
  (p.run.lead side.recorded).run (s, [])

theorem lead_recorded_ask {c : Call} {next : c.Outcome → Remote.Talk α} {s t : σ}
    {outcome : c.Outcome} {made : List Call} (h : side.answer c s = (outcome, t)) :
    ((Dialogue.ask (.call c) next).lead side.recorded).run (s, made) =
      ((next outcome).lead side.recorded).run (t, made ++ [c]) := by
  rw [Dialogue.lead_ask, StateT.run_bind]
  simp only [StateT.run, recorded, h]
  rfl

end RemoteSide

/-! ### The ways of a deployment -/

namespace RemoteSide

variable {σ : Type} {side : RemoteSide σ} {w : Workflow} {r : Registry} {lastSeen : Option String}
  {policy : ConflictPolicy} {p : Pipeline} {found : Option RemoteFile} {s t : σ}

/-- How a deployment ends that has read the file and decided what to do about it. -/
def decided (side : RemoteSide σ) (w : Workflow) (p : Pipeline) (t : σ)
    (decision : DeployDecision) : Except SyncError DeployReport × σ × List Call :=
  ((w.afterDecision p decision).lead side.recorded).run (t, [.getFile w.path])

theorem decided_refuse {version : String} : side.decided w p t (.refuse version) =
    (.error (.remote (.conflict w.path (some version))), t, [.getFile w.path]) := rfl

theorem decided_keep {version : String} : side.decided w p t (.keep version) =
    (.ok ⟨w.path, .unchanged version, p⟩, t, [.getFile w.path]) := rfl

theorem decided_write_of_error {replaced : Option String} {e : RemoteError} {u : σ}
    (h : side.answer (.putFile (w.writeOver p replaced)) t = (.error e, u)) :
    side.decided w p t (.write replaced) =
      (.error (.remote e), u, [.getFile w.path, .putFile (w.writeOver p replaced)]) :=
  side.lead_recorded_ask h

theorem decided_write_of_ok {replaced : Option String} {version : String} {u : σ}
    (h : side.answer (.putFile (w.writeOver p replaced)) t = (.ok version, u)) :
    side.decided w p t (.write replaced) =
      (.ok ⟨w.path, if replaced.isSome then .updated version else .created version, p⟩, u,
        [.getFile w.path, .putFile (w.writeOver p replaced)]) :=
  side.lead_recorded_ask h

/-- A workflow that does not compile is not deployed; else the file is read first. -/
theorem lead_deploy (side : RemoteSide σ) (w : Workflow) (r : Registry)
    (lastSeen : Option String) (policy : ConflictPolicy) (s : σ) :
    side.lead (w.deploy r lastSeen policy) s = match w.compile r with
      | .error e => (.error (.compile e), s, [])
      | .ok p => match side.answer (.getFile w.path) s with
        | (.error e, t) => (.error (.remote e), t, [.getFile w.path])
        | (.ok found, t) =>
          side.decided w p t (DeployDecision.about p.text lastSeen policy found) := by
  rw [lead, Workflow.run_deploy]
  cases hp : w.compile r with
  | error e => rfl
  | ok p =>
    rcases hread : side.answer (.getFile w.path) s with ⟨outcome, t⟩
    refine (side.lead_recorded_ask hread).trans ?_
    cases outcome <;> rfl

/-! ### Files that are not the ones seen last -/

/-- A remote side in memory, where a write names the version that it replaces. -/
def rehearsal : RemoteSide Rehearsal where
  answer c r := r.answer c
  file? r path := r.store.file? path

/-- A workflow with a trigger and a step. -/
private def checkedOut : Workflow where
  id := "wf"
  name := "CI"
  description := ""
  blocks := [⟨"t", Kind.triggerPush.tag, .origin, .empty, none⟩,
    ⟨"c", Kind.jobCheckout.tag, .origin, .empty, none⟩]
  connections := [⟨"1", "t", "out", "c", "in"⟩]

/-- The file of the workflow has been written by someone else. -/
private def foreign : Rehearsal :=
  .start (Store.empty.write checkedOut.path "name: edited by hand\n") [] 0 [] []

/-- That file has been deleted. -/
private def erased : Rehearsal :=
  { foreign with store := foreign.store.erase checkedOut.path }

/-- Whatever the remote side is like: if the file that a deployment reads, or that there is none, is
not what was seen last, and nothing shall be overwritten, then it ends with a conflict and writes
nothing exactly if there is a file. If the file is gone, it is written anew. -/
theorem refuses_iff_isSome (side : RemoteSide σ) (hp : w.compile r = .ok p)
    (hread : side.answer (.getFile w.path) s = (.ok found, t))
    (hdiffers : found.map (·.version) ≠ lastSeen) :
    let done := side.lead (w.deploy r lastSeen .fail) s
    (done = (.error (.remote (.conflict w.path (found.map (·.version)))), t, [.getFile w.path]) ↔
      found.isSome) ∧
    (found = none → done.2.2 = [.getFile w.path, .putFile (w.writeOver p none)]) := by
  intro done
  have hdone : done = side.decided w p t (DeployDecision.about p.text lastSeen .fail found) := by
    simp only [done, lead_deploy, hp, hread]
  cases found with
  | some f =>
    have hne : lastSeen ≠ some f.version := fun h ↦ hdiffers h.symm
    rw [DeployDecision.about_of_ne hne] at hdone
    exact ⟨iff_of_true hdone rfl, fun h ↦ absurd h (Option.some_ne_none f)⟩
  | none =>
    have hmade : done.2.2 = [.getFile w.path, .putFile (w.writeOver p none)] := by
      rw [hdone, DeployDecision.about]
      rcases hwrite : side.answer (.putFile (w.writeOver p none)) t with ⟨outcome, u⟩
      cases outcome with
      | error e => rw [decided_write_of_error hwrite]
      | ok version => rw [decided_write_of_ok hwrite]
    refine ⟨iff_of_false (fun hrefused ↦ ?_) Bool.false_ne_true, fun _ ↦ hmade⟩
    rw [hrefused] at hmade
    cases hmade

theorem refuses_iff_isSome_foreign : ∃ p t, checkedOut.compile .builtin = .ok p ∧
    rehearsal.answer (.getFile checkedOut.path) foreign =
      (.ok (foreign.store.file? checkedOut.path), t) ∧
    (foreign.store.file? checkedOut.path).map (·.version) ≠ none ∧
    rehearsal.lead (checkedOut.deploy .builtin none .fail) foreign =
      (.error (.remote (.conflict checkedOut.path (some "sha-0"))), t,
        [.getFile checkedOut.path]) := by
  have hcompiles : (checkedOut.compile .builtin).isOk := by decide +kernel
  have hversion : (foreign.store.file? checkedOut.path).map (·.version) = some "sha-0" := by
    decide +kernel
  have hdiffers : (foreign.store.file? checkedOut.path).map (·.version) ≠ none := by
    rw [hversion]
    exact Option.some_ne_none _
  have hread : rehearsal.answer (.getFile checkedOut.path) foreign =
      (.ok (foreign.store.file? checkedOut.path),
        (rehearsal.answer (.getFile checkedOut.path) foreign).2) := rfl
  cases hp : checkedOut.compile .builtin with
  | error e => rw [hp] at hcompiles; cases hcompiles
  | ok p =>
    have hrefused := (refuses_iff_isSome rehearsal hp hread hdiffers).1.mpr (by decide +kernel)
    rw [hversion] at hrefused
    exact ⟨p, _, rfl, hread, hdiffers, hrefused⟩

/-- A file that was there when it was seen last, and is gone, is not refused. -/
theorem not_forall_refuses : ¬∀ (w : Workflow) (lastSeen : Option String) (p : Pipeline)
    (found : Option RemoteFile) (s t : Rehearsal), w.compile .builtin = .ok p →
    rehearsal.answer (.getFile w.path) s = (.ok found, t) →
    found.map (·.version) ≠ lastSeen →
    rehearsal.lead (w.deploy .builtin lastSeen .fail) s =
      (.error (.remote (.conflict w.path (found.map (·.version)))), t, [.getFile w.path]) := by
  intro h
  have hdone :
      (rehearsal.lead (checkedOut.deploy .builtin (some "sha-0") .fail) erased).1.isOk := by
    decide +kernel
  have hgone : erased.store.file? checkedOut.path = none := by decide +kernel
  have hread : rehearsal.answer (.getFile checkedOut.path) erased =
      (.ok none, (rehearsal.answer (.getFile checkedOut.path) erased).2) := by
    rw [← hgone]
    rfl
  cases hp : checkedOut.compile .builtin with
  | error e => simp [lead_deploy, hp, Except.isOk, Except.toBool] at hdone
  | ok p =>
    rw [h checkedOut (some "sha-0") p none erased _ hp hread nofun] at hdone
    cases hdone

/-! ### Remote sides where nobody else writes -/

/-- Whether files change by nothing but calls. A call may fail at any time, such as a write that
names another version than there is, and then no file changes. -/
structure IsStore (side : RemoteSide σ) : Prop where
  /-- A file stands where it is looked for. -/
  path : ∀ s path f, side.file? s path = some f → f.path = path
  /-- What is read is the file as it is. -/
  read : ∀ s path found t, side.answer (.getFile path) s = (.ok found, t) →
    found = side.file? s path
  /-- Reading changes no file. -/
  file?_read : ∀ s path outcome t, side.answer (.getFile path) s = (outcome, t) →
    side.file? t = side.file? s
  /-- A write changes one file. -/
  file?_write : ∀ s f version t, side.answer (.putFile f) s = (.ok version, t) →
    side.file? t = Function.update (side.file? s) f.path (some ⟨f.path, version, f.content⟩)
  /-- What cannot be written changes no file. -/
  file?_unwritten : ∀ s f e t, side.answer (.putFile f) s = (.error e, t) →
    side.file? t = side.file? s

/-- A call fails by the script, and then no file changes, or it is answered as it should be. -/
theorem rehearsal_answer_cases (s : Rehearsal) (c : Call) : ∃ t,
    ((∃ e, rehearsal.answer c s = (.error e, t)) ∨ rehearsal.answer c s = t.reply c) ∧
      t.store = s.store := by
  simp only [rehearsal, Rehearsal.answer]
  split
  · exact ⟨_, .inl ⟨_, rfl⟩, rfl⟩
  · exact ⟨_, .inr rfl, rfl⟩

/-- In memory nobody else writes. -/
theorem isStore_rehearsal : rehearsal.IsStore where
  path _ _ _ h := Store.path_of_file? h
  read s path found t h := by
    obtain ⟨u, ⟨e, hfails⟩ | hreply, hstore⟩ := rehearsal_answer_cases s (.getFile path)
    · cases hfails.symm.trans h
    · cases hreply.symm.trans h
      exact congrArg (·.file? path) hstore
  file?_read s path outcome t h := by
    obtain ⟨u, ⟨e, hfails⟩ | hreply, hstore⟩ := rehearsal_answer_cases s (.getFile path)
    · cases hfails.symm.trans h
      exact congrArg Store.file? hstore
    · cases hreply.symm.trans h
      exact congrArg Store.file? hstore
  file?_write s f version t h := by
    obtain ⟨u, ⟨e, hfails⟩ | hreply, hstore⟩ := rehearsal_answer_cases s (.putFile f)
    · cases hfails.symm.trans h
    · rw [hreply, Rehearsal.reply] at h
      split at h
      · next written store hput =>
        cases h
        obtain ⟨-, rfl, rfl⟩ := Store.put_eq_ok.mp hput
        funext path
        simp only [rehearsal, Store.file?_write, Function.update_apply, hstore]
      · cases h
  file?_unwritten s f e t h := by
    obtain ⟨u, ⟨e', hfails⟩ | hreply, hstore⟩ := rehearsal_answer_cases s (.putFile f)
    · cases hfails.symm.trans h
      exact congrArg Store.file? hstore
    · rw [hreply, Rehearsal.reply] at h
      split at h
      · cases h
      · cases h
        exact congrArg Store.file? hstore

/-- What a deployment that has ended well has done to a remote side. -/
structure Leaves (side : RemoteSide σ) (w : Workflow) (r : Registry) (s t : σ)
    (made : List Call) (report : DeployReport) : Prop where
  /-- The path is the one of the workflow. -/
  path_eq : report.path = w.path
  /-- The pipeline is the one of the workflow. -/
  compile_eq : w.compile r = .ok report.pipeline
  /-- The file holds the pipeline, and has the version that is reported. -/
  file : side.file? t w.path = some ⟨w.path, report.outcome.version, report.pipeline.text⟩
  /-- All other files are as before. -/
  others : ∀ path, path ≠ w.path → side.file? t path = side.file? s path
  /-- There was one write at most. -/
  writes_le : made.countP Call.isMutating ≤ 1
  /-- There was none exactly if that is reported. -/
  writes_eq_zero_iff : made.countP Call.isMutating = 0 ↔
    ∃ version, report.outcome = .unchanged version
  /-- It is reported only if the file held the pipeline before. -/
  content_of_unchanged : ∀ version, report.outcome = .unchanged version →
    (side.file? s w.path).map (·.content) = some report.pipeline.text
  /-- The same deployment again, whatever shall be done about conflicts, reads the file and makes no
  other call. It finds the file as it should be, unless it cannot read it. -/
  again : ∀ policy outcome u, side.answer (.getFile w.path) t = (outcome, u) →
    side.lead (w.deploy r (some report.outcome.version) policy) t =
      ((outcome.map fun _ ↦ ⟨w.path, .unchanged report.outcome.version, report.pipeline⟩).mapError
        .remote, u, [.getFile w.path]) ∧
    side.file? u = side.file? t

/-- Why a deployment may fail. -/
inductive Fails (side : RemoteSide σ) (w : Workflow) (r : Registry) (lastSeen : Option String)
    (policy : ConflictPolicy) (s : σ) : SyncError → Prop where
  /-- The workflow does not compile. -/
  | compile (e : CompileError) (h : w.compile r = .error e) : Fails side w r lastSeen policy s
      (.compile e)
  /-- The file cannot be read. -/
  | read (e : RemoteError) (t : σ) (h : side.answer (.getFile w.path) s = (.error e, t)) :
      Fails side w r lastSeen policy s (.remote e)
  /-- The file is not the one seen last, and shall not be overwritten. -/
  | conflict (f : RemoteFile) (hfile : side.file? s w.path = some f) (hpolicy : policy = .fail)
      (hother : lastSeen ≠ some f.version) :
      Fails side w r lastSeen policy s (.remote (.conflict w.path (some f.version)))
  /-- The file cannot be written, not even over the version that there is. -/
  | write (p : Pipeline) (e : RemoteError) (t u : σ) (hsame : side.file? t = side.file? s)
      (h : side.answer (.putFile (w.writeOver p ((side.file? s w.path).map (·.version)))) t =
        (.error e, u)) :
      Fails side w r lastSeen policy s (.remote e)

namespace IsStore

variable {version : String} {replaced : Option String} {made : List Call} {u : σ}

/-- A deployment that knows a file and finds the pipeline in it makes no call but the read. -/
theorem lead_deploy_of_file? (hside : side.IsStore) (hp : w.compile r = .ok p)
    (hfile : side.file? s w.path = some ⟨w.path, version, p.text⟩)
    {outcome : (Call.getFile w.path).Outcome}
    (hread : side.answer (.getFile w.path) s = (outcome, t)) :
    side.lead (w.deploy r (some version) policy) s =
      ((outcome.map fun _ ↦ ⟨w.path, .unchanged version, p⟩).mapError .remote, t,
        [.getFile w.path]) := by
  simp only [lead_deploy, hp, hread]
  cases outcome with
  | error e => rfl
  | ok found =>
    have hfound : found = some ⟨w.path, version, p.text⟩ :=
      (hside.read s w.path found t hread).trans hfile
    have hkeep : DeployDecision.about p.text (some version) policy found = .keep version := by
      rw [hfound]
      exact DeployDecision.about_self ⟨w.path, version, p.text⟩ policy
    simp only [hkeep]
    rfl

/-- A deployment that has kept the file leaves all files as they are. -/
theorem leaves_unchanged (hside : side.IsStore) (hp : w.compile r = .ok p)
    (hread : side.answer (.getFile w.path) s = (.ok found, t))
    (hkeep : DeployDecision.about p.text lastSeen policy found = .keep version) :
    side.Leaves w r s t [.getFile w.path] ⟨w.path, .unchanged version, p⟩ := by
  have hsame : side.file? t = side.file? s := hside.file?_read s w.path _ t hread
  have hfile : side.file? s w.path = some ⟨w.path, version, p.text⟩ := by
    obtain ⟨f, rfl, rfl, hcontent⟩ := DeployDecision.of_about_eq_keep hkeep
    have hf := hside.read s w.path (some f) t hread
    rw [← hf, ← hcontent, ← hside.path s w.path f hf.symm]
  exact {
    path_eq := rfl
    compile_eq := hp
    file := by rwa [hsame]
    others := fun path _ ↦ by rw [hsame]
    writes_le := Nat.zero_le 1
    writes_eq_zero_iff := iff_of_true rfl ⟨version, rfl⟩
    content_of_unchanged := fun _ _ ↦ by rw [hfile, Option.map_some]
    again := fun policy outcome u hagain ↦
      ⟨hside.lead_deploy_of_file? hp (by rwa [hsame]) hagain,
        hside.file?_read t w.path outcome u hagain⟩ }

/-- A deployment that has written the file leaves the pipeline there, and the other files as they
are. -/
theorem leaves_written (hside : side.IsStore) (hp : w.compile r = .ok p)
    (hread : side.answer (.getFile w.path) s = (.ok found, t))
    (hwrite : side.answer (.putFile (w.writeOver p replaced)) t = (.ok version, u))
    {outcome : DeployOutcome} (hversion : outcome.version = version)
    (hchanged : ∀ other, outcome ≠ .unchanged other) :
    side.Leaves w r s u [.getFile w.path, .putFile (w.writeOver p replaced)]
      ⟨w.path, outcome, p⟩ := by
  have hfiles : side.file? u =
      Function.update (side.file? s) w.path (some ⟨w.path, version, p.text⟩) := by
    rw [hside.file?_write t _ version u hwrite, hside.file?_read s w.path _ t hread]
    rfl
  have hfile : side.file? u w.path = some ⟨w.path, version, p.text⟩ := by
    rw [hfiles, Function.update_self]
  subst hversion
  exact {
    path_eq := rfl
    compile_eq := hp
    file := hfile
    others := fun path hne ↦ by rw [hfiles, Function.update_of_ne hne]
    writes_le := Nat.le_refl 1
    writes_eq_zero_iff := iff_of_false nofun fun ⟨other, h⟩ ↦ hchanged other h
    content_of_unchanged := fun other h ↦ absurd h (hchanged other)
    again := fun policy _ v hagain ↦
      ⟨hside.lead_deploy_of_file? hp hfile hagain, hside.file?_read u w.path _ v hagain⟩ }

/-- What has been decided about a file leaves a remote side as it should, or as it was. -/
theorem leaves_decided (hside : side.IsStore) (hp : w.compile r = .ok p)
    (hread : side.answer (.getFile w.path) s = (.ok found, t)) (lastSeen : Option String)
    (policy : ConflictPolicy) :
    let done := side.decided w p t (DeployDecision.about p.text lastSeen policy found)
    (∀ report, done.1 = .ok report → side.Leaves w r s done.2.1 done.2.2 report) ∧
    ∀ e, done.1 = .error e →
      side.Fails w r lastSeen policy s e ∧ side.file? done.2.1 = side.file? s := by
  have hsame : side.file? t = side.file? s := hside.file?_read s w.path _ t hread
  have hfound : found = side.file? s w.path := hside.read s w.path found t hread
  intro done
  cases hd : DeployDecision.about p.text lastSeen policy found with
  | refuse version =>
    simp only [done, hd, decided_refuse]
    refine ⟨nofun, fun e h ↦ ?_⟩
    obtain rfl := Except.error.inj h
    obtain ⟨hpolicy, f, hf, rfl, hother⟩ := DeployDecision.of_about_eq_refuse hd
    exact ⟨.conflict f (hfound.symm.trans hf) hpolicy hother, hsame⟩
  | keep version =>
    simp only [done, hd, decided_keep]
    refine ⟨fun report h ↦ ?_, nofun⟩
    obtain rfl := Except.ok.inj h
    exact hside.leaves_unchanged hp hread hd
  | write replaced =>
    rcases hwrite : side.answer (.putFile (w.writeOver p replaced)) t with ⟨outcome, u⟩
    cases outcome with
    | error e =>
      simp only [done, hd, decided_write_of_error hwrite]
      refine ⟨nofun, fun e' h ↦ ?_⟩
      obtain rfl := Except.error.inj h
      have hunwritten := (hside.file?_unwritten t _ e u hwrite).trans hsame
      rw [← (DeployDecision.of_about_eq_write hd).1, hfound] at hwrite
      exact ⟨.write p e t u hsame hwrite, hunwritten⟩
    | ok version =>
      simp only [done, hd, decided_write_of_ok hwrite]
      refine ⟨fun report h ↦ ?_, nofun⟩
      obtain rfl := Except.ok.inj h
      refine hside.leaves_written hp hread hwrite ?_ fun other ↦ ?_
      · split <;> rfl
      · split <;> nofun

end IsStore

/-- On a remote side where nobody else writes, a deployment that ends well leaves its pipeline in
the file of the workflow and nothing else, and one that fails has a reason for it and leaves the
files as they were. If the workflow does not compile, no call is made. -/
theorem leaves_lead_deploy (hside : side.IsStore) (w : Workflow) (r : Registry)
    (lastSeen : Option String) (policy : ConflictPolicy) (s : σ) :
    let done := side.lead (w.deploy r lastSeen policy) s
    (∀ report, done.1 = .ok report → side.Leaves w r s done.2.1 done.2.2 report) ∧
    (∀ e, done.1 = .error e →
      side.Fails w r lastSeen policy s e ∧ side.file? done.2.1 = side.file? s) ∧
    ∀ e, w.compile r = .error e → done = (.error (.compile e), s, []) := by
  intro done
  simp only [done, lead_deploy]
  cases hp : w.compile r with
  | error e =>
    refine ⟨nofun, fun e' h ↦ ?_, fun e' h ↦ ?_⟩
    · obtain rfl := Except.error.inj h
      exact ⟨.compile e hp, rfl⟩
    · rw [Except.error.inj h]
  | ok p =>
    rcases hread : side.answer (.getFile w.path) s with ⟨outcome, t⟩
    cases outcome with
    | error e =>
      refine ⟨nofun, fun e' h ↦ ?_, nofun⟩
      obtain rfl := Except.error.inj h
      exact ⟨.read e t hread, hside.file?_read s w.path _ t hread⟩
    | ok found =>
      obtain ⟨hok, herror⟩ := hside.leaves_decided hp hread lastSeen policy
      exact ⟨hok, herror, nofun⟩

theorem leaves_lead_deploy_foreign :
    let done := rehearsal.lead (checkedOut.deploy .builtin none .overwrite) foreign
    rehearsal.IsStore ∧
    ∃ report, done.1 = .ok report ∧
      rehearsal.Leaves checkedOut .builtin foreign done.2.1 done.2.2 report := by
  intro done
  have hdone : done.1.isOk := by decide +kernel
  cases hreport : done.1 with
  | error e => rw [hreport] at hdone; cases hdone
  | ok report =>
    exact ⟨isStore_rehearsal, report, rfl,
      (leaves_lead_deploy isStore_rehearsal checkedOut .builtin none .overwrite foreign).1
        report hreport⟩

end RemoteSide

end Blockflow
