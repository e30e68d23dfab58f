import Blockflow.Proofs.Remote.Deploy
import Blockflow.Proofs.Remote.Session
import Blockflow.Proofs.Remote.Store
import Blockflow.Remote.Rehearsal
import Mathlib.Logic.Function.Basic

/-!
# Sessions that share a remote side

Any number of sessions share a remote side with anyone else who writes and deletes files there. To
deploy and to delete what was deployed takes several calls, and anything may happen between two of
them, and to each of them. Whatever is done, every file comes from one write, what a session is busy
with is its own, and what it remembers it was told or has synced.
-/

namespace Blockflow

/-! ### Sessions and the moves that are made -/

/-- How a call of the remote side turns out. -/
inductive Luck where
  /-- It is answered. -/
  | answered
  /-- It fails, and nothing happens. -/
  | failed (e : RemoteError)
  /-- What is asked for happens, but the answer is lost. -/
  | lost (e : RemoteError)

/-- What a call gives, and the remote side after it. -/
def Luck.reply (l : Luck) (r : Rehearsal) (c : Call) : c.Outcome × Rehearsal :=
  match l with
  | .answered => r.reply c
  | .failed e => (.error e, r)
  | .lost e => (.error e, (r.reply c).2)

/-- What is left of a talk when what it asks for has turned out somehow, and the remote side
then. -/
def Luck.advance {α : Type} (l : Luck) (r : Rehearsal) :
    Remote.Talk α → Remote.Talk α × Rehearsal
  | .done a => (.done a, r)
  | .ask (.call c) next => (next (l.reply r c).1, (l.reply r c).2)
  | .ask (.wait _) next => (next (), r)

/-- What is left of what a session does with its file. -/
inductive Client.Rest where
  /-- It deploys the workflow. -/
  | deploy (talk : Remote.Talk (Except SyncError (DeployReport × Session)))
  /-- It deletes the file. -/
  | undeploy (talk : Remote.Talk (Except SyncError (Bool × Session)))

/-- What is left when what is asked for has turned out somehow, and the remote side then. -/
def Client.Rest.advance (l : Luck) (r : Rehearsal) : Rest → Rest × Rehearsal
  | .deploy talk => (.deploy (l.advance r talk).1, (l.advance r talk).2)
  | .undeploy talk => (.undeploy (l.advance r talk).1, (l.advance r talk).2)

/-- A session that shares the remote side. -/
structure Client where
  /-- The session. -/
  session : Session
  /-- What is left of what it does with its file, while it is busy with that. -/
  rest : Option Client.Rest
  /-- What the deployments have given, the latest first. -/
  results : List (Except SyncError DeployReport)
  /-- The versions that the session was told to remember. -/
  given : List String

namespace Client

/-- A session before its first deployment. -/
def start (s : Session) : Client := ⟨s, none, [], s.lastSeen.toList⟩

/-- The files that the session has synced: those that its deployments have left behind. -/
def synced (c : Client) : List RemoteFile :=
  c.results.filterMap fun result ↦ result.toOption.map (·.file)

/-- Whether a deployment is under way. -/
def Deploys (c : Client) : Prop := ∃ talk, c.rest = some (.deploy talk)

/-- With another state of the session, unless it is busy. -/
def withSession (c : Client) (s : Session) : Client :=
  if c.rest.isSome then c else { c with session := s }

/-- Changes the workflow, with ids that count from the given number on. -/
def edit (c : Client) (call : EditCall) (n : Nat) : Client :=
  c.withSession <| match (c.session.edit call).runFrom n with
    | some (.ok (_, s, _), _) => s
    | _ => c.session

/-- Goes one state back. -/
def undo (c : Client) : Client := c.withSession c.session.undo.2.1

/-- Goes one state forth. -/
def redo (c : Client) : Client := c.withSession c.session.redo.2.1

/-- Remembers a version as the one seen last, or none, unless the session is busy. -/
def remember (c : Client) (version : Option String) : Client :=
  if c.rest.isSome then c
  else { c with session := c.session.withLastSeen version, given := version.toList ++ c.given }

/-- Begins a deployment, unless the session is busy. -/
def deploy (c : Client) : Client :=
  if c.rest.isSome then c else { c with rest := some (.deploy (c.session.deploy .fail).run) }

/-- Begins to delete the file, unless the session is busy. -/
def undeploy (c : Client) : Client :=
  if c.rest.isSome then c else { c with rest := some (.undeploy c.session.undeploy.run) }

/-- Takes the result of what the session was busy with, if it has ended. -/
def finish (c : Client) : Client :=
  match c.rest with
  | some (.deploy (.done (.ok (report, s)))) =>
    { c with session := s, rest := none, results := .ok report :: c.results }
  | some (.deploy (.done (.error e))) => { c with rest := none, results := .error e :: c.results }
  | some (.undeploy (.done (.ok (_, s)))) => { c with session := s, rest := none }
  | some (.undeploy (.done (.error _))) => { c with rest := none }
  | _ => c

end Client

/-- The remote side and the sessions that share it. -/
structure World (ι : Type) where
  /-- The remote side. -/
  remote : Rehearsal
  /-- The sessions. -/
  clients : ι → Client

/-- A move of a session, of what it is busy with or of anyone else. -/
inductive Move (ι : Type) where
  /-- A session changes its workflow. -/
  | edit (i : ι) (call : EditCall) (n : Nat)
  /-- A session goes one state back. -/
  | undo (i : ι)
  /-- A session goes one state forth. -/
  | redo (i : ι)
  /-- A session is told which version was seen last, or that none was. -/
  | remember (i : ι) (version : Option String)
  /-- A session begins a deployment. -/
  | deploy (i : ι)
  /-- A session begins to delete its file. -/
  | undeploy (i : ι)
  /-- The call that a session makes turns out somehow. -/
  | answer (i : ι) (luck : Luck)
  /-- A session takes the result of what it was busy with. -/
  | finish (i : ι)
  /-- Someone writes a file, whatever its version is. -/
  | write (path content : String)
  /-- Someone deletes a file. -/
  | delete (path : String)

namespace World

variable {ι : Type} [DecidableEq ι]

/-- Some files, and sessions of which none is busy. -/
def start (files : Dict String) (sessions : ι → Session) : World ι :=
  ⟨.start (.ofDict files) [] 0 [] [], fun i ↦ .start (sessions i)⟩

/-- A file on the remote side. -/
def file? (w : World ι) (path : String) : Option RemoteFile := w.remote.store.file? path

/-- The world with one session changed. -/
def setClient (w : World ι) (i : ι) (c : Client) : World ι :=
  { w with clients := Function.update w.clients i c }

/-- The world with other files. -/
def setStore (w : World ι) (store : Store) : World ι :=
  { w with remote := { w.remote with store } }

/-- The world after what a session asks for has turned out somehow. -/
def answer (w : World ι) (i : ι) (luck : Luck) : World ι :=
  match (w.clients i).rest with
  | none => w
  | some rest =>
    { w with remote := (rest.advance luck w.remote).2 }.setClient i
      { w.clients i with rest := some (rest.advance luck w.remote).1 }

/-- The world after a move. -/
def step (w : World ι) : Move ι → World ι
  | .edit i call n => w.setClient i ((w.clients i).edit call n)
  | .undo i => w.setClient i (w.clients i).undo
  | .redo i => w.setClient i (w.clients i).redo
  | .remember i version => w.setClient i ((w.clients i).remember version)
  | .deploy i => w.setClient i (w.clients i).deploy
  | .undeploy i => w.setClient i (w.clients i).undeploy
  | .answer i luck => w.answer i luck
  | .finish i => w.setClient i (w.clients i).finish
  | .write path content => w.setStore (w.remote.store.write path content)
  | .delete path => w.setStore (w.remote.store.erase path)

/-- The world after some moves. -/
def run (w : World ι) (moves : List (Move ι)) : World ι := moves.foldl step w

/-- Whether a move replaces a file, or takes it away. -/
def Replaces (w : World ι) (m : Move ι) (f : RemoteFile) : Prop :=
  w.file? f.path = some f ∧ (w.step m).file? f.path ≠ some f

end World

/-! ### What calls tell -/

theorem Call.isTold_error (known : RemoteFile → Prop) (c : Call) (e : RemoteError) :
    c.IsTold known (.error e) := by
  cases c <;> trivial

open Store in
/-- The remote side tells what is so, and every file on it comes from a write. -/
theorem Rehearsal.reply_writtenAs {r : Rehearsal} {log : List RemoteFile}
    (h : r.store.WrittenAs log) (c : Call) :
    ∃ more, (r.reply c).2.store.WrittenAs (log ++ more) ∧
      c.IsTold (Logged (log ++ more)) (r.reply c).1 := by
  cases c with
  | getFile path =>
    refine ⟨[], by rwa [List.append_nil], ?_⟩
    rw [List.append_nil]
    simp only [reply]
    cases hfile : r.store.file? path with
    | none => trivial
    | some f => exact ⟨path_of_file? hfile, h.logged path f hfile⟩
  | putFile w =>
    simp only [reply]
    split
    · next version store hput =>
      obtain ⟨-, rfl, rfl⟩ := put_eq_ok.mp hput
      exact ⟨[⟨w.path, r.store.nextVersion, w.content⟩], h.write w.path w.content,
        h.logged_nextVersion⟩
    · exact ⟨[], by rwa [List.append_nil], trivial⟩
  | deleteFile path version message =>
    simp only [reply]
    split
    · next store hdelete =>
      obtain ⟨-, rfl⟩ := delete_eq_ok.mp hdelete
      exact ⟨[], by rw [List.append_nil]; exact h.erase path, trivial⟩
    · exact ⟨[], by rwa [List.append_nil], trivial⟩
  | listRuns file => exact ⟨[], by rwa [List.append_nil], trivial⟩
  | runDetail run =>
    refine ⟨[], ?_, by simp only [Call.IsTold]⟩
    rw [List.append_nil, reply]
    split <;> exact h
  | triggerRun file ref inputs => exact ⟨[], by rwa [List.append_nil], trivial⟩

open Store in
theorem Luck.reply_writtenAs {r : Rehearsal} {log : List RemoteFile}
    (h : r.store.WrittenAs log) (l : Luck) (c : Call) :
    ∃ more, (l.reply r c).2.store.WrittenAs (log ++ more) ∧
      c.IsTold (Logged (log ++ more)) (l.reply r c).1 := by
  obtain ⟨more, hwritten, htold⟩ := r.reply_writtenAs h c
  cases l with
  | answered => exact ⟨more, hwritten, htold⟩
  | failed e => exact ⟨[], by rwa [List.append_nil], c.isTold_error _ e⟩
  | lost e => exact ⟨more, hwritten, c.isTold_error _ e⟩

/-! ### What is always so -/

/-- Whether what is left is of a deployment of the session as it is, or of a deletion. -/
def Client.Rest.IsOf (s : Session) (known : RemoteFile → Prop) : Rest → Prop
  | .deploy talk => s.DeployRest known talk
  | .undeploy talk => Session.UndeployRest talk

namespace Client.Rest

open Store

variable {s : Session} {known known' : RemoteFile → Prop} {rest : Rest}

theorem IsOf.mono (h : rest.IsOf s known) (hknown : ∀ f, known f → known' f) :
    rest.IsOf s known' := by
  cases rest with
  | deploy talk => exact Session.DeployRest.mono h hknown
  | undeploy talk => exact h

/-- Whatever turns out, what is left then is of the same session, and every file comes from a
write. -/
theorem IsOf.advance {r : Rehearsal} {log : List RemoteFile} (h : rest.IsOf s (Logged log))
    (hlog : r.store.WrittenAs log) (l : Luck) :
    ∃ more, (rest.advance l r).2.store.WrittenAs (log ++ more) ∧
      (rest.advance l r).1.IsOf s (Logged (log ++ more)) := by
  have hnone : r.store.WrittenAs (log ++ []) := by rwa [List.append_nil]
  match rest, h with
  | .deploy (.done _), h => exact ⟨[], hnone, h.mono fun f hf ↦ hf.append []⟩
  | .deploy (.ask (.call c) next), h =>
    obtain ⟨more, hwritten, htold⟩ := l.reply_writtenAs hlog c
    exact ⟨more, hwritten, (Session.DeployRest.mono h fun f hf ↦ hf.append more).next htold⟩
  | .deploy (.ask (.wait _) _), h =>
    obtain hread | ⟨p, replaced, hwrite, -⟩ := Session.DeployRest.exists_call h
    · cases hread
    · cases hwrite
  | .undeploy (.done _), h => exact ⟨[], hnone, h⟩
  | .undeploy (.ask (.call c) next), .ask _ _ h =>
    obtain ⟨more, hwritten, -⟩ := l.reply_writtenAs hlog c
    exact ⟨more, hwritten, h _⟩
  | .undeploy (.ask (.wait _) next), .ask _ _ h => exact ⟨[], hnone, h ()⟩

end Client.Rest

/-- What holds of every session, given which files have been written. -/
structure Client.IsSound (known : RemoteFile → Prop) (c : Client) : Prop where
  /-- What the session is busy with is its own. -/
  rest : ∀ rest, c.rest = some rest → rest.IsOf c.session known
  /-- What the session has synced has been written. -/
  synced : ∀ f ∈ c.synced, known f
  /-- What the session remembers it was told, or has synced. -/
  lastSeen : ∀ version, c.session.lastSeen = some version →
    version ∈ c.given ∨ ∃ f ∈ c.synced, f.version = version

namespace Client

variable {known known' : RemoteFile → Prop} {c : Client}

theorem isSound_start (s : Session) : (start s).IsSound known where
  rest rest h := by cases h
  synced f h := by cases h
  lastSeen version h := .inl (Option.mem_toList.mpr h)

theorem IsSound.mono (h : c.IsSound known) (hknown : ∀ f, known f → known' f) :
    c.IsSound known' where
  rest rest hrest := (h.rest rest hrest).mono hknown
  synced f hf := hknown f (h.synced f hf)
  lastSeen := h.lastSeen

theorem IsSound.withSession (h : c.IsSound known) {s : Session}
    (hs : s.lastSeen = c.session.lastSeen) : (c.withSession s).IsSound known := by
  unfold Client.withSession
  split
  · exact h
  · next hidle =>
    refine ⟨fun rest hrest ↦ ?_, h.synced, fun version hv ↦ h.lastSeen version (hs ▸ hv)⟩
    exact absurd (Option.isSome_iff_exists.mpr ⟨rest, hrest⟩) hidle

theorem IsSound.edit (h : c.IsSound known) (call : EditCall) (n : Nat) :
    (c.edit call n).IsSound known := by
  refine h.withSession ?_
  split
  · next hgives => exact Session.lastSeen_edit hgives
  · rfl

theorem IsSound.remember (h : c.IsSound known) (version : Option String) :
    (c.remember version).IsSound known := by
  unfold Client.remember
  split
  · exact h
  · next hidle =>
    refine ⟨fun rest hrest ↦ ?_, h.synced, fun v hv ↦ .inl ?_⟩
    · exact absurd (Option.isSome_iff_exists.mpr ⟨rest, hrest⟩) hidle
    · exact List.mem_append_left _ (Option.mem_toList.mpr hv)

theorem IsSound.deploy (h : c.IsSound known) : c.deploy.IsSound known := by
  unfold Client.deploy
  split
  · exact h
  · refine ⟨fun rest hrest ↦ ?_, h.synced, h.lastSeen⟩
    obtain rfl := Option.some.inj hrest
    exact c.session.deployRest_run

theorem IsSound.undeploy (h : c.IsSound known) : c.undeploy.IsSound known := by
  unfold Client.undeploy
  split
  · exact h
  · refine ⟨fun rest hrest ↦ ?_, h.synced, h.lastSeen⟩
    obtain rfl := Option.some.inj hrest
    exact c.session.undeployRest_run

theorem IsSound.finish (h : c.IsSound known) : c.finish.IsSound known := by
  unfold Client.finish
  split
  · next report s hrest =>
    have hended : c.session.DeployRest known _ := h.rest _ hrest
    obtain ⟨hfile, rfl⟩ := hended.of_done
    refine ⟨nofun, List.forall_mem_cons.mpr ⟨hfile, h.synced⟩, ?_⟩
    intro version hv
    exact .inr ⟨report.file, List.mem_cons_self, Option.some.inj hv⟩
  · next e hrest => exact ⟨nofun, h.synced, h.lastSeen⟩
  · next removed s hrest =>
    have hended : Session.UndeployRest _ := h.rest _ hrest
    obtain ⟨-, hforgets⟩ := hended
    refine ⟨nofun, h.synced, fun version hv ↦ ?_⟩
    rw [hforgets removed s rfl] at hv
    cases hv
  · next e hrest => exact ⟨nofun, h.synced, h.lastSeen⟩
  · exact h

end Client

namespace World

open Store

variable {ι : Type} {w : World ι} {i : ι}

/-- What holds of the world: every file comes from a write, and every session is sound. -/
def IsSound (w : World ι) : Prop :=
  ∃ log, w.remote.store.WrittenAs log ∧ ∀ i, (w.clients i).IsSound (Logged log)

theorem isSound_start (files : Dict String) (sessions : ι → Session) :
    (start files sessions).IsSound := by
  obtain ⟨log, hlog⟩ := exists_writtenAs_ofDict files
  exact ⟨log, hlog, fun i ↦ Client.isSound_start (sessions i)⟩

variable [DecidableEq ι]

theorem clients_setClient (w : World ι) (i j : ι) (c : Client) :
    (w.setClient i c).clients j = if j = i then c else w.clients j :=
  Function.update_apply ..

theorem clients_step_deploy (w : World ι) (i : ι) :
    (w.step (.deploy i)).clients i = (w.clients i).deploy :=
  Function.update_self ..

theorem clients_step_finish (w : World ι) (i : ι) :
    (w.step (.finish i)).clients i = (w.clients i).finish :=
  Function.update_self ..

private theorem IsSound.setClient (h : w.IsSound) {c : Client}
    (hc : ∀ known, (w.clients i).IsSound known → c.IsSound known) : (w.setClient i c).IsSound := by
  obtain ⟨log, hlog, hclients⟩ := h
  refine ⟨log, hlog, fun j ↦ ?_⟩
  rw [clients_setClient]
  split
  · exact hc _ (hclients i)
  · exact hclients j

private theorem IsSound.answer (h : w.IsSound) (luck : Luck) : (w.answer i luck).IsSound := by
  obtain ⟨log, hlog, hclients⟩ := h
  unfold World.answer
  split
  · exact ⟨log, hlog, hclients⟩
  · next rest hrest =>
    obtain ⟨more, hwritten, hof⟩ := ((hclients i).rest rest hrest).advance hlog luck
    have hmore : ∀ j, (w.clients j).IsSound (Logged (log ++ more)) := fun j ↦
      (hclients j).mono fun f hf ↦ hf.append more
    refine ⟨log ++ more, hwritten, fun j ↦ ?_⟩
    rw [clients_setClient]
    split
    · refine ⟨fun left hleft ↦ ?_, (hmore i).synced, (hmore i).lastSeen⟩
      obtain rfl := Option.some.inj hleft
      exact hof
    · exact hmore j

/-- Whatever move is made, it stays so. -/
theorem IsSound.step (h : w.IsSound) (m : Move ι) : (w.step m).IsSound := by
  cases m with
  | edit i call n => exact h.setClient fun _ hc ↦ hc.edit call n
  | undo i => exact h.setClient fun _ hc ↦ hc.withSession (Session.lastSeen_moveTo _ _)
  | redo i => exact h.setClient fun _ hc ↦ hc.withSession (Session.lastSeen_moveTo _ _)
  | remember i version => exact h.setClient fun _ hc ↦ hc.remember version
  | deploy i => exact h.setClient fun _ hc ↦ hc.deploy
  | undeploy i => exact h.setClient fun _ hc ↦ hc.undeploy
  | answer i luck => exact h.answer luck
  | finish i => exact h.setClient fun _ hc ↦ hc.finish
  | write path content =>
    obtain ⟨log, hlog, hclients⟩ := h
    exact ⟨_, hlog.write path content, fun i ↦ (hclients i).mono fun f hf ↦ hf.append _⟩
  | delete path =>
    obtain ⟨log, hlog, hclients⟩ := h
    exact ⟨log, hlog.erase path, hclients⟩

/-- Whatever moves are made, it stays so. -/
theorem IsSound.run (h : w.IsSound) (moves : List (Move ι)) : (w.run moves).IsSound := by
  induction moves generalizing w with
  | nil => exact h
  | cons m moves ih => exact ih (h.step m)

end World

end Blockflow
