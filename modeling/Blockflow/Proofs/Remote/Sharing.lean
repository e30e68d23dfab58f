import Blockflow.Block.Catalog
import Blockflow.Proofs.Remote.World

/-!
# No update is lost

While a session deploys, nothing but the end of the deployment changes what it remembers. So
whatever the other sessions and anyone else do meanwhile, a deployment replaces nothing but the
version that its session had seen last when it began.
-/

namespace Blockflow

/-! ### While a deployment is under way -/

/-- What a move does to a session. -/
inductive Client.Step (c : Client) : Client → Prop where
  /-- Nothing. -/
  | stay : Step c c
  /-- It changes the workflow, unless the session is busy. -/
  | withSession (s : Session) : Step c (c.withSession s)
  /-- It tells the version seen last, unless the session is busy. -/
  | remember (version : Option String) : Step c (c.remember version)
  /-- It begins a deployment, unless the session is busy. -/
  | deploy : Step c c.deploy
  /-- It begins to delete the file, unless the session is busy. -/
  | undeploy : Step c c.undeploy
  /-- It takes what the session is busy with further. -/
  | hear (rest : Rest) (h : c.rest = some rest) (luck : Luck) (r : Rehearsal) :
      Step c { c with rest := some (rest.advance luck r).1 }
  /-- It ends what the session is busy with. -/
  | finish : Step c c.finish

/-- Whether a session is as another one, with a deployment under way. -/
structure Client.Keeps (c d : Client) : Prop where
  /-- A deployment is under way. -/
  deploys : d.Deploys
  /-- The session is the same. -/
  session : d.session = c.session
  /-- No deployment has ended. -/
  results : d.results = c.results
  /-- The session was told nothing. -/
  given : d.given = c.given

namespace Client

variable {c d e : Client}

theorem Keeps.trans (h : c.Keeps d) (h' : d.Keeps e) : c.Keeps e :=
  ⟨h'.deploys, h'.session.trans h.session, h'.results.trans h.results, h'.given.trans h.given⟩

theorem Deploys.isSome (h : c.Deploys) : c.rest.isSome :=
  Option.isSome_iff_exists.mpr (h.imp' .deploy fun _ ↦ id)

/-- A session that begins a deployment is as it was before. -/
theorem keeps_deploy (h : c.rest.isNone) : c.Keeps c.deploy := by
  have hidle : ¬c.rest.isSome := by simp [Option.isNone_iff_eq_none.mp h]
  rw [Client.deploy, if_neg hidle]
  exact ⟨⟨_, rfl⟩, rfl, rfl, rfl⟩

theorem Deploys.results_finish (h : c.Deploys) :
    (∃ result, c.finish.results = result :: c.results) ∨ c.finish = c := by
  obtain ⟨talk, hrest⟩ := h
  unfold finish
  rw [hrest]
  split
  · exact .inl ⟨_, rfl⟩
  · exact .inl ⟨_, rfl⟩
  · next heq => cases heq
  · next heq => cases heq
  · exact .inr rfl

/-- A deployment that has failed leaves the session as it was. -/
theorem Deploys.session_finish (h : c.Deploys) {e : SyncError}
    (he : c.finish.results = .error e :: c.results) : c.finish.session = c.session := by
  obtain ⟨talk, hrest⟩ := h
  unfold finish at he ⊢
  simp only [hrest] at he ⊢
  split at he
  · cases he
  · rfl
  · next heq => cases heq
  · next heq => cases heq
  · rfl

/-- No move takes a result away. -/
theorem Step.results_suffix (h : c.Step d) : c.results <:+ d.results := by
  cases h with
  | stay => exact List.suffix_refl _
  | withSession s =>
    unfold Client.withSession
    split <;> exact List.suffix_refl _
  | remember version =>
    unfold Client.remember
    split <;> exact List.suffix_refl _
  | deploy =>
    unfold Client.deploy
    split <;> exact List.suffix_refl _
  | undeploy =>
    unfold Client.undeploy
    split <;> exact List.suffix_refl _
  | hear rest _ luck r => exact List.suffix_refl _
  | finish =>
    unfold Client.finish
    split
    · exact List.suffix_cons ..
    · exact List.suffix_cons ..
    all_goals exact List.suffix_refl _

/-- While a deployment is under way, nothing but its end changes the session. -/
theorem Step.keeps (h : c.Step d) (hdeploys : c.Deploys) :
    c.Keeps d ∨ ∃ result, d.results = result :: c.results := by
  have hrefl : c.Keeps c := ⟨hdeploys, rfl, rfl, rfl⟩
  have hbusy := hdeploys.isSome
  cases h with
  | stay => exact .inl hrefl
  | withSession s => exact .inl (by rwa [Client.withSession, if_pos hbusy])
  | remember version => exact .inl (by rwa [Client.remember, if_pos hbusy])
  | deploy => exact .inl (by rwa [Client.deploy, if_pos hbusy])
  | undeploy => exact .inl (by rwa [Client.undeploy, if_pos hbusy])
  | hear rest hrest luck r =>
    obtain ⟨talk, htalk⟩ := hdeploys
    obtain rfl := Option.some.inj (hrest.symm.trans htalk)
    exact .inl ⟨⟨_, rfl⟩, rfl, rfl, rfl⟩
  | finish =>
    rcases hdeploys.results_finish with hresults | hstays
    · exact .inr hresults
    · exact .inl (by rwa [hstays])

end Client

namespace World

variable {ι : Type} [DecidableEq ι] {w : World ι} {i : ι}

private theorem step_setClient (w : World ι) (i j : ι) {c : Client} (hc : (w.clients j).Step c) :
    (w.clients i).Step ((w.setClient j c).clients i) := by
  rw [clients_setClient]
  split
  · next heq => exact heq ▸ hc
  · exact .stay

theorem step_clients (w : World ι) (m : Move ι) (i : ι) :
    (w.clients i).Step ((w.step m).clients i) := by
  cases m with
  | edit j call n => exact step_setClient w i j (.withSession _)
  | undo j => exact step_setClient w i j (.withSession _)
  | redo j => exact step_setClient w i j (.withSession _)
  | remember j version => exact step_setClient w i j (.remember version)
  | deploy j => exact step_setClient w i j .deploy
  | undeploy j => exact step_setClient w i j .undeploy
  | answer j luck =>
    rw [step, answer]
    split
    · exact .stay
    · next rest hrest =>
      exact step_setClient { w with remote := _ } i j (.hear rest hrest luck w.remote)
  | finish j => exact step_setClient w i j .finish
  | write path content => exact .stay
  | delete path => exact .stay

theorem results_suffix_run (w : World ι) (moves : List (Move ι)) (i : ι) :
    (w.clients i).results <:+ ((w.run moves).clients i).results := by
  induction moves generalizing w with
  | nil => exact List.suffix_refl _
  | cons m moves ih => exact (w.step_clients m i).results_suffix.trans (ih (w.step m))

/-- As long as no deployment of a session has ended, the session is as it was. -/
theorem keeps_run (h : (w.clients i).Deploys) (moves : List (Move ι))
    (hresults : ((w.run moves).clients i).results = (w.clients i).results) :
    (w.clients i).Keeps ((w.run moves).clients i) := by
  induction moves generalizing w with
  | nil => exact ⟨h, rfl, rfl, rfl⟩
  | cons m moves ih =>
    rcases (w.step_clients m i).keeps h with hkeeps | ⟨result, hended⟩
    · exact hkeeps.trans (ih hkeeps.deploys (hresults.trans hkeeps.results.symm))
    · have hsuffix := (w.step m).results_suffix_run moves i
      rw [hended] at hsuffix
      have hlength := (hresults ▸ hsuffix : _ <:+ (w.clients i).results).length_le
      exact absurd hlength (Nat.not_succ_le_self _)

end World

/-! ### What a deployment replaces -/

/-- A file that a put replaces has the version that the put knows. -/
theorem Rehearsal.version_of_putFile {r : Rehearsal} {write : FileWrite} {f : RemoteFile}
    (hf : r.store.file? f.path = some f)
    (hgone : (r.reply (.putFile write)).2.store.file? f.path ≠ some f) :
    write.version = some f.version := by
  simp only [reply] at hgone
  split at hgone
  · next version store hput =>
    obtain ⟨hknown, -, rfl⟩ := Store.put_eq_ok.mp hput
    rw [Store.file?_write] at hgone
    split at hgone
    · next hpath =>
      rw [← hknown, ← hpath, Store.version?_eq, hf]
      rfl
    · exact absurd hf hgone
  · exact absurd hf hgone

/-- A call that turns out somehow leaves the remote side as it was, or does what it asks for. -/
theorem Luck.reply_snd (l : Luck) (r : Rehearsal) (c : Call) :
    (l.reply r c).2 = r ∨ (l.reply r c).2 = (r.reply c).2 := by
  cases l with
  | answered => exact .inr rfl
  | failed e => exact .inl rfl
  | lost e => exact .inr rfl

namespace World

open Store

variable {ι : Type} [DecidableEq ι] {w : World ι} {i : ι} {f : RemoteFile}

/-- A deployment replaces nothing but the version that its session has seen last. -/
theorem IsSound.lastSeen_of_replaces (h : w.IsSound) (hdeploys : (w.clients i).Deploys)
    {luck : Luck} (hf : w.Replaces (.answer i luck) f) :
    (w.clients i).session.lastSeen = some f.version := by
  obtain ⟨log, -, hclients⟩ := h
  obtain ⟨hthere, hgone⟩ := hf
  obtain ⟨talk, hrest⟩ := hdeploys
  have hleft : (w.clients i).session.DeployRest (Logged log) talk := (hclients i).rest _ hrest
  simp only [World.step, World.answer, hrest] at hgone
  change ((Client.Rest.deploy talk).advance luck w.remote).2.store.file? f.path ≠ some f at hgone
  match talk, hleft with
  | .done _, _ => exact absurd hthere hgone
  | .ask (.wait _) _, _ => exact absurd hthere hgone
  | .ask (.call c) next, hleft =>
    change (luck.reply w.remote c).2.store.file? f.path ≠ some f at hgone
    rcases luck.reply_snd w.remote c with hsame | hreply
    · rw [hsame] at hgone
      exact absurd hthere hgone
    · rw [hreply] at hgone
      obtain hread | ⟨p, replaced, hwrite, hseen⟩ := hleft.exists_call
      · cases hread
        exact absurd hthere hgone
      · cases hwrite
        exact hseen _ (Rehearsal.version_of_putFile hthere hgone)

omit [DecidableEq ι] in
/-- A file that has a version which a session remembers is one that the session was told of or has
synced. -/
theorem IsSound.synced_of_lastSeen (h : w.IsSound) (hf : w.file? f.path = some f)
    (hseen : (w.clients i).session.lastSeen = some f.version) :
    f.version ∈ (w.clients i).given ∨ f ∈ (w.clients i).synced := by
  obtain ⟨log, hlog, hclients⟩ := h
  refine ((hclients i).lastSeen _ hseen).imp_right ?_
  rintro ⟨g, hg, hversion⟩
  have heq := ((hclients i).synced g hg).eq_of_version_eq (hlog.logged _ f hf) hversion
  exact heq ▸ hg

/-- Whether a world comes about by some moves from one where no session is busy. -/
def IsReachable (w : World ι) : Prop :=
  ∃ files sessions moves, w = (start files sessions).run moves

/-- Whether a world comes about by some moves after a session that was not busy has begun a
deployment, and the deployment has not ended meanwhile. -/
def IsDeploying (w : World ι) (i : ι) (v : World ι) : Prop :=
  (w.clients i).rest.isNone ∧ (∃ moves, v = (w.step (.deploy i)).run moves) ∧
    (v.clients i).results = (w.clients i).results

theorem IsReachable.isSound (h : w.IsReachable) : w.IsSound := by
  obtain ⟨files, sessions, moves, rfl⟩ := h
  exact (isSound_start files sessions).run moves

theorem IsDeploying.keeps {v : World ι} (h : w.IsDeploying i v) :
    (w.clients i).Keeps (v.clients i) := by
  obtain ⟨hidle, ⟨moves, rfl⟩, hresults⟩ := h
  have hbegins : (w.clients i).Keeps ((w.step (.deploy i)).clients i) := by
    rw [clients_step_deploy]
    exact Client.keeps_deploy hidle
  exact hbegins.trans (keeps_run hbegins.deploys moves (hresults.trans hbegins.results.symm))

/-- Whatever the sessions and anyone else have done before a deployment begins, and whatever they do
until it ends: what its calls replace is the version that the session had seen last when it began,
and that is one that the session has synced or was told of; and if the deployment fails, the session
is as it was. -/
theorem replaces_lastSeen (w v : World ι) (i : ι) (hw : w.IsReachable) (hv : w.IsDeploying i v) :
    (∀ luck f, v.Replaces (.answer i luck) f →
      (w.clients i).session.lastSeen = some f.version ∧
        (f.version ∈ (w.clients i).given ∨ f ∈ (w.clients i).synced)) ∧
    ∀ e, ((v.step (.finish i)).clients i).results = .error e :: (w.clients i).results →
      ((v.step (.finish i)).clients i).session = (w.clients i).session := by
  have hkeeps := hv.keeps
  have hsound : v.IsSound := by
    obtain ⟨-, ⟨moves, rfl⟩, -⟩ := hv
    exact (hw.isSound.step (.deploy i)).run moves
  constructor
  · intro luck f hf
    have hseen := hsound.lastSeen_of_replaces hkeeps.deploys hf
    have hsynced := hsound.synced_of_lastSeen hf.1 hseen
    rw [Client.synced, hkeeps.results, hkeeps.given] at hsynced
    exact ⟨hkeeps.session ▸ hseen, hsynced⟩
  · intro e he
    rw [clients_step_finish] at he ⊢
    rw [← hkeeps.results] at he
    exact (hkeeps.deploys.session_finish he).trans hkeeps.session

/-- A session with a trigger and a step. -/
private def opened : Session :=
  let block (id : String) (kind : Kind) : Block := ⟨id, kind.tag, .origin, .empty, none⟩
  (Session.start
    { id := "wf", name := "CI", description := ""
      blocks := [block "t" .triggerPush, block "c" .jobCheckout]
      connections := [⟨"1", "t", "out", "c", "in"⟩] } .builtin).1

/-- Of two sessions, one has deployed and has then changed a label. -/
private def relabelled : World Bool :=
  (start .empty fun _ ↦ opened).run
    [.deploy false, .answer false .answered, .answer false .answered, .finish false,
      .edit false (.updateLabel "c" (some "Sources")) 0]

/-- The session deploys again and has read the file; the other one has found a file that it does not
know. -/
private def reading : World Bool :=
  (relabelled.step (.deploy false)).run
    [.deploy true, .answer false .answered, .answer true .answered, .finish true]

theorem replaces_lastSeen_relabelled : relabelled.IsReachable ∧
    relabelled.IsDeploying false reading ∧ ∃ f, reading.Replaces (.answer false .answered) f ∧
      (relabelled.clients false).session.lastSeen = some f.version ∧
      (f.version ∈ (relabelled.clients false).given ∨
        f ∈ (relabelled.clients false).synced) := by
  have hw : relabelled.IsReachable := ⟨_, _, _, rfl⟩
  have hv : relabelled.IsDeploying false reading :=
    ⟨by decide +kernel, ⟨_, rfl⟩, by decide +kernel⟩
  have hthere : (reading.file? opened.workflow.path).map (·.version) = some "sha-0" := by
    decide +kernel
  have hgone : ((reading.step (.answer false .answered)).file? opened.workflow.path).map
      (·.version) = some "sha-1" := by
    decide +kernel
  obtain ⟨f, hf, hversion⟩ := Option.map_eq_some_iff.mp hthere
  have hpath : f.path = opened.workflow.path := path_of_file? hf
  have hreplaces : reading.Replaces (.answer false .answered) f := by
    refine ⟨hpath ▸ hf, fun hstays ↦ ?_⟩
    rw [← hpath, hstays, Option.map_some, hversion] at hgone
    exact absurd hgone (by decide)
  exact ⟨hw, hv, f, hreplaces,
    (replaces_lastSeen relabelled reading false hw hv).1 .answered f hreplaces⟩

end World

end Blockflow
