import Blockflow.Command.Run
import Blockflow.Proofs.Dialogue
import Blockflow.Proofs.Remote.Deploy

/-!
# What commands send

A request that does not only read may write a file, delete one or start a run. Whatever a command is
answered, it has sent no such request when it ends because the workflow has problems, unless it is
the command that starts a run: this one looks for problems only when it has started the run.
-/

namespace Blockflow.Command

open Dialogue GitHub

/-- The requests among questions that do not only read. -/
def mutations (asked : List Question) : List Http.Request :=
  asked.filterMap fun
    | .send r => if r.method.isSafe then none else some r
    | _ => none

variable {α β : Type} {asked first later : List Question} {problems : List Problem}
  {g : Client} {c : Call}

@[simp] theorem mutations_append (first later : List Question) :
    mutations (first ++ later) = mutations first ++ mutations later := List.filterMap_append

/-! ### What is sent for a call -/

/-- A request is sent, if it can be written. -/
theorem runs_exchange {r : Http.Request} {x : Http.Exchange}
    (h : (Client.exchange (fun r ↦ ask (.send r)) r).Runs asked x) :
    asked = [.send r] ∨ asked = [] ∧ x = .unwritten := by
  unfold Client.exchange at h
  split at h
  · exact .inl (runs_question.mp h)
  · exact .inr (runs_done.mp h)

theorem mutations_of_runs_exchange {r : Http.Request} (hr : r.method.isSafe = true)
    {x : Http.Exchange} (h : (Client.exchange (fun r ↦ ask (.send r)) r).Runs asked x) :
    mutations asked = [] := by
  rcases runs_exchange h with rfl | ⟨rfl, -⟩
  · simp [mutations, hr]
  · rfl

/-- A call that changes nothing is made with requests that only read. -/
theorem mutations_of_runs_answer (hc : c.isMutating = false) {outcome : c.Outcome}
    (h : (g.answer (fun r ↦ ask (.send r)) c).Runs asked outcome) : mutations asked = [] := by
  cases c with
  | getFile path =>
    rw [Client.answer, runs_bind_pure] at h
    obtain ⟨x, hsend, -⟩ := h
    exact mutations_of_runs_exchange rfl hsend
  | listRuns file =>
    rw [Client.answer, runs_bind_pure] at h
    obtain ⟨x, hsend, -⟩ := h
    exact mutations_of_runs_exchange rfl hsend
  | runDetail run =>
    rw [Client.answer, runs_bind] at h
    obtain ⟨x, first, later, rfl, hsend, hlater⟩ := h
    rw [mutations_append, mutations_of_runs_exchange rfl hsend, List.nil_append]
    split at hlater
    · rw [(runs_done.mp hlater).1]
      rfl
    · obtain ⟨y, hjobs, -⟩ := runs_bind_pure.mp hlater
      exact mutations_of_runs_exchange rfl hjobs
  | putFile | deleteFile | triggerRun => cases hc

/-- A run is started with one request. -/
theorem mutations_of_runs_triggerRun {file ref : String} {inputs : Settings}
    (h : (g.answer (fun r ↦ ask (.send r)) (.triggerRun file ref inputs)).Runs asked (.ok ())) :
    mutations asked = [g.triggerRequest file ref inputs] := by
  rw [Client.answer, runs_bind_pure] at h
  obtain ⟨x, hsend, hx⟩ := h
  rcases runs_exchange hsend with rfl | ⟨rfl, rfl⟩
  · rfl
  · cases hx

/-! ### What is asked before problems are reported -/

namespace Doing

/-- Whether nothing is sent but requests that only read. -/
def IsQuiet (d : Doing α) : Prop := ∀ asked x, d.run.Runs asked x → mutations asked = []

/-- Whether problems of a workflow are never the reason for a failure. -/
def NeverInvalid (d : Doing α) : Prop :=
  ∀ asked problems, ¬d.run.Runs asked (.error (.invalid problems))

/-- Whether nothing has been sent but requests that only read when problems of a workflow are the
reason for a failure. -/
def IsCareful (d : Doing α) : Prop :=
  ∀ asked problems, d.run.Runs asked (.error (.invalid problems)) → mutations asked = []

variable {d : Doing α} {f : α → Doing β}

theorem IsQuiet.isCareful (h : IsQuiet d) : IsCareful d := fun _ _ hruns ↦ h _ _ hruns

theorem NeverInvalid.isCareful (h : NeverInvalid d) : IsCareful d :=
  fun _ _ hruns ↦ absurd hruns (h _ _)

/-- If problems are never the reason for the first part to fail, they are reported by the second. -/
theorem NeverInvalid.of_bind (hd : NeverInvalid d)
    (h : (d >>= f).run.Runs asked (.error (.invalid problems))) :
    ∃ a first later, asked = first ++ later ∧ d.run.Runs first (.ok a) ∧
      (f a).run.Runs later (.error (.invalid problems)) := by
  rcases runs_run_bind.mp h with ⟨e, hfails, he⟩ | hlater
  · cases he
    exact absurd hfails (hd _ _)
  · exact hlater

theorem NeverInvalid.bind (hd : NeverInvalid d) (hf : ∀ a, NeverInvalid (f a)) :
    NeverInvalid (d >>= f) := by
  intro asked problems h
  obtain ⟨a, first, later, -, -, hlater⟩ := hd.of_bind h
  exact hf a _ _ hlater

theorem IsQuiet.isCareful_bind (hd : IsQuiet d) (hf : ∀ a, IsCareful (f a)) :
    IsCareful (d >>= f) := by
  intro asked problems h
  rcases runs_run_bind.mp h with ⟨e, hfails, -⟩ | ⟨a, first, later, rfl, hfirst, hlater⟩
  · exact hd _ _ hfails
  · rw [mutations_append, hd _ _ hfirst, hf a _ _ hlater]
    rfl

theorem IsQuiet.bind (hd : IsQuiet d) (hf : ∀ a, IsQuiet (f a)) : IsQuiet (d >>= f) := by
  intro asked x h
  rcases runs_run_bind.mp h with ⟨e, hfails, -⟩ | ⟨a, first, later, rfl, hfirst, hlater⟩
  · exact hd _ _ hfails
  · rw [mutations_append, hd _ _ hfirst, hf a _ _ hlater]
    rfl

/-- What is done in one case only, before what is done in both. -/
theorem IsQuiet.ite_bind {c : Prop} [Decidable c] {d : Doing Unit} {f : Unit → Doing β}
    (hd : IsQuiet d) (hf : ∀ u, IsQuiet (f u)) : IsQuiet (if c then d >>= f else f ()) := by
  split
  · exact hd.bind hf
  · exact hf ()

theorem NeverInvalid.ite_bind {c : Prop} [Decidable c] {d : Doing Unit} {f : Unit → Doing β}
    (hd : NeverInvalid d) (hf : ∀ u, NeverInvalid (f u)) :
    NeverInvalid (if c then d >>= f else f ()) := by
  split
  · exact hd.bind hf
  · exact hf ()

theorem isQuiet_ofExcept (x : Except Failure α) : IsQuiet (ofExcept x) := by
  intro asked y h
  rw [(runs_done.mp h).1]
  rfl

theorem neverInvalid_ofExcept {x : Except Failure α}
    (hx : ∀ problems, x ≠ .error (.invalid problems)) : NeverInvalid (ofExcept x) :=
  fun _ problems h ↦ hx problems (runs_done.mp h).2.symm

theorem isQuiet_pure (a : α) : IsQuiet (pure a) := isQuiet_ofExcept (.ok a)

theorem neverInvalid_pure (a : α) : NeverInvalid (pure a) :=
  neverInvalid_ofExcept (x := .ok a) nofun

theorem isQuiet_throw (e : Failure) : IsQuiet (throw e : Doing α) := isQuiet_ofExcept (.error e)

theorem neverInvalid_throw {e : Failure} (he : ∀ problems, e ≠ .invalid problems) :
    NeverInvalid (throw e : Doing α) :=
  neverInvalid_ofExcept (x := .error e) fun problems h ↦ he problems (Except.error.inj h)

theorem neverInvalid_forM {l : List β} {f : β → Doing PUnit} (hf : ∀ b, NeverInvalid (f b)) :
    NeverInvalid (l.forM f) := by
  induction l with
  | nil => exact neverInvalid_pure _
  | cons b l ih => exact (hf b).bind fun _ ↦ ih

theorem neverInvalid_lift (d : Talk α) : NeverInvalid (ExceptT.lift d) := by
  intro asked problems h
  obtain ⟨a, -, hx⟩ := runs_run_lift.mp h
  cases hx

theorem isQuiet_ask {q : Question} (hq : mutations [q] = []) : IsQuiet (ask q) := by
  intro asked x h
  obtain ⟨a, hasked, -⟩ := runs_run_lift.mp h
  rw [runs_question.mp hasked, hq]

theorem neverInvalid_ask (q : Question) : NeverInvalid (ask q) := neverInvalid_lift _

/-- Whether nothing is sent but requests that only read, and problems of a workflow are never the
reason for a failure. -/
structure IsHarmless (d : Doing α) : Prop where
  /-- Only requests that only read are sent. -/
  isQuiet : IsQuiet d
  /-- No failure is about problems of a workflow. -/
  neverInvalid : NeverInvalid d

theorem IsHarmless.bind (hd : IsHarmless d) (hf : ∀ a, IsHarmless (f a)) : IsHarmless (d >>= f) :=
  ⟨hd.isQuiet.bind fun a ↦ (hf a).isQuiet, hd.neverInvalid.bind fun a ↦ (hf a).neverInvalid⟩

theorem isHarmless_ask {q : Question} (hq : mutations [q] = []) : IsHarmless (ask q) :=
  ⟨isQuiet_ask hq, neverInvalid_ask q⟩

theorem isHarmless_ofExcept {x : Except Failure α}
    (hx : ∀ problems, x ≠ .error (.invalid problems)) : IsHarmless (ofExcept x) :=
  ⟨isQuiet_ofExcept x, neverInvalid_ofExcept hx⟩

theorem isHarmless_throw {e : Failure} (he : ∀ problems, e ≠ .invalid problems) :
    IsHarmless (throw e : Doing α) :=
  ⟨isQuiet_throw e, neverInvalid_throw he⟩

end Doing

open Doing

/-- To load a workflow changes nothing, and does not look for problems. -/
theorem isHarmless_loadWorkflow (path : String) : IsHarmless (loadWorkflow path) := by
  refine (isHarmless_ask rfl).bind fun text ↦ ?_
  split
  · exact isHarmless_throw nofun
  · split
    · exact isHarmless_throw nofun
    · next j _ =>
      refine isHarmless_ofExcept fun problems h ↦ ?_
      cases hload : Workflow.load .builtin j <;> rw [hload] at h <;> cases h

/-- To connect changes nothing, and does not look for problems. -/
theorem isHarmless_connect (config : String) : IsHarmless (connect config) := by
  refine (isHarmless_ask rfl).bind fun found ↦ ?_
  split
  · exact isHarmless_throw nofun
  · refine (isHarmless_ask rfl).bind fun token ↦ ?_
    split
    · exact isHarmless_throw nofun
    · exact isHarmless_ofExcept (x := .ok _) nofun

/-- What a client is asked to do fails for other reasons than the problems of a workflow. -/
theorem neverInvalid_perform (g : Client) (p : Procedure α) : NeverInvalid (perform g p) := by
  intro asked problems h
  obtain ⟨x, first, later, -, -, hlater⟩ := runs_bind.mp h
  cases x <;> cases (runs_done.mp hlater).2

/-- Whoever follows a run reports the problems of its workflow before anything is asked. -/
theorem isCareful_followRun (polls : Nat) (w : Workflow) (g : Client) (options : Options)
    (run : Nat) : IsCareful (followRun polls w g options run) := by
  refine (isQuiet_ofExcept _).isCareful_bind fun pipeline ↦ NeverInvalid.isCareful ?_
  refine (neverInvalid_ask _).bind fun id ↦ (neverInvalid_ask _).bind fun now ↦ ?_
  refine (neverInvalid_lift _).bind fun ⟨finished, t⟩ ↦ ?_
  exact (neverInvalid_ask _).ite_bind fun _ ↦ neverInvalid_pure _

/-- Every command but the one that starts a run reports problems before it sends a request that does
not only read. -/
theorem isCareful_perform (polls : Nat) (o : Order) (ho : ∀ file ref, o.action ≠ .run file ref) :
    IsCareful (o.perform polls) := by
  unfold Order.perform
  split
  · refine NeverInvalid.isCareful (NeverInvalid.bind ?_ fun _ ↦ neverInvalid_pure _)
    exact neverInvalid_forM fun _ ↦ neverInvalid_ask _
  · refine ((isHarmless_loadWorkflow _).isQuiet.bind fun w ↦ ?_).isCareful
    refine (isQuiet_ask rfl).ite_bind fun _ ↦ (isQuiet_throw _).ite_bind fun _ ↦ ?_
    exact (isQuiet_ask rfl).ite_bind fun _ ↦ isQuiet_pure _
  · refine (isHarmless_loadWorkflow _).isQuiet.isCareful_bind fun w ↦ ?_
    refine (isQuiet_ofExcept _).isCareful_bind fun pipeline ↦ NeverInvalid.isCareful ?_
    dsimp only
    split
    · exact (neverInvalid_ask _).bind fun _ ↦ neverInvalid_pure _
    · refine (neverInvalid_ask _).bind fun written ↦ ?_
      split
      · exact (neverInvalid_throw (by simp)).bind fun _ ↦ neverInvalid_pure _
      · exact neverInvalid_pure _
  · refine (isHarmless_loadWorkflow _).isQuiet.isCareful_bind fun w ↦ ?_
    refine (isQuiet_ofExcept _).isCareful_bind fun pipeline ↦ ?_
    refine (isHarmless_connect _).isQuiet.isCareful_bind fun ⟨g, _⟩ ↦ NeverInvalid.isCareful ?_
    exact (neverInvalid_perform _ _).bind fun report ↦
      (neverInvalid_ask _).bind fun _ ↦ neverInvalid_pure _
  · refine (isHarmless_loadWorkflow _).isQuiet.isCareful_bind fun w ↦ ?_
    refine (isHarmless_connect _).isQuiet.isCareful_bind fun ⟨g, _⟩ ↦ NeverInvalid.isCareful ?_
    exact (neverInvalid_perform _ _).bind fun removed ↦
      (neverInvalid_ask _).bind fun _ ↦ neverInvalid_pure _
  · next file ref haction => exact absurd haction (ho file ref)
  · refine (isHarmless_loadWorkflow _).isQuiet.isCareful_bind fun w ↦ ?_
    refine (isHarmless_connect _).isQuiet.isCareful_bind fun ⟨g, options⟩ ↦ ?_
    exact isCareful_followRun _ _ _ _ _

/-! ### What is sent to start a run -/

/-- A procedure that begins with a call fails with it, or goes on from its reply. -/
private theorem runs_lead_call_bind {f : c.Reply → Procedure α} {x : Except SyncError α}
    (h : ((Procedure.call c >>= f).run.lead (remoteAnswer g)).Runs asked x) :
    ∃ outcome first later, asked = first ++ later ∧
      (g.answer (fun r ↦ ask (.send r)) c).Runs first outcome ∧
      match outcome with
      | .error e => later = [] ∧ x = .error (.remote e)
      | .ok reply => ((f reply).run.lead (remoteAnswer g)).Runs later x := by
  rw [Procedure.run_call_bind, lead_ask, runs_bind] at h
  obtain ⟨outcome, first, later, rfl, hfirst, hlater⟩ := h
  refine ⟨outcome, first, later, rfl, hfirst, ?_⟩
  cases outcome with
  | error e => exact runs_done.mp hlater
  | ok reply => exact hlater

/-- To look for a run changes nothing. -/
private theorem mutations_of_runs_findRun {file : String} {known : List Nat} {delay attempts : Nat}
    {x : Except SyncError Nat}
    (h : ((findRun file known delay attempts).run.lead (remoteAnswer g)).Runs asked x) :
    mutations asked = [] := by
  induction attempts generalizing asked with
  | zero =>
    rw [(runs_done.mp h).1]
    rfl
  | succ attempts ih =>
    obtain ⟨outcome, first, later, rfl, hcall, hlater⟩ := runs_lead_call_bind h
    rw [mutations_append, mutations_of_runs_answer rfl hcall, List.nil_append]
    cases outcome with
    | error e =>
      rw [hlater.1]
      rfl
    | ok runs =>
      dsimp only at hlater
      split at hlater
      · rw [(runs_done.mp hlater).1]
        rfl
      · obtain ⟨_, wait, last, rfl, hwait, hlast⟩ := runs_bind.mp hlater
        rw [mutations_append, runs_question.mp hwait]
        exact ih hlast

/-- A run is started with one request that does not only read. -/
theorem mutations_of_runs_dispatch {w : Workflow} {ref : String} {inputs : Settings}
    {lookUp : LookUp} {run : Nat}
    (h : (Doing.perform g (w.dispatch ref inputs lookUp)).run.Runs asked (.ok run)) :
    mutations asked = [g.triggerRequest (fileName w.path) ref inputs] := by
  obtain ⟨x, first, later, rfl, hfirst, hlater⟩ := runs_bind.mp h
  obtain ⟨rfl, hx⟩ := runs_done.mp hlater
  obtain rfl : x = .ok run := by
    cases x <;> cases hx
    rfl
  obtain ⟨known, listing, rest, rfl, hlist, hrest⟩ := runs_lead_call_bind hfirst
  rw [List.append_nil, mutations_append, mutations_of_runs_answer rfl hlist, List.nil_append]
  cases known with
  | error e => cases hrest.2
  | ok known =>
    obtain ⟨started, trigger, search, rfl, htrigger, hsearch⟩ := runs_lead_call_bind hrest
    cases started with
    | error e => cases hsearch.2
    | ok started =>
      rw [mutations_append, mutations_of_runs_triggerRun htrigger,
        mutations_of_runs_findRun hsearch]
      rfl

/-- The command that starts a run has started it when it reports problems. -/
theorem mutations_of_runs_run {polls : Nat} {o : Order} {file : String} {ref : Option String}
    (ho : o.action = .run file ref)
    (h : (o.perform polls).run.Runs asked (.error (.invalid problems))) :
    ∃ (g : Client) (w : Workflow) (branch : String),
      mutations asked = [g.triggerRequest (fileName w.path) branch .empty] := by
  unfold Order.perform at h
  rw [ho] at h
  obtain ⟨w, load, rest, rfl, hload, hrest⟩ := (isHarmless_loadWorkflow _).neverInvalid.of_bind h
  obtain ⟨⟨g, options⟩, config, rest, rfl, hconfig, hrest⟩ :=
    (isHarmless_connect _).neverInvalid.of_bind hrest
  obtain ⟨run, start, rest, rfl, hstart, hrest⟩ := (neverInvalid_perform _ _).of_bind hrest
  have hquiet : mutations rest = [] :=
    (isQuiet_ask rfl).isCareful_bind (fun _ ↦ isCareful_followRun _ _ _ _ _) _ _ hrest
  refine ⟨g, w, ref.getD options.target.branch, ?_⟩
  rw [mutations_append, mutations_append, mutations_append,
    (isHarmless_loadWorkflow _).isQuiet _ _ hload, (isHarmless_connect _).isQuiet _ _ hconfig,
    mutations_of_runs_dispatch hstart, hquiet]
  rfl

/-- If the program ends because of problems of the workflow, it has sent no request that does not
only read, unless it was to start a run: then it has started the run, and this is the only request
that does not only read. -/
theorem mutations_of_runs_program {polls : Nat} {args : List String}
    (h : (program polls args).Runs asked (.failed (.invalid problems))) :
    ∃ o, Order.ofArguments args = .ok o ∧
      ((∀ file ref, o.action ≠ .run file ref) ∧ mutations asked = [] ∨
        ∃ (file : String) (ref : Option String) (g : Client) (w : Workflow) (branch : String),
          o.action = .run file ref ∧
            mutations asked = [g.triggerRequest (fileName w.path) branch .empty]) := by
  unfold program at h
  split at h
  · obtain ⟨_, _, _, -, -, hlater⟩ := runs_bind.mp h
    cases (runs_done.mp hlater).2
  · cases (runs_done.mp h).2
  · next o ho =>
    obtain ⟨x, first, later, rfl, hfirst, hlater⟩ := runs_bind.mp h
    obtain ⟨rfl, rfl⟩ : later = [] ∧ x = .error (.invalid problems) := by
      split at hlater <;> obtain ⟨hnil, heq⟩ := runs_done.mp hlater
      · cases heq
      · cases heq
      · cases heq
        exact ⟨hnil, rfl⟩
    rw [List.append_nil]
    refine ⟨o, ho, ?_⟩
    by_cases hrun : ∃ file ref, o.action = .run file ref
    · obtain ⟨file, ref, haction⟩ := hrun
      obtain ⟨g, w, branch, hsent⟩ := mutations_of_runs_run haction hfirst
      exact .inr ⟨file, ref, g, w, branch, haction, hsent⟩
    · have hother : ∀ file ref, o.action ≠ .run file ref := fun file ref haction ↦
        hrun ⟨file, ref, haction⟩
      exact .inl ⟨hother, isCareful_perform polls o hother _ _ hfirst⟩

/-! ### A workflow without blocks -/

/-- The answer that lists runs. -/
private def listing (ids : List Nat) : Http.Exchange :=
  .answered 200 <| .whole <| Json.compact <| .obj [("workflow_runs", .arr <| ids.map fun id ↦
    .obj [("id", .ofNat id), ("status", .str "queued"),
      ("created_at", .str "2024-01-01T00:00:00Z")])]

/-- Answers where the workflow has no blocks, and a run can be started. -/
private def blankAnswer (asked : List Question) : (q : Question) → Answer q
  | .find _ => some <| .ok <| Json.compact <|
    .obj [("github", .obj [("owner", .str "a"), ("repo", .str "b")])]
  | .read _ => .ok <| Json.compact <| .obj [("id", .str "w"), ("name", .str "")]
  | .write .. => .ok ()
  | .token => none
  | .send _ =>
    let sent := asked.countP fun | .send _ => true | _ => false
    [listing [], .answered 204 (.whole ""), listing [1]].getD sent .broken
  | .wait _ => ()
  | .now => default
  | .freshId => ""
  | .print _ => ()

/-- What is wrong with a workflow without blocks. -/
private def noTrigger : Problem :=
  ⟨none, none, .missingTrigger, "workflow has no trigger block"⟩

theorem mutations_of_runs_deploy_blank : ∃ asked,
    (program 0 ["deploy", "f"]).Runs asked (.failed (.invalid [noTrigger])) ∧
      mutations asked = [] := by
  obtain ⟨asked, -, hruns⟩ := runs_lead blankAnswer (program 0 ["deploy", "f"]) []
  have hending : (((program 0 ["deploy", "f"]).lead (recorded blankAnswer)).run []).1 =
      .failed (.invalid [noTrigger]) := by decide +kernel
  rw [hending] at hruns
  obtain ⟨o, ho, ⟨-, hnone⟩ | ⟨file, ref, -, -, -, haction, -⟩⟩ := mutations_of_runs_program hruns
  · exact ⟨asked, hruns, hnone⟩
  · -- these arguments do not ask for a run
    have hdeploy : (Order.ofArguments ["deploy", "f"]).toOption =
        some ⟨defaultConfig, .deploy "f" false none⟩ := by decide +kernel
    rw [ho] at hdeploy
    cases hdeploy
    cases haction

/-- Problems may be reported when a run has been started. -/
theorem not_forall_mutations_eq_nil : ¬∀ polls args asked problems,
    (program polls args).Runs asked (.failed (.invalid problems)) → mutations asked = [] := by
  intro h
  obtain ⟨asked, hasked, hruns⟩ := runs_lead blankAnswer (program 0 ["run", "f"]) []
  have hending : (((program 0 ["run", "f"]).lead (recorded blankAnswer)).run []).1 =
      .failed (.invalid [noTrigger]) := by decide +kernel
  have hsent : mutations (((program 0 ["run", "f"]).lead (recorded blankAnswer)).run []).2 ≠ [] :=
    by decide +kernel
  rw [hending] at hruns
  rw [hasked, List.nil_append] at hsent
  exact hsent (h 0 ["run", "f"] asked [noTrigger] hruns)

end Blockflow.Command
