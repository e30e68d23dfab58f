import Blockflow.Command.Terminal
import Blockflow.Proofs.Dialogue
import Blockflow.Proofs.Remote.Deploy

/-!
# Which runs are found

A run is started on any ref, but it is looked for among the runs of one branch. Main statement: a
command that starts a run finds it exactly if the ref is the branch of its client; else the run has
been started, and the command fails because there is none.
-/

namespace Blockflow

/-- The runs in a list that was asked for with a query, of all runs with the newest first: the ones
on the branch that the query names, as many of them as there is room for. -/
def RunSummary.listed (room : Nat) (query : List (String × String)) (runs : List RunSummary) :
    List RunSummary :=
  (runs.filter fun r ↦ (query.lookup "branch").all fun b ↦ r.branch = some b).take room

namespace RunSummary

variable {room : Nat} {g : GitHub.Client} {file : String} {before : List RunSummary}
  {run : RunSummary}

theorem listed_runsRequest (room : Nat) (g : GitHub.Client) (file : String)
    (runs : List RunSummary) : listed room (g.runsRequest file).query runs =
      (runs.filter fun r ↦ r.branch = some g.target.branch).take room := rfl

/-- A new run on the branch of a client is the one that its list did not show before. -/
theorem find?_listed_of_eq (hroom : 0 < room) (hbranch : run.branch = some g.target.branch)
    (hfresh : run.id ∉ before.map (·.id)) :
    (listed room (g.runsRequest file).query (run :: before)).find? (fun r ↦
      !((listed room (g.runsRequest file).query before).map (·.id)).contains r.id) = some run := by
  obtain ⟨room, rfl⟩ := Nat.exists_eq_add_one.mpr hroom
  have hunknown : run.id ∉ (listed (room + 1) (g.runsRequest file).query before).map (·.id) := by
    intro hmem
    obtain ⟨r, hr, hid⟩ := List.mem_map.mp hmem
    rw [listed_runsRequest] at hr
    exact hfresh (List.mem_map.mpr ⟨r, (List.mem_filter.mp (List.mem_of_mem_take hr)).1, hid⟩)
  have hlisted : listed (room + 1) (g.runsRequest file).query (run :: before) =
      run :: listed room (g.runsRequest file).query before := by
    simp [listed_runsRequest, hbranch]
  rw [hlisted, List.find?_cons_of_pos]
  simpa using hunknown

/-- A new run elsewhere is not shown to the client. -/
theorem find?_listed_of_ne (hbranch : run.branch ≠ some g.target.branch) :
    (listed room (g.runsRequest file).query (run :: before)).find? (fun r ↦
      !((listed room (g.runsRequest file).query before).map (·.id)).contains r.id) = none := by
  have hlisted : listed room (g.runsRequest file).query (run :: before) =
      listed room (g.runsRequest file).query before := by
    simp [listed_runsRequest, hbranch]
  rw [hlisted, List.find?_eq_none]
  intro r hr
  simpa using ⟨r, hr, rfl⟩

end RunSummary

namespace Command

open GitHub

/-- The world around a command, with the runs of a pipeline file in it. -/
structure RunServer (σ : Type) where
  /-- What a question is answered, and the world after it. -/
  answer (q : Question) : StateM σ (Answer q)
  /-- The runs, the newest first. -/
  runs : σ → List RunSummary
  /-- How many runs a list has room for. -/
  room : Nat

namespace RunServer

variable {σ α : Type} {server : RunServer σ} {g : Client} {file ref : String} {inputs : Settings}
  {before runs : List RunSummary} {run : RunSummary} {known : List Nat} {s : σ}

/-- Whether a client can have one run started on a ref, and no other run comes or goes. -/
structure Starts (server : RunServer σ) (g : Client) (file ref : String) (inputs : Settings)
    (before : List RunSummary) (run : RunSummary) : Prop where
  /-- A list has room for a run. -/
  room_pos : 0 < server.room
  /-- The request for the list can be written. -/
  isWritable_runs : (g.runsRequest file).isWritable = true
  /-- The request to start a run can be written. -/
  isWritable_trigger : (g.triggerRequest file ref inputs).isWritable = true
  /-- A list shows the runs that it is asked for. -/
  listed : ∀ s, value? file runsInterest runs? (server.answer (.send (g.runsRequest file)) s).1 =
    .ok (RunSummary.listed server.room (g.runsRequest file).query (server.runs s))
  /-- No run comes or goes when the list is asked for. -/
  runs_list : ∀ s, server.runs (server.answer (.send (g.runsRequest file)) s).2 = server.runs s
  /-- No run comes or goes while time passes. -/
  runs_wait : ∀ s ms, server.runs (server.answer (.wait ms) s).2 = server.runs s
  /-- The run is started when that is asked for. -/
  started : ∀ s, server.runs s = before →
    (∃ body, success? file (server.answer (.send (g.triggerRequest file ref inputs)) s).1 =
      .ok body) ∧
    server.runs (server.answer (.send (g.triggerRequest file ref inputs)) s).2 = run :: before
  /-- It runs on the ref. -/
  branch_eq : run.branch = some ref
  /-- It has a number of its own. -/
  fresh : run.id ∉ before.map (·.id)

/-- How the remote side answers a client. -/
def remote (server : RunServer σ) (g : Client) (q : Remote.Question) : StateM σ (Remote.Answer q) :=
  (Doing.remoteAnswer g q).lead server.answer

theorem lead_perform (p : Procedure α) :
    ((Doing.perform g p).run.lead server.answer).run s =
      let done := (p.run.lead (server.remote g)).run s
      (done.1.mapError .sync, done.2) := by
  have hbind : (Doing.perform g p).run =
      p.run.lead (Doing.remoteAnswer g) >>= fun x ↦ pure (x.mapError .sync) := rfl
  rw [hbind, Dialogue.lead_bind, Dialogue.lead_lead]
  rfl

theorem exchange_ask {r : Http.Request} (h : r.isWritable = true) :
    Client.exchange (fun r ↦ Command.ask (.send r)) r = Command.ask (.send r) := by
  rw [Client.exchange, if_pos h]

namespace Starts

/-- A list shows runs and changes none. -/
theorem remote_listRuns (h : server.Starts g file ref inputs before run) (s : σ) :
    ∃ t, server.remote g (.call (.listRuns file)) s =
        (.ok (RunSummary.listed server.room (g.runsRequest file).query (server.runs s)), t) ∧
      server.runs t = server.runs s := by
  refine ⟨(server.answer (.send (g.runsRequest file)) s).2, ?_, h.runs_list s⟩
  rw [remote, Doing.remoteAnswer, Client.answer, exchange_ask h.isWritable_runs, ← h.listed s]
  rfl

/-- The run is started. -/
theorem remote_triggerRun (h : server.Starts g file ref inputs before run)
    (hs : server.runs s = before) :
    ∃ t, server.remote g (.call (.triggerRun file ref inputs)) s = (.ok (), t) ∧
      server.runs t = run :: before := by
  obtain ⟨⟨body, hbody⟩, hruns⟩ := h.started s hs
  refine ⟨(server.answer (.send (g.triggerRequest file ref inputs)) s).2, ?_, hruns⟩
  have hok : (success? file (server.answer (.send (g.triggerRequest file ref inputs)) s).1).map
      (fun _ ↦ ()) = .ok () := by
    rw [hbody]
    rfl
  rw [remote, Doing.remoteAnswer, Client.answer, exchange_ask h.isWritable_trigger, ← hok]
  rfl

/-- Who looks for a run finds the first one in the list that is not known. -/
theorem lead_findRun_of_some (h : server.Starts g file ref inputs before run)
    (hs : server.runs s = runs) {r : RunSummary}
    (hfound : (RunSummary.listed server.room (g.runsRequest file).query runs).find?
      (fun r ↦ !known.contains r.id) = some r) (delay attempts : Nat) :
    ∃ t, ((findRun file known delay (attempts + 1)).run.lead (server.remote g)).run s =
        (.ok r.id, t) ∧ server.runs t = runs := by
  obtain ⟨t, hlist, ht⟩ := h.remote_listRuns s
  rw [hs] at hlist ht
  refine ⟨t, ?_, ht⟩
  rw [findRun, Procedure.lead_call_bind_of_ok hlist, hfound]
  rfl

/-- Who knows all the runs in the list finds none, however often they look. -/
theorem lead_findRun_of_none (h : server.Starts g file ref inputs before run)
    (hs : server.runs s = runs)
    (hnone : (RunSummary.listed server.room (g.runsRequest file).query runs).find?
      (fun r ↦ !known.contains r.id) = none) (delay attempts : Nat) :
    ∃ t, ((findRun file known delay attempts).run.lead (server.remote g)).run s =
        (.error (.remote (.notFound ("run dispatched for " ++ file))), t) ∧
      server.runs t = runs := by
  induction attempts generalizing s with
  | zero => exact ⟨s, rfl, hs⟩
  | succ attempts ih =>
    obtain ⟨t, hlist, ht⟩ := h.remote_listRuns s
    rw [hs] at hlist ht
    rw [findRun, Procedure.lead_call_bind_of_ok hlist, hnone]
    exact ih ((h.runs_wait t delay).trans ht)

end Starts

/-- A command that starts a run finds it exactly if the ref is the branch of its client. Else the
run has been started too, but there is none that the command could find. -/
theorem lead_perform_dispatch {w : Workflow}
    (h : server.Starts g (fileName w.path) ref inputs before run) (hs : server.runs s = before)
    (lookUp : LookUp) :
    let done := ((Doing.perform g (w.dispatch ref inputs lookUp)).run.lead server.answer).run s
    done.1 = (if ref = g.target.branch then .ok run.id
      else .error (.sync (.remote (.notFound ("run dispatched for " ++ fileName w.path))))) ∧
    server.runs done.2 = run :: before := by
  obtain ⟨t, hlist, ht⟩ := h.remote_listRuns s
  rw [hs] at hlist ht
  obtain ⟨u, htrigger, hu⟩ := h.remote_triggerRun ht
  obtain ⟨attempts, hattempts⟩ : ∃ n, max lookUp.attempts 1 = n + 1 :=
    Nat.exists_eq_add_one.mpr (Nat.lt_of_lt_of_le Nat.one_pos (Nat.le_max_right ..))
  intro done
  simp only [done, lead_perform, Workflow.dispatch, hattempts]
  rw [Procedure.lead_call_bind_of_ok hlist, Procedure.lead_call_bind_of_ok htrigger]
  by_cases href : ref = g.target.branch
  · have hbranch : run.branch = some g.target.branch := h.branch_eq.trans (congrArg some href)
    obtain ⟨v, hsearch, hv⟩ := h.lead_findRun_of_some hu
      (RunSummary.find?_listed_of_eq h.room_pos hbranch h.fresh) lookUp.delay attempts
    rw [hsearch, if_pos href]
    exact ⟨rfl, hv⟩
  · have hbranch : run.branch ≠ some g.target.branch := fun heq ↦
      href (Option.some.inj (h.branch_eq.symm.trans heq))
    obtain ⟨v, hsearch, hv⟩ := h.lead_findRun_of_none hu
      (RunSummary.find?_listed_of_ne hbranch) lookUp.delay (attempts + 1)
    rw [hsearch, if_neg href]
    exact ⟨rfl, hv⟩

/-! ### A run beside the branch -/

/-- A client for the branch `main`. -/
private def mainClient : Client :=
  ⟨{ Target.initial with owner := "acme", repo := "site" }, none⟩

/-- A workflow of which only the file counts. -/
private def dispatched : Workflow := ⟨"wf", "CI", "", [], []⟩

/-- A run on a ref, which is still in the queue. -/
private def queuedRun (ref : String) : RunSummary := ⟨7, .queued, none, some ref, default, none⟩

/-- A ref, which is the branch of the client or not. -/
private def refOf (onBranch : Bool) : String := if onBranch then "main" else "dev"

/-- A world in which a run can be started on a ref. -/
private def oneRun (ref : String) : RunServer Bool where
  answer
    | .find _ => pure none
    | .read _ => pure (.ok "")
    | .write .. => pure (.ok ())
    | .token => pure none
    | .send r => fun started ↦
      if r.method.isSafe then
        let shown := RunSummary.listed runsPerPage r.query (if started then [queuedRun ref] else [])
        let body : Json := .obj [("workflow_runs", .arr (shown.map RunSummary.toJson))]
        (.answered 200 (.whole body.compact), started)
      else (.answered 204 (.whole ""), true)
    | .wait _ => pure ()
    | .now => pure default
    | .freshId => pure ""
    | .print _ => pure ()
  runs started := if started then [queuedRun ref] else []
  room := runsPerPage

private theorem eq_ok_of_toOption {ε β : Type} {x : Except ε β} {b : β}
    (h : x.toOption = some b) : x = .ok b := by
  cases x <;> cases h
  rfl

private theorem starts_oneRun (onBranch : Bool) :
    (oneRun (refOf onBranch)).Starts mainClient (fileName dispatched.path) (refOf onBranch) .empty
      [] (queuedRun (refOf onBranch)) where
  room_pos := Nat.zero_lt_succ 19
  isWritable_runs := by decide +kernel
  isWritable_trigger := by
    revert onBranch
    decide +kernel
  listed s := by
    have hlisted : ∀ onBranch s, (value? (fileName dispatched.path) runsInterest runs?
        ((oneRun (refOf onBranch)).answer
          (.send (mainClient.runsRequest (fileName dispatched.path))) s).1).toOption =
        some (RunSummary.listed runsPerPage
          (mainClient.runsRequest (fileName dispatched.path)).query
          ((oneRun (refOf onBranch)).runs s)) := by
      decide +kernel
    exact eq_ok_of_toOption (hlisted onBranch s)
  runs_list _ := rfl
  runs_wait _ _ := rfl
  started
    | false, _ => ⟨⟨_, rfl⟩, rfl⟩
    | true, h => by cases h
  branch_eq := rfl
  fresh := List.not_mem_nil

theorem lead_perform_dispatch_onBranch :
    (oneRun "main").Starts mainClient (fileName dispatched.path) "main" .empty []
      (queuedRun "main") ∧
    (((Doing.perform mainClient (dispatched.dispatch "main" .empty .initial)).run.lead
      (oneRun "main").answer).run false).1 = .ok 7 :=
  ⟨starts_oneRun true, (lead_perform_dispatch (starts_oneRun true) rfl .initial).1⟩

/-- A run that is started elsewhere is not found. -/
theorem not_forall_dispatch_finds : ¬∀ (server : RunServer Bool) (g : Client) (w : Workflow)
    (ref : String) (before : List RunSummary) (run : RunSummary) (s : Bool),
    server.Starts g (fileName w.path) ref .empty before run → server.runs s = before →
    (((Doing.perform g (w.dispatch ref .empty .initial)).run.lead server.answer).run s).1 =
      .ok run.id := by
  intro h
  have hfound := h (oneRun "dev") mainClient dispatched "dev" _ _ false (starts_oneRun false) rfl
  have hmissed : (((Doing.perform mainClient (dispatched.dispatch "dev" .empty .initial)).run.lead
      (oneRun "dev").answer).run false).1.isOk = false := by
    decide +kernel
  rw [hfound] at hmissed
  cases hmissed

end RunServer

end Command

end Blockflow
