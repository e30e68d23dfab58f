import Blockflow.Proofs.Remote.Deploy
import Mathlib.Logic.Function.Basic

/-!
# Runs that are started side by side

Clients start runs of pipeline files, and so do events that no client knows of. Each client looks
for its run by the lists before and after. Main statement: after three calls a client has ended; it
has found the newest run of its file, and that is its own one exactly if no other run of the file
was started between its call to start one and its look at the list.
-/

namespace Blockflow

open Remote

/-- A run on the remote side. -/
structure StartedRun (ι : Type) where
  /-- What a list shows of it. -/
  summary : RunSummary
  /-- The pipeline file that it runs. -/
  file : String
  /-- The client that has asked for it, if one has. -/
  starter : Option ι

/-- The runs on a remote side, and what is left of what its clients do. -/
structure Race (ι : Type) where
  /-- The runs, the newest first. -/
  runs : List (StartedRun ι)
  /-- What is left of what each client does. -/
  talks : ι → Talk (Except SyncError Nat)

namespace Race

variable {ι : Type}

/-- The runs of a pipeline file, the newest first. -/
def runsOf (z : Race ι) (file : String) : List (StartedRun ι) := z.runs.filter (·.file = file)

/-- Whether no run has the number of this one. -/
def IsFresh (z : Race ι) (r : StartedRun ι) : Prop := ∀ s ∈ z.runs, s.summary.id ≠ r.summary.id

/-- With one run more. -/
def start (z : Race ι) (r : StartedRun ι) : Race ι := { z with runs := r :: z.runs }

section Step

variable [DecidableEq ι]

/-- With something else that is left of what a client does. -/
def goOn (z : Race ι) (i : ι) (talk : Talk (Except SyncError Nat)) : Race ι :=
  { z with talks := Function.update z.talks i talk }

/-- What happens in one moment. -/
inductive Moment (ι : Type) where
  /-- A run is started, for which no client has asked. -/
  | started
  /-- A call of a client is answered. -/
  | answered (i : ι)
  /-- A call of a client fails. -/
  | failed (i : ι) (e : RemoteError)
  /-- A client has waited. -/
  | waited (i : ι)

/-- Whether a client hears of its call in a moment. -/
def Moment.hears (i : ι) : Moment ι → Bool
  | .answered j | .failed j _ => j = i
  | .started | .waited _ => false

/-- How the runs and the clients go on in a moment. Every run that is started has a number of its
own. A call that fails may have started one nevertheless. -/
inductive Step : Moment ι → Race ι → Race ι → Prop where
  /-- A run is started, for which no client has asked. -/
  | started (z : Race ι) (r : StartedRun ι) (hstarter : r.starter = none) (hfresh : z.IsFresh r) :
    Step .started z (z.start r)
  /-- A client is told the runs of a file. -/
  | listed (z : Race ι) (i : ι) (file : String) (next : Answer (.call (.listRuns file)) → _)
    (h : z.talks i = .ask (.call (.listRuns file)) next) :
    Step (.answered i) z (z.goOn i (next (.ok ((z.runsOf file).map (·.summary)))))
  /-- A run is started for a client. -/
  | triggered (z : Race ι) (i : ι) (file ref : String) (inputs : Settings)
    (next : Answer (.call (.triggerRun file ref inputs)) → _) (r : StartedRun ι)
    (h : z.talks i = .ask (.call (.triggerRun file ref inputs)) next) (hfile : r.file = file)
    (hstarter : r.starter = some i) (hfresh : z.IsFresh r) :
    Step (.answered i) z ((z.start r).goOn i (next (.ok ())))
  /-- A call fails. -/
  | failed (z : Race ι) (i : ι) (c : Call) (next : Answer (.call c) → _) (e : RemoteError)
    (h : z.talks i = .ask (.call c) next) : Step (.failed i e) z (z.goOn i (next (.error e)))
  /-- A run is started for a client, but the client does not hear of it. -/
  | lost (z : Race ι) (i : ι) (file ref : String) (inputs : Settings)
    (next : Answer (.call (.triggerRun file ref inputs)) → _) (r : StartedRun ι) (e : RemoteError)
    (h : z.talks i = .ask (.call (.triggerRun file ref inputs)) next) (hfile : r.file = file)
    (hstarter : r.starter = some i) (hfresh : z.IsFresh r) :
    Step (.failed i e) z ((z.start r).goOn i (next (.error e)))
  /-- A client has waited. -/
  | waited (z : Race ι) (i : ι) (ms : Nat) (next : Answer (.wait ms) → _)
    (h : z.talks i = .ask (.wait ms) next) : Step (.waited i) z (z.goOn i (next ()))

/-- How the runs and the clients go on in some moments. -/
inductive Course (z : Race ι) : List (Moment ι) → Race ι → Prop where
  /-- Nothing has happened. -/
  | nil : Course z [] z
  /-- One moment more. -/
  | concat (before : List (Moment ι)) (m : Moment ι) (y y' : Race ι) (h : Course z before y)
    (hstep : Step m y y') : Course z (before ++ [m]) y'

/-- How many calls a client has heard of. -/
def heard (i : ι) (moments : List (Moment ι)) : Nat := moments.countP (·.hears i)

end Step

/-! ### What is left of a client that starts a run -/

variable (w : Workflow) (ref : String) (inputs : Settings) (lookUp : LookUp)

/-- What a client does that knows some runs: it starts one, and looks for one that it does not
know. -/
def dispatchKnowing (known : List Nat) : Procedure Nat := do
  let () ← Procedure.call (.triggerRun (fileName w.path) ref inputs)
  findRun (fileName w.path) known lookUp.delay (max lookUp.attempts 1)

theorem run_dispatch : (w.dispatch ref inputs lookUp).run =
    .ask (.call (.listRuns (fileName w.path))) fun
      | .error e => .done (.error (.remote e))
      | .ok known => (dispatchKnowing w ref inputs lookUp (known.map (·.id))).run := by
  rw [Workflow.dispatch, Procedure.run_call_bind]
  congr 1
  funext outcome
  cases outcome <;> rfl

theorem run_dispatchKnowing (known : List Nat) : (dispatchKnowing w ref inputs lookUp known).run =
    .ask (.call (.triggerRun (fileName w.path) ref inputs)) fun
      | .error e => .done (.error (.remote e))
      | .ok _ =>
        (findRun (fileName w.path) known lookUp.delay (max lookUp.attempts 1)).run := by
  rw [dispatchKnowing, Procedure.run_call_bind]
  congr 1
  funext outcome
  cases outcome <;> rfl

/-- A client looks at least once, and is done with the first run that it does not know. -/
theorem exists_run_findRun (known : List Nat) : ∃ rest : Talk (Except SyncError Nat),
    (findRun (fileName w.path) known lookUp.delay (max lookUp.attempts 1)).run =
      .ask (.call (.listRuns (fileName w.path))) fun
        | .error e => .done (.error (.remote e))
        | .ok runs =>
          match runs.find? fun r ↦ !known.contains r.id with
          | some r => .done (.ok r.id)
          | none => rest := by
  obtain ⟨attempts, hattempts⟩ : ∃ n, max lookUp.attempts 1 = n + 1 :=
    Nat.exists_eq_add_one.mpr (Nat.lt_of_lt_of_le Nat.one_pos (Nat.le_max_right ..))
  rw [hattempts, findRun, Procedure.run_call_bind]
  refine ⟨(do Procedure.wait lookUp.delay
              findRun (fileName w.path) known lookUp.delay attempts : Procedure Nat).run, ?_⟩
  congr 1
  funext outcome
  cases outcome with
  | error e => rfl
  | ok runs =>
    cases hfound : runs.find? fun r ↦ !known.contains r.id with
    | none => simp only [hfound]
    | some r =>
      simp only [hfound]
      rfl

/-! ### Where the run of a client stands -/

/-- The runs of a file, with the one that was started for a client and those since then. -/
structure Shows (z : Race ι) (i : ι) (file : String) (since : List (StartedRun ι))
    (own : StartedRun ι) (earlier : List (StartedRun ι)) : Prop where
  /-- These are the runs, the newest first. -/
  runs : z.runsOf file = since ++ own :: earlier
  /-- The one was started for the client. -/
  starter : own.starter = some i
  /-- No other one was. -/
  others : ∀ r ∈ since ++ earlier, r.starter ≠ some i
  /-- The runs since then have other numbers. -/
  apart : ∀ r ∈ since, r.summary.id ≠ own.summary.id

variable {w ref inputs lookUp} {z : Race ι} {i : ι} {file : String} {known : List Nat}
  {since earlier : List (StartedRun ι)} {own r : StartedRun ι}

theorem runsOf_start (z : Race ι) (r : StartedRun ι) (file : String) :
    (z.start r).runsOf file = if r.file = file then r :: z.runsOf file else z.runsOf file := by
  simp [runsOf, start, List.filter_cons]

theorem mem_runs_of_mem_runsOf (h : r ∈ z.runsOf file) : r ∈ z.runs := (List.mem_filter.mp h).1

/-- A run that is started for a client stands first. -/
theorem shows_start (hnone : ∀ s ∈ z.runs, s.starter ≠ some i) (hfile : r.file = file)
    (hstarter : r.starter = some i) : (z.start r).Shows i file [] r (z.runsOf file) where
  runs := by rw [runsOf_start, if_pos hfile, List.nil_append]
  starter := hstarter
  others s hs := hnone s (mem_runs_of_mem_runsOf hs)
  apart _ hs := absurd hs List.not_mem_nil

/-- The run that was started for a client stays where it is, behind those that are started then. -/
theorem Shows.start (h : z.Shows i file since own earlier) (hstarter : r.starter ≠ some i)
    (hfresh : z.IsFresh r) :
    (z.start r).Shows i file (if r.file = file then r :: since else since) own earlier := by
  have hown : own ∈ z.runsOf file := by simp [h.runs]
  split
  · next hfile =>
    exact ⟨by rw [runsOf_start, if_pos hfile, h.runs, List.cons_append], h.starter,
      List.forall_mem_cons.mpr ⟨hstarter, h.others⟩,
      List.forall_mem_cons.mpr
        ⟨(hfresh own (mem_runs_of_mem_runsOf hown)).symm, h.apart⟩⟩
  · next hfile =>
    exact ⟨by rw [runsOf_start, if_neg hfile, h.runs], h.starter, h.others, h.apart⟩

/-- The newest run is the first one in the list that is not known. -/
private theorem Shows.find?_eq (h : z.Shows i file since own earlier)
    (hunknown : ∀ r ∈ since ++ [own], r.summary.id ∉ known) :
    ((z.runsOf file).map (·.summary)).find? (fun r ↦ !known.contains r.id) =
      some (since.head?.getD own).summary := by
  have hhead : (since.head?.getD own).summary.id ∉ known := by
    refine hunknown _ ?_
    cases since <;> simp
  rw [h.runs]
  cases since <;> exact List.find?_cons_of_pos (by simpa using hhead)

/-- A run is the one that was started for a client exactly if none has been started since. -/
private theorem Shows.newest_eq_iff (h : z.Shows i file since own earlier) :
    (since.head?.getD own).summary.id = own.summary.id ↔ since = [] := by
  cases since with
  | nil => simp
  | cons r since => simpa using h.apart r List.mem_cons_self

/-! ### How far a client has come -/

variable (w ref inputs lookUp) in
/-- How far a client has come that starts a run, after it has heard of so many calls. -/
inductive Phase (i : ι) (z : Race ι) : Nat → Prop where
  /-- It will ask which runs there are. -/
  | listing (htalk : z.talks i = (w.dispatch ref inputs lookUp).run)
    (hnone : ∀ r ∈ z.runs, r.starter ≠ some i) : Phase i z 0
  /-- It knows some runs, and will start one. -/
  | starting (known : List Nat)
    (htalk : z.talks i = (dispatchKnowing w ref inputs lookUp known).run)
    (hnone : ∀ r ∈ z.runs, r.starter ≠ some i)
    (hknown : ∀ id ∈ known, ∃ s ∈ z.runs, s.summary.id = id) : Phase i z 1
  /-- One was started for it, and it will look for a run that it does not know. -/
  | looking (known : List Nat) (since : List (StartedRun ι)) (own : StartedRun ι)
    (earlier : List (StartedRun ι))
    (htalk : z.talks i =
      (findRun (fileName w.path) known lookUp.delay (max lookUp.attempts 1)).run)
    (hshows : z.Shows i (fileName w.path) since own earlier)
    (hknown : ∀ id ∈ known, ∃ s ∈ z.runs, s.summary.id = id)
    (hunknown : ∀ r ∈ since ++ [own], r.summary.id ∉ known) : Phase i z 2
  /-- It has ended. -/
  | ended (n : Nat) (result : Except SyncError Nat) (h : z.talks i = .done result) : Phase i z n

variable {n : Nat}

/-- It does not get further by what others start. -/
private theorem Phase.start (h : Phase w ref inputs lookUp i z n) (hstarter : r.starter ≠ some i)
    (hfresh : z.IsFresh r) : Phase w ref inputs lookUp i (z.start r) n := by
  have hmore {known : List Nat} (hknown : ∀ id ∈ known, ∃ s ∈ z.runs, s.summary.id = id) :
      ∀ id ∈ known, ∃ s ∈ (z.start r).runs, s.summary.id = id := fun id hid ↦
    let ⟨s, hs, hsid⟩ := hknown id hid
    ⟨s, List.mem_cons_of_mem _ hs, hsid⟩
  cases h with
  | listing htalk hnone => exact .listing htalk (List.forall_mem_cons.mpr ⟨hstarter, hnone⟩)
  | starting known htalk hnone hknown =>
    exact .starting known htalk (List.forall_mem_cons.mpr ⟨hstarter, hnone⟩) (hmore hknown)
  | looking known since own earlier htalk hshows hknown hunknown =>
    have hnew : r.summary.id ∉ known := fun hid ↦
      let ⟨s, hs, hsid⟩ := hknown _ hid
      hfresh s hs hsid
    refine .looking known _ own earlier htalk (hshows.start hstarter hfresh) (hmore hknown) ?_
    split
    · exact List.forall_mem_cons.mpr ⟨hnew, hunknown⟩
    · exact hunknown
  | ended n result h => exact .ended n result h

/-- It has ended, or it makes a call and ends if that fails. -/
private theorem Phase.talk_eq (h : Phase w ref inputs lookUp i z n) :
    (∃ result, z.talks i = .done result) ∨
      ∃ (c : Call) (next : Answer (.call c) → Talk (Except SyncError Nat)),
        z.talks i = .ask (.call c) next ∧ ∀ e, next (.error e) = .done (.error (.remote e)) := by
  cases h with
  | listing htalk => exact .inr ⟨_, _, htalk.trans (run_dispatch ..), fun _ ↦ rfl⟩
  | starting known htalk => exact .inr ⟨_, _, htalk.trans (run_dispatchKnowing ..), fun _ ↦ rfl⟩
  | looking known since own earlier htalk =>
    obtain ⟨rest, hrun⟩ := exists_run_findRun w lookUp known
    exact .inr ⟨_, _, htalk.trans hrun, fun _ ↦ rfl⟩
  | ended n result h => exact .inl ⟨result, h⟩

private theorem Phase.next_error (h : Phase w ref inputs lookUp i z n) {c : Call}
    {next : Answer (.call c) → Talk (Except SyncError Nat)}
    (hask : z.talks i = .ask (.call c) next) (e : RemoteError) :
    next (.error e) = .done (.error (.remote e)) := by
  obtain ⟨result, hdone⟩ | ⟨c, k, hcall, herror⟩ := h.talk_eq
  · exact nomatch hdone.symm.trans hask
  · rw [hcall] at hask
    cases hask
    exact herror e

/-- A client that starts a run does not wait, since it finds one at its first look. -/
private theorem Phase.talks_ne_wait (h : Phase w ref inputs lookUp i z n) (ms : Nat)
    (next : Answer (.wait ms) → Talk (Except SyncError Nat)) :
    z.talks i ≠ .ask (.wait ms) next := by
  intro hask
  obtain ⟨result, hdone⟩ | ⟨c, k, hcall, -⟩ := h.talk_eq
  · exact nomatch hdone.symm.trans hask
  · exact nomatch (Dialogue.ask.inj (hcall.symm.trans hask)).1

private theorem of_ask_listRuns_eq {file' : String}
    {k : Answer (.call (.listRuns file)) → Talk (Except SyncError Nat)}
    {next : Answer (.call (.listRuns file')) → Talk (Except SyncError Nat)}
    (h : (.ask (.call (.listRuns file)) k : Talk (Except SyncError Nat)) =
      .ask (.call (.listRuns file')) next) (runs : List RunSummary) :
    file = file' ∧ next (.ok runs) = k (.ok runs) := by
  obtain ⟨hcall, hnext⟩ := Dialogue.ask.inj h
  obtain rfl := Call.listRuns.inj (Question.call.inj hcall)
  rw [eq_of_heq hnext]
  exact ⟨rfl, rfl⟩

private theorem of_ask_triggerRun_eq {file' ref ref' : String} {inputs inputs' : Settings}
    {k : Answer (.call (.triggerRun file ref inputs)) → Talk (Except SyncError Nat)}
    {next : Answer (.call (.triggerRun file' ref' inputs')) → Talk (Except SyncError Nat)}
    (h : (.ask (.call (.triggerRun file ref inputs)) k : Talk (Except SyncError Nat)) =
      .ask (.call (.triggerRun file' ref' inputs')) next) :
    file = file' ∧ next (.ok ()) = k (.ok ()) := by
  obtain ⟨hcall, hnext⟩ := Dialogue.ask.inj h
  obtain ⟨rfl, rfl, rfl⟩ := Call.triggerRun.inj (Question.call.inj hcall)
  rw [eq_of_heq hnext]
  exact ⟨rfl, rfl⟩

section Step

variable [DecidableEq ι] {z' : Race ι}

theorem talks_goOn (z : Race ι) (i : ι) (talk : Talk (Except SyncError Nat)) :
    (z.goOn i talk).talks i = talk := Function.update_self ..

theorem Shows.goOn (h : z.Shows i file since own earlier) (j : ι)
    (talk : Talk (Except SyncError Nat)) : (z.goOn j talk).Shows i file since own earlier :=
  ⟨h.runs, h.starter, h.others, h.apart⟩

/-- It does not get further by what others do. -/
private theorem Phase.goOn_of_ne {j : ι} (h : Phase w ref inputs lookUp i z n) (hne : i ≠ j)
    (talk : Talk (Except SyncError Nat)) : Phase w ref inputs lookUp i (z.goOn j talk) n := by
  have htalks : (z.goOn j talk).talks i = z.talks i := Function.update_of_ne hne ..
  cases h with
  | listing htalk hnone => exact .listing (htalks.trans htalk) hnone
  | starting known htalk hnone hknown =>
    exact .starting known (htalks.trans htalk) hnone hknown
  | looking known since own earlier htalk hshows hknown hunknown =>
    exact .looking known since own earlier (htalks.trans htalk)
      (hshows.goOn ..) hknown hunknown
  | ended n result h => exact .ended n result (htalks.trans h)

private theorem Phase.failed (h : Phase w ref inputs lookUp i z n) {e : RemoteError}
    (hstep : Step (.failed i e) z z') : z'.talks i = .done (.error (.remote e)) := by
  cases hstep with
  | failed _ _ c next _ hask => rw [talks_goOn, h.next_error hask]
  | lost _ _ file ref inputs next r _ hask => rw [talks_goOn, h.next_error hask]

/-- What a client has found that has been answered and has ended with that: the newest run of its
file, not older than the one that was started for it. -/
def HasFound (z : Race ι) (i : ι) (file : String) (result : Except SyncError Nat) : Prop :=
  ∃ since own earlier, z.Shows i file since own earlier ∧
    result = .ok (since.head?.getD own).summary.id

/-- With every answer a client gets further, and it has found a run when it ends with one. -/
private theorem Phase.answered (h : Phase w ref inputs lookUp i z n)
    (hstep : Step (.answered i) z z') : Phase w ref inputs lookUp i z' (n + 1) ∧
      ∀ result, z'.talks i = .done result → z'.HasFound i (fileName w.path) result := by
  cases h with
  | listing htalk hnone =>
    cases hstep with
    | listed _ _ file next hask =>
      rw [htalk, run_dispatch] at hask
      obtain ⟨rfl, hnext⟩ := of_ask_listRuns_eq hask ((z.runsOf file).map (·.summary))
      dsimp only at hnext
      rw [hnext]
      refine ⟨.starting _ (talks_goOn ..) hnone fun id hid ↦ ?_, fun result hdone ↦ ?_⟩
      · obtain ⟨_, hs, rfl⟩ := List.mem_map.mp hid
        obtain ⟨r, hr, rfl⟩ := List.mem_map.mp hs
        exact ⟨r, mem_runs_of_mem_runsOf hr, rfl⟩
      · rw [talks_goOn, run_dispatchKnowing] at hdone
        cases hdone
    | triggered _ _ file ref inputs next r hask =>
      rw [htalk, run_dispatch] at hask
      exact nomatch Question.call.inj (Dialogue.ask.inj hask).1
  | starting known htalk hnone hknown =>
    cases hstep with
    | listed _ _ file next hask =>
      rw [htalk, run_dispatchKnowing] at hask
      exact nomatch Question.call.inj (Dialogue.ask.inj hask).1
    | triggered _ _ file ref inputs next r hask hfile hstarter hfresh =>
      rw [htalk, run_dispatchKnowing] at hask
      obtain ⟨rfl, hnext⟩ := of_ask_triggerRun_eq hask
      dsimp only at hnext
      rw [hnext]
      refine ⟨.looking known [] r (z.runsOf (fileName w.path)) (talks_goOn ..)
        ((shows_start hnone hfile hstarter).goOn ..) (fun id hid ↦ ?_) ?_,
        fun result hdone ↦ ?_⟩
      · obtain ⟨s, hs, hsid⟩ := hknown id hid
        exact ⟨s, List.mem_cons_of_mem _ hs, hsid⟩
      · refine List.forall_mem_singleton.mpr fun hmem ↦ ?_
        obtain ⟨s, hs, hsid⟩ := hknown _ hmem
        exact hfresh s hs hsid
      · obtain ⟨rest, hrun⟩ := exists_run_findRun w lookUp known
        rw [talks_goOn, hrun] at hdone
        cases hdone
  | looking known since own earlier htalk hshows hknown hunknown =>
    obtain ⟨rest, hrun⟩ := exists_run_findRun w lookUp known
    rw [hrun] at htalk
    cases hstep with
    | listed _ _ file next hask =>
      rw [htalk] at hask
      obtain ⟨rfl, hnext⟩ := of_ask_listRuns_eq hask ((z.runsOf file).map (·.summary))
      dsimp only at hnext
      rw [hshows.find?_eq hunknown] at hnext
      rw [hnext]
      refine ⟨.ended _ _ (talks_goOn ..), fun result hdone ↦ ⟨since, own, earlier,
        (hshows.goOn ..), ?_⟩⟩
      rw [talks_goOn] at hdone
      exact (Dialogue.done.inj hdone).symm
    | triggered _ _ file ref inputs next r hask =>
      rw [htalk] at hask
      exact nomatch Question.call.inj (Dialogue.ask.inj hask).1
  | ended n result h =>
    cases hstep with
    | listed _ _ file next hask => exact nomatch h.symm.trans hask
    | triggered _ _ file ref inputs next r hask => exact nomatch h.symm.trans hask

/-- Whatever happens, a client goes from phase to phase by what it hears. -/
private theorem Phase.step {m : Moment ι} (h : Phase w ref inputs lookUp i z n)
    (hstep : Step m z z') : Phase w ref inputs lookUp i z' (n + (m.hears i).toNat) := by
  -- of others a client notices at most that there is one run more
  have hother {j : ι} {r : StartedRun ι} (hij : i ≠ j) (hstarter : r.starter = some j)
      (hfresh : z.IsFresh r) : Phase w ref inputs lookUp i (z.start r) n :=
    h.start (fun hi ↦ hij (Option.some.inj (hi.symm.trans hstarter))) hfresh
  have hhears {j : ι} (hij : i ≠ j) : (decide (j = i)).toNat = 0 := by simp [Ne.symm hij]
  have hself : (decide (i = i)).toNat = 1 := by simp
  cases hstep with
  | started _ r hstarter hfresh => exact h.start (by rw [hstarter]; exact nofun) hfresh
  | listed _ j file next hask =>
    obtain rfl | hij := eq_or_ne i j
    · rw [Moment.hears, hself]
      exact (h.answered (.listed z i file next hask)).1
    · rw [Moment.hears, hhears hij]
      exact h.goOn_of_ne hij _
  | triggered _ j file ref inputs next r hask hfile hstarter hfresh =>
    obtain rfl | hij := eq_or_ne i j
    · rw [Moment.hears, hself]
      exact (h.answered (.triggered z i file ref inputs next r hask hfile hstarter hfresh)).1
    · rw [Moment.hears, hhears hij]
      exact (hother hij hstarter hfresh).goOn_of_ne hij _
  | failed _ j c next e hask =>
    obtain rfl | hij := eq_or_ne i j
    · exact .ended _ _ (h.failed (.failed z i c next e hask))
    · rw [Moment.hears, hhears hij]
      exact h.goOn_of_ne hij _
  | lost _ j file ref inputs next r e hask hfile hstarter hfresh =>
    obtain rfl | hij := eq_or_ne i j
    · exact .ended _ _ (h.failed (.lost z i file ref inputs next r e hask hfile hstarter hfresh))
    · rw [Moment.hears, hhears hij]
      exact (hother hij hstarter hfresh).goOn_of_ne hij _
  | waited _ j ms next hask =>
    obtain rfl | hij := eq_or_ne i j
    · exact absurd hask (h.talks_ne_wait ms next)
    · exact h.goOn_of_ne hij _

private theorem Phase.course {moments : List (Moment ι)} (h : Phase w ref inputs lookUp i z n)
    (hcourse : Course z moments z') : Phase w ref inputs lookUp i z' (n + heard i moments) := by
  induction hcourse with
  | nil => exact h
  | concat before m y y' _ hstep ih =>
    have hheard : heard i (before ++ [m]) = heard i before + (m.hears i).toNat := by
      cases hm : m.hears i <;> simp [heard, hm]
    rw [hheard, ← Nat.add_assoc]
    exact ih.step hstep

/-- Whatever else happens, a client that starts a run has ended after three calls. If the last one
has failed, so has the client. Else it has found the newest run of its file, and that is the run
that was started for it exactly if no other one of the file has been started since. -/
theorem dispatch_finds_newest (w : Workflow) (ref : String) (inputs : Settings) (lookUp : LookUp)
    (i : ι) (z z' : Race ι) (moments : List (Moment ι))
    (htalk : z.talks i = (w.dispatch ref inputs lookUp).run)
    (hnone : ∀ r ∈ z.runs, r.starter ≠ some i) (hcourse : Course z moments z') :
    (3 ≤ heard i moments → ∃ result, z'.talks i = .done result) ∧
    (∀ e z'', Step (.failed i e) z' z'' → z''.talks i = .done (.error (.remote e))) ∧
    ∀ result z'', Step (.answered i) z' z'' → z''.talks i = .done result →
      ∃ since own earlier, z''.Shows i (fileName w.path) since own earlier ∧
        result = .ok (since.head?.getD own).summary.id ∧
        (result = .ok own.summary.id ↔ since = []) := by
  have hphase : Phase w ref inputs lookUp i z' (0 + heard i moments) :=
    (Phase.listing htalk hnone).course hcourse
  refine ⟨fun hheard ↦ ?_, fun e z'' hstep ↦ hphase.failed hstep,
    fun result z'' hstep hdone ↦ ?_⟩
  · generalize hn : 0 + heard i moments = n at hphase
    cases hphase with
    | ended n result h => exact ⟨result, h⟩
    | _ => omega
  · obtain ⟨since, own, earlier, hshows, rfl⟩ := (hphase.answered hstep).2 result hdone
    refine ⟨since, own, earlier, hshows, rfl, ?_⟩
    rw [Except.ok.injEq, hshows.newest_eq_iff]

/-! ### Two clients that find one run -/

private theorem Step.list (h : z.talks i = (w.dispatch ref inputs lookUp).run) :
    Step (.answered i) z (z.goOn i (dispatchKnowing w ref inputs lookUp
      (((z.runsOf (fileName w.path)).map (·.summary)).map (·.id))).run) :=
  .listed z i _ _ (h.trans (run_dispatch ..))

private theorem Step.trigger (h : z.talks i = (dispatchKnowing w ref inputs lookUp known).run)
    (hfile : r.file = fileName w.path) (hstarter : r.starter = some i) (hfresh : z.IsFresh r) :
    Step (.answered i) z ((z.start r).goOn i
      (findRun (fileName w.path) known lookUp.delay (max lookUp.attempts 1)).run) :=
  .triggered z i _ ref inputs _ r (h.trans (run_dispatchKnowing ..)) hfile hstarter hfresh

private theorem Step.look
    (h : z.talks i =
      (findRun (fileName w.path) known lookUp.delay (max lookUp.attempts 1)).run)
    (hshows : z.Shows i (fileName w.path) since own earlier)
    (hunknown : ∀ r ∈ since ++ [own], r.summary.id ∉ known) :
    Step (.answered i) z (z.goOn i (.done (.ok (since.head?.getD own).summary.id))) := by
  obtain ⟨rest, hrun⟩ := exists_run_findRun w lookUp known
  have hstep := Step.listed z i _ _ (h.trans hrun)
  dsimp only at hstep
  rwa [hshows.find?_eq hunknown] at hstep

end Step

/-- A workflow of which only the file counts. -/
private def raced : Workflow := ⟨"wf", "CI", "", [], []⟩

/-- A run that was started for one of two clients. -/
private def startedFor (id : Nat) (i : Bool) : StartedRun Bool :=
  ⟨⟨id, .queued, none, some "main", default, none⟩, fileName raced.path, some i⟩

/-- Two clients that will start a run. -/
private def race : Race Bool := ⟨[], fun _ ↦ (raced.dispatch "main" .empty .initial).run⟩

/-- What is left of a client that knows of no runs. -/
private def knowingNone : Talk (Except SyncError Nat) :=
  (dispatchKnowing raced "main" .empty .initial []).run

/-- What is left of a client that looks for its run. -/
private def lookingForAny : Talk (Except SyncError Nat) :=
  (findRun (fileName raced.path) [] LookUp.initial.delay (max LookUp.initial.attempts 1)).run

/-- Both clients have asked which runs there are. -/
private def listed : Race Bool := (race.goOn false knowingNone).goOn true knowingNone

/-- For the first client a run has been started. -/
private def startedOne : Race Bool := (listed.start (startedFor 7 false)).goOn false lookingForAny

/-- For the second client a run has been started too. -/
private def startedTwo : Race Bool :=
  (startedOne.start (startedFor 9 true)).goOn true lookingForAny

/-- The first client has found a run. -/
private def foundOne : Race Bool := startedTwo.goOn false (.done (.ok 9))

/-- The second client has found a run too. -/
private def foundTwo : Race Bool := foundOne.goOn true (.done (.ok 9))

private theorem course_listed :
    Course race [.answered false, .answered true] listed :=
  .concat [.answered false] _ _ _ (.concat [] _ _ _ .nil (.list rfl)) (.list rfl)

private theorem course_startedOne :
    Course race [.answered false, .answered true, .answered false] startedOne := by
  have htalk : listed.talks false = (dispatchKnowing raced "main" .empty .initial []).run := rfl
  have hfresh : listed.IsFresh (startedFor 7 false) := fun s hs ↦ absurd hs List.not_mem_nil
  exact .concat _ _ _ _ course_listed (.trigger htalk rfl rfl hfresh)

private theorem isFresh_second : startedOne.IsFresh (startedFor 9 true) := by
  intro s hs
  obtain rfl := List.mem_singleton.mp hs
  exact (by decide : 7 ≠ 9)

private theorem course_startedTwo :
    Course race [.answered false, .answered true, .answered false, .answered true] startedTwo := by
  have htalk : startedOne.talks true = (dispatchKnowing raced "main" .empty .initial []).run := rfl
  exact .concat _ _ _ _ course_startedOne (.trigger htalk rfl rfl isFresh_second)

private theorem shows_startedOne :
    startedOne.Shows false (fileName raced.path) [] (startedFor 7 false) [] :=
  (shows_start (fun _ hs ↦ absurd hs List.not_mem_nil) rfl rfl).goOn ..

private theorem shows_first : startedTwo.Shows false (fileName raced.path) [startedFor 9 true]
    (startedFor 7 false) [] := by
  have hshows := shows_startedOne.start (r := startedFor 9 true) (by decide) isFresh_second
  have hfile : (startedFor 9 true).file = fileName raced.path := rfl
  rw [if_pos hfile] at hshows
  exact hshows.goOn ..

private theorem shows_second : startedTwo.Shows true (fileName raced.path) [] (startedFor 9 true)
    (startedOne.runsOf (fileName raced.path)) := by
  refine (shows_start (fun s hs ↦ ?_) rfl rfl).goOn ..
  obtain rfl := List.mem_singleton.mp hs
  decide

private theorem course_foundTwo : Course race [.answered false, .answered true, .answered false,
    .answered true, .answered false, .answered true] foundTwo := by
  have hfirst : startedTwo.talks false = lookingForAny := rfl
  have hsecond : foundOne.talks true = lookingForAny := rfl
  have hone : Step (.answered false) startedTwo foundOne :=
    .look hfirst shows_first (fun _ _ ↦ List.not_mem_nil)
  have htwo : Step (.answered true) foundOne foundTwo :=
    .look hsecond (shows_second.goOn ..) (fun _ _ ↦ List.not_mem_nil)
  exact .concat _ _ _ _ (.concat _ _ _ _ course_startedTwo hone) htwo

/-- The first client finds the run that was started for it, if it looks for it before another one is
started. -/
theorem dispatch_finds_newest_startedOne :
    Course race [.answered false, .answered true, .answered false] startedOne ∧
    ∃ z, Step (.answered false) startedOne z ∧ z.talks false = .done (.ok 7) ∧
      ∃ since own earlier, z.Shows false (fileName raced.path) since own earlier ∧
        (Except.ok 7 : Except SyncError Nat) = .ok (since.head?.getD own).summary.id := by
  have htalk : startedOne.talks false = lookingForAny := rfl
  have hstep : Step (.answered false) startedOne (startedOne.goOn false (.done (.ok 7))) :=
    .look htalk shows_startedOne (fun _ _ ↦ List.not_mem_nil)
  obtain ⟨since, own, earlier, hshows, hfound, -⟩ :=
    (dispatch_finds_newest raced "main" .empty .initial false race startedOne _ rfl
      (fun _ hr ↦ absurd hr List.not_mem_nil) course_startedOne).2.2 (.ok 7) _ hstep
      (talks_goOn ..)
  exact ⟨course_startedOne, _, hstep, talks_goOn .., since, own, earlier, hshows, hfound⟩

/-- Both clients find the run that was started for the second one, although each has had one
started. -/
theorem both_find_second : ∃ moments z, Course race moments z ∧
    (∀ i, race.talks i = (raced.dispatch "main" .empty .initial).run) ∧
    (∀ i, z.talks i = .done (.ok 9)) ∧
    z.Shows false (fileName raced.path) [startedFor 9 true] (startedFor 7 false) [] := by
  refine ⟨_, foundTwo, course_foundTwo, fun _ ↦ rfl, fun i ↦ ?_, (shows_first.goOn ..).goOn ..⟩
  cases i <;> rfl

end Race

end Blockflow
