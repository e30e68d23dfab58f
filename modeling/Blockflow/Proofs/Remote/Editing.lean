import Blockflow.Block.Catalog
import Blockflow.Proofs.Workflow.Replay
import Blockflow.Proofs.Workflow.Telling
import Blockflow.Proofs.Workflow.Timeline
import Mathlib.Data.List.Infix

/-!
# Editing in a session

A session keeps the same thing in several places: the workflow, the present state of its history,
the problems of the workflow, and the problems that were told last. Whatever is edited, undone and
done again, these stay in step: the problems are those of the workflow, they were told when they
changed and at no other time, and the present state is the workflow.
-/

namespace Blockflow

/-- The problems that an event tells, if it tells problems. -/
def Event.problems? : Event → Option (List Problem)
  | .problemsChanged _ problems => some problems
  | _ => none

/-- A call that edits the workflow of a session. -/
inductive SessionCall where
  /-- A change, with ids that count from a number on. -/
  | edit (call : EditCall) (n : Nat)
  /-- One state back. -/
  | undo
  /-- One state forth. -/
  | redo

/-- A change tells no problems. -/
theorem Workflow.Tells.filterMap_problems? {w v : Workflow} {events : List Event}
    (h : w.Tells v events) : events.filterMap Event.problems? = [] := by
  rw [List.filterMap_eq_nil_iff]
  cases h with
  | append | changeBlock | connect | removeConnection => simp [Event.problems?]
  | removeBlock =>
    intro e he
    rcases List.mem_append.mp he with hconnection | hblock
    · obtain ⟨c, -, rfl⟩ := List.mem_map.mp hconnection
      rfl
    · rw [List.mem_singleton.mp hblock]
      rfl

/-! ### States that can be gone back to -/

namespace History

variable {α : Type} {h k : History α} {a b : α}

/-- A new present state is one of the states then, and no other state is new. -/
theorem mem_toList_push (hb : b ∈ (h.push a).toList) : b ∈ h.toList ∨ b = a := by
  simp only [toList, push, Option.toList_some, List.append_nil, List.mem_append, List.mem_reverse,
    List.mem_singleton] at hb ⊢
  refine hb.imp_left fun hpast ↦ ?_
  have hshown := List.mem_append.mp (List.mem_of_mem_take hpast)
  tauto

/-- To go back makes the state there the present one, and no state gets lost. -/
theorem of_undo?_eq_some (hk : h.undo? = some (a, k)) :
    k.present = some a ∧ k.toList = h.toList := by
  rw [undo?] at hk
  split at hk
  · cases hk
  · next past hpast =>
    obtain ⟨rfl, rfl⟩ := Prod.mk.inj (Option.some.inj hk)
    exact ⟨rfl, by simp [toList, hpast]⟩

/-- To go forth makes the state there the present one, and no state gets lost. -/
theorem of_redo?_eq_some (hk : h.redo? = some (a, k)) :
    k.present = some a ∧ k.toList = h.toList := by
  rw [redo?] at hk
  split at hk
  · cases hk
  · next future hfuture =>
    obtain ⟨rfl, rfl⟩ := Prod.mk.inj (Option.some.inj hk)
    refine ⟨rfl, ?_⟩
    cases hpresent : h.present <;> simp [toList, hpresent, hfuture]

/-- Whether there is a workflow behind every state. -/
def IsReadable (h : History StoredWorkflow) : Prop := ∀ s ∈ h.toList, ∃ w, s.workflow? = some w

theorem IsReadable.push {h : History StoredWorkflow} (hr : h.IsReadable) {w : Workflow}
    (hw : StoredWorkflow.Keeps w) : (h.push (.ofWorkflow w)).IsReadable := by
  intro s hs
  rcases mem_toList_push hs with hold | hnew
  · exact hr s hold
  · exact ⟨w, hnew ▸ hw⟩

end History

/-! ### Calls of a session -/

namespace Session

/-- The session after a call, and what is told of it. A change that is refused changes nothing, nor
does one that has no result. -/
def perform (s : Session) : SessionCall → Session × List Event
  | .edit call n =>
    match (s.edit call).runFrom n with
    | some (.ok (_, t, events), _) => (t, events)
    | _ => (s, [])
  | .undo => s.undo.2
  | .redo => s.redo.2

/-- The session after calls, and what has been told since it was opened. -/
def edited (w : Workflow) (r : Registry) (calls : List SessionCall) : Session × List Event :=
  calls.foldl (fun told call ↦ ((told.1.perform call).1, told.2 ++ (told.1.perform call).2))
    (start w r)

/-- What is in step in a session of which the given events have been told. -/
structure InStep (r : Registry) (s : Session) (events : List Event) : Prop where
  /-- The types of blocks are still the same. -/
  registry_eq : s.registry = r
  /-- The problems are those of the workflow. -/
  problems_eq : s.problems = s.workflow.problems r
  /-- They were told when they changed, and at no other time. Before anything is told there are
  none. -/
  told : Told Event.problems? (· ≠ ·) [] s.problems events
  /-- The present state of the history is the workflow. -/
  present_eq : s.history.present.map (·.workflow?) = some (some s.workflow)

variable {r : Registry} {s t : Session} {events : List Event}

/-- A change that is refused is refused in a session for the same reason, and changes nothing. -/
theorem refused_of_error {call : EditCall} {n m : Nat} {error : EditError}
    (h : (call.run s.registry s.workflow).runFrom n = some (.error error, m)) :
    (s.edit call).runFrom n = some (.error error, m) ∧ s.perform (.edit call n) = (s, []) := by
  have hedit : (s.edit call).runFrom n = some (.error error, m) := by
    change ((call.run s.registry s.workflow).runFrom n).bind _ = _
    rw [h]
    rfl
  exact ⟨hedit, by rw [perform, hedit]⟩

@[simp] theorem history_revalidate (s : Session) : s.revalidate.1.history = s.history := by
  rw [revalidate]
  split <;> rfl

@[simp] theorem workflow_start (w : Workflow) (r : Registry) : (start w r).1.workflow = w :=
  workflow_revalidate _

/-- To find the problems again brings them in step with the workflow. -/
theorem inStep_revalidate (hr : s.registry = r)
    (htold : Told Event.problems? (· ≠ ·) [] s.problems events)
    (hpresent : s.history.present.map (·.workflow?) = some (some s.workflow)) :
    InStep r s.revalidate.1 (events ++ s.revalidate.2) := by
  subst hr
  rw [revalidate]
  split
  · next hsame => exact ⟨rfl, hsame.symm, by rwa [List.append_nil], hpresent⟩
  · next hchanged => exact ⟨rfl, rfl, htold.append_of_eq_singleton rfl (Ne.symm hchanged), hpresent⟩

theorem inStep_start {w : Workflow} (hw : StoredWorkflow.Keeps w) :
    InStep r (start w r).1 (start w r).2 := by
  have hrevalidated : InStep r (start w r).1 ([] ++ (start w r).2) :=
    inStep_revalidate rfl Told.nil (congrArg some hw)
  exact hrevalidated

theorem isReadable_start {w : Workflow} (hw : StoredWorkflow.Keeps w) :
    (start w r).1.history.IsReadable := by
  rw [start, history_revalidate]
  refine History.IsReadable.push (fun s hs ↦ ?_) hw
  cases hs

/-- A session that takes a changed workflow over is in step with it. -/
theorem InStep.commit (h : InStep r s events) {w : Workflow} (hw : StoredWorkflow.Keeps w) :
    InStep r (s.commit w).1 (events ++ (s.commit w).2) :=
  inStep_revalidate h.registry_eq h.told (congrArg some hw)

/-- A session that goes to another state of its history is in step with it. -/
theorem InStep.moveTo (h : InStep r s events)
    {state : Option (StoredWorkflow × History StoredWorkflow)}
    (hstate : ∀ stored k, state = some (stored, k) →
      k.present = some stored ∧ k.toList = s.history.toList)
    (hr : s.history.IsReadable) :
    InStep r (s.moveTo state).2.1 (events ++ (s.moveTo state).2.2) ∧
      (s.moveTo state).2.1.history.IsReadable := by
  match state with
  | none => exact ⟨by rwa [Session.moveTo, List.append_nil], hr⟩
  | some (stored, k) =>
    obtain ⟨hpresent, hlist⟩ := hstate stored k rfl
    have hk : k.IsReadable := by rwa [History.IsReadable, hlist]
    obtain ⟨w, hw⟩ := hk stored (by simp [History.toList, hpresent])
    rw [Session.moveTo, hw]
    refine ⟨inStep_revalidate h.registry_eq h.told ?_, by rwa [history_revalidate]⟩
    rw [hpresent, Option.map_some, hw]

/-- A call keeps a session in step, if the workflow comes back from its written form. -/
theorem InStep.perform (h : InStep r s events) (hr : s.history.IsReadable) {call : SessionCall}
    (hcall : StoredWorkflow.Keeps (s.perform call).1.workflow) :
    InStep r (s.perform call).1 (events ++ (s.perform call).2) ∧
      (s.perform call).1.history.IsReadable := by
  cases call with
  | edit call n =>
    rw [Session.perform] at hcall ⊢
    split at hcall
    · next answer t told m hrun =>
      obtain ⟨e, he, -, rfl, rfl⟩ := gives_edit.mp hrun
      rw [workflow_commit] at hcall
      have hedited : InStep r s (events ++ e.events) :=
        { h with told := h.told.append_of_eq_nil (EditCall.tells_of_gives he).filterMap_problems? }
      refine ⟨?_, ?_⟩
      · rw [← List.append_assoc]
        exact hedited.commit hcall
      · rw [Session.commit, history_revalidate]
        exact hr.push hcall
    · exact ⟨by rwa [List.append_nil], hr⟩
  | undo => exact h.moveTo (fun _ _ hk ↦ History.of_undo?_eq_some hk) hr
  | redo => exact h.moveTo (fun _ _ hk ↦ History.of_redo?_eq_some hk) hr

theorem edited_concat (w : Workflow) (calls : List SessionCall) (call : SessionCall) :
    edited w r (calls ++ [call]) = (((edited w r calls).1.perform call).1,
      (edited w r calls).2 ++ ((edited w r calls).1.perform call).2) :=
  List.foldl_concat ..

private theorem inStep_isReadable_edited {w : Workflow} {calls : List SessionCall}
    (hkeeps : ∀ earlier, earlier <+: calls → StoredWorkflow.Keeps (edited w r earlier).1.workflow) :
    InStep r (edited w r calls).1 (edited w r calls).2 ∧
      (edited w r calls).1.history.IsReadable := by
  induction calls using List.reverseRecOn with
  | nil =>
    have hw := hkeeps [] List.nil_prefix
    rw [edited, List.foldl_nil, workflow_start] at hw
    exact ⟨inStep_start hw, isReadable_start hw⟩
  | append_singleton calls call ih =>
    obtain ⟨hstep, hreadable⟩ := ih fun earlier hearlier ↦
      hkeeps earlier (hearlier.trans (List.prefix_append ..))
    have hcall := hkeeps _ (List.prefix_refl _)
    rw [edited_concat] at hcall ⊢
    exact hstep.perform hreadable hcall

/-- Whatever is edited, undone and done again in a session, its problems are those of the workflow
and were told when they changed only, and the present state of its history is the workflow, if the
workflows that it has had come back from their written forms. A change that is refused changes
nothing of the session, and nothing is told. -/
theorem inStep_edited (w : Workflow) (r : Registry) (calls : List SessionCall)
    (hkeeps : ∀ earlier, earlier <+: calls → StoredWorkflow.Keeps (edited w r earlier).1.workflow) :
    InStep r (edited w r calls).1 (edited w r calls).2 ∧
      ∀ call n error m,
        (EditCall.run r (edited w r calls).1.workflow call).runFrom n = some (.error error, m) →
          ((edited w r calls).1.edit call).runFrom n = some (.error error, m) ∧
            (edited w r calls).1.perform (.edit call n) = ((edited w r calls).1, []) := by
  obtain ⟨hstep, -⟩ := inStep_isReadable_edited hkeeps
  refine ⟨hstep, fun call n error m hrun ↦ refused_of_error ?_⟩
  rwa [hstep.registry_eq]

/-- A workflow with a connection between blocks that it does not have. -/
private def loose : Workflow :=
  { id := "", name := "", description := "", blocks := []
    connections := [⟨"1", "a", "out", "b", "in"⟩] }

/-- The connection is removed, and comes back. -/
private def tidying : List SessionCall := [.edit (.removeConnection "1") 0, .undo]

theorem inStep_edited_tidying :
    (∀ earlier, earlier <+: tidying →
        StoredWorkflow.Keeps (edited loose .builtin earlier).1.workflow) ∧
      InStep .builtin (edited loose .builtin tidying).1 (edited loose .builtin tidying).2 ∧
      ((edited loose .builtin tidying).1.perform (.edit (.removeBlock "a") 0)).2 = [] := by
  have hkeeps : ∀ earlier, earlier <+: tidying →
      StoredWorkflow.Keeps (edited loose .builtin earlier).1.workflow := by
    simp only [StoredWorkflow.Keeps, ← List.mem_inits]
    decide +kernel
  obtain ⟨hstep, hrefused⟩ := inStep_edited loose .builtin tidying hkeeps
  have hunknown : (EditCall.run .builtin (edited loose .builtin tidying).1.workflow
      (.removeBlock "a")).runFrom 0 = some (.error (.blockNotFound "a"), 0) := by
    have hback : (edited loose .builtin tidying).1.workflow = loose := by decide +kernel
    rw [hback]
    rfl
  exact ⟨hkeeps, hstep, congrArg Prod.snd (hrefused _ _ _ _ hunknown).2⟩

end Session

end Blockflow
