import Blockflow.Proofs.Workflow.Change
import Blockflow.Remote.Session

/-!
# What a session keeps

Finding the problems again leaves the workflow alone, and only deployments change the version that a
session has seen last.
-/

namespace Blockflow.Session

variable {s t : Session}

@[simp] theorem workflow_revalidate (s : Session) : s.revalidate.1.workflow = s.workflow := by
  rw [revalidate]
  split <;> rfl

@[simp] theorem lastSeen_revalidate (s : Session) : s.revalidate.1.lastSeen = s.lastSeen := by
  rw [revalidate]
  split <;> rfl

@[simp] theorem workflow_commit (s : Session) (w : Workflow) : (s.commit w).1.workflow = w :=
  workflow_revalidate _

@[simp] theorem lastSeen_commit (s : Session) (w : Workflow) :
    (s.commit w).1.lastSeen = s.lastSeen :=
  lastSeen_revalidate _

/-- A session makes a change as an editor does, and then takes the changed workflow over. -/
theorem gives_edit {call : EditCall} {n m : Nat} {answer : EditAnswer} {events : List Event} :
    (s.edit call).Gives n (answer, t, events) m ↔
      ∃ e, (call.run s.registry s.workflow).Gives n e m ∧ e.answer = answer ∧
        (s.commit e.workflow).1 = t ∧ e.events ++ (s.commit e.workflow).2 = events := by
  change (call.run s.registry s.workflow >>= fun e ↦ pure (e.answer, (s.commit e.workflow).1,
    e.events ++ (s.commit e.workflow).2)).Gives n (answer, t, events) m ↔ _
  simp only [Editing.gives_bind, Editing.gives_pure, Prod.mk.injEq]
  constructor
  · rintro ⟨e, k, he, heq, rfl⟩
    exact ⟨e, he, heq⟩
  · rintro ⟨e, he, heq⟩
    exact ⟨e, m, he, heq, rfl⟩

theorem lastSeen_edit {call : EditCall} {n m : Nat} {answer : EditAnswer} {events : List Event}
    (h : (s.edit call).Gives n (answer, t, events) m) : t.lastSeen = s.lastSeen := by
  obtain ⟨e, -, -, rfl, -⟩ := gives_edit.mp h
  exact lastSeen_commit s e.workflow

theorem lastSeen_moveTo (s : Session) (state : Option (StoredWorkflow × History StoredWorkflow)) :
    (s.moveTo state).2.1.lastSeen = s.lastSeen := by
  unfold moveTo
  split
  · rfl
  · split
    · rfl
    · exact lastSeen_revalidate _

end Blockflow.Session
