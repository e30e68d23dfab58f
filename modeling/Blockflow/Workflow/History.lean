import Blockflow.Json.Reader
import Blockflow.Json.Writer
import Blockflow.Workflow.Basic

/-!
# History

The states that a workflow has had, for going back and forth among them. There is a present state,
there are past ones, and there are undone ones; a new state takes the place of the undone ones. At
most so many states are kept, and the oldest go first. A workflow is kept as its written form.

Component `undo` of `workflow-engine`; specification C.2.
-/

namespace Blockflow

/-- A history of states. Record `UndoStack`. -/
structure History (α : Type) where
  /-- How many states are kept, at least one. -/
  capacity : Nat
  /-- The past states, the latest first. -/
  past : List α
  /-- The present state. -/
  present : Option α
  /-- The undone states, the next one first. -/
  future : List α
deriving DecidableEq

namespace History

variable {α : Type}

/-- How many states are kept where nobody says so. Constant `DEFAULT_CAPACITY`. -/
def defaultCapacity : Nat := 100

/-- The history without states; no room counts as room for one. -/
def empty (capacity : Nat) : History α := ⟨max capacity 1, [], none, []⟩

/-- The number of states. -/
def size (h : History α) : Nat := h.past.length + h.present.toList.length + h.future.length

/-- Whether there are no states. -/
def isEmpty (h : History α) : Bool := h.present.isNone

/-- Whether there is a past state. Function `can_undo`. -/
def canUndo (h : History α) : Bool := !h.past.isEmpty

/-- Whether there is an undone state. Function `can_redo`. -/
def canRedo (h : History α) : Bool := !h.future.isEmpty

/-- With a new present state. Function `push`. -/
def push (h : History α) (a : α) : History α :=
  { h with past := (h.present.toList ++ h.past).take (h.capacity - 1), present := some a,
           future := [] }

/-- One state back, if there is one. Function `undo`. -/
def undo? (h : History α) : Option (α × History α) :=
  match h.past with
  | [] => none
  | a :: past =>
    some (a, { h with past, present := some a, future := h.present.toList ++ h.future })

/-- One state forth, if there is one. Function `redo`. -/
def redo? (h : History α) : Option (α × History α) :=
  match h.future with
  | [] => none
  | a :: future =>
    some (a, { h with past := h.present.toList ++ h.past, present := some a, future })

/-- Without states. Function `clear`. -/
def clear (h : History α) : History α := { h with past := [], present := none, future := [] }

/-- Every state, the oldest first. -/
def toList (h : History α) : List α := h.past.reverse ++ h.present.toList ++ h.future

end History

/-- A workflow in its written form. Record `Snapshot`. -/
structure StoredWorkflow where
  /-- The written form. -/
  text : String
deriving DecidableEq, Inhabited

namespace StoredWorkflow

/-- Stores a workflow. Function `Snapshot.capture`. -/
def ofWorkflow (w : Workflow) : StoredWorkflow := ⟨w.toJson.compact⟩

/-- The workflow that is stored. Function `Snapshot.restore`. -/
def workflow? (s : StoredWorkflow) : Option Workflow := (Json.read? s.text).bind Workflow.ofJson?

end StoredWorkflow

end Blockflow
