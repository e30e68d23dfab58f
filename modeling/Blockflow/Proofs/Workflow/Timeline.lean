import Blockflow.Workflow.History

/-!
# A history is a list with a cursor

The past states, the present one and the undone ones stand for one list of states, the oldest
first, with a cursor at the present one. A new state cuts the list after the cursor and goes to its
end, and then the oldest states go until no more are left than there is room for; going back and
forth moves the cursor by one. Whatever is asked of a history, it answers as such a list does.
-/

namespace Blockflow

/-- A list of states with a cursor at the present one. -/
structure Timeline (α : Type) where
  /-- How many states are kept. -/
  capacity : Nat
  /-- The states, the oldest first. -/
  states : List α
  /-- How many states there are before the present one. -/
  cursor : Nat
deriving DecidableEq

namespace Timeline

variable {α β : Type} {f : α → β}

/-- The list without states; no room counts as room for one. -/
def empty (capacity : Nat) : Timeline α := ⟨max capacity 1, [], 0⟩

/-- The state at the cursor. -/
def current? (t : Timeline α) : Option α := t.states[t.cursor]?

/-- The list cut after the cursor, with a new state at its end and the cursor there, and without
the oldest states for which there is no room. -/
def push (t : Timeline α) (a : α) : Timeline α :=
  let states := t.states.take (t.cursor + 1) ++ [a]
  let kept := states.drop (states.length - t.capacity)
  { t with states := kept, cursor := kept.length - 1 }

/-- The cursor at another place, with the state there, if there is one. -/
def seek? (t : Timeline α) (cursor : Nat) : Option (α × Timeline α) :=
  t.states[cursor]?.map fun a ↦ (a, { t with cursor })

/-- The cursor one place back, if there is one. -/
def undo? (t : Timeline α) : Option (α × Timeline α) :=
  match t.cursor with
  | 0 => none
  | cursor + 1 => t.seek? cursor

/-- The cursor one place forth, if there is one. -/
def redo? (t : Timeline α) : Option (α × Timeline α) := t.seek? (t.cursor + 1)

/-- Without states. -/
def clear (t : Timeline α) : Timeline α := { t with states := [], cursor := 0 }

/-- Whether the cursor can go back. -/
def canUndo (t : Timeline α) : Bool := 0 < t.cursor

/-- Whether the cursor can go forth. -/
def canRedo (t : Timeline α) : Bool := t.cursor + 1 < t.states.length

/-- The list with every state in another form. -/
def map (f : α → β) (t : Timeline α) : Timeline β := ⟨t.capacity, t.states.map f, t.cursor⟩

theorem map_push (t : Timeline α) (a : α) : (t.push a).map f = (t.map f).push (f a) := by
  simp [push, map, List.map_drop, List.map_take]

theorem map_seek? (t : Timeline α) (cursor : Nat) :
    (t.map f).seek? cursor = (t.seek? cursor).map fun (a, t) ↦ (f a, t.map f) := by
  simp [seek?, map, Function.comp_def]

theorem map_undo? (t : Timeline α) :
    (t.map f).undo? = t.undo?.map fun (a, t) ↦ (f a, t.map f) := by
  obtain ⟨capacity, states, _ | cursor⟩ := t
  · rfl
  · exact map_seek? _ cursor

theorem map_redo? (t : Timeline α) :
    (t.map f).redo? = t.redo?.map fun (a, t) ↦ (f a, t.map f) :=
  map_seek? t (t.cursor + 1)

@[simp] theorem current?_map (t : Timeline α) : (t.map f).current? = t.current?.map f := by
  simp [current?, map]

@[simp] theorem canUndo_map (t : Timeline α) : (t.map f).canUndo = t.canUndo := rfl

@[simp] theorem canRedo_map (t : Timeline α) : (t.map f).canRedo = t.canRedo := by
  simp [canRedo, map]

/-- Where the cursor goes, there is a state of the list, and nothing but the cursor moves. -/
theorem of_seek?_eq_some {t u : Timeline α} {cursor : Nat} {a : α}
    (h : t.seek? cursor = some (a, u)) :
    a ∈ t.states ∧ u.states = t.states ∧ u.capacity = t.capacity := by
  obtain ⟨b, hb, heq⟩ := Option.map_eq_some_iff.mp h
  obtain ⟨rfl, rfl⟩ := Prod.mk.inj heq
  exact ⟨List.mem_of_getElem? hb, rfl, rfl⟩

theorem of_undo?_eq_some {t u : Timeline α} {a : α} (h : t.undo? = some (a, u)) :
    a ∈ t.states ∧ u.states = t.states ∧ u.capacity = t.capacity := by
  rw [undo?] at h
  split at h
  · cases h
  · exact of_seek?_eq_some h

theorem mem_push {t : Timeline α} {a b : α} (h : b ∈ (t.push a).states) :
    b ∈ t.states ∨ b = a := by
  rcases List.mem_append.mp (List.mem_of_mem_drop h) with htaken | hnew
  · exact .inl (List.mem_of_mem_take htaken)
  · exact .inr (List.mem_singleton.mp hnew)

end Timeline

namespace History

variable {α : Type} {h : History α}

/-- The list with a cursor that a history stands for. -/
def timeline (h : History α) : Timeline α := ⟨h.capacity, h.toList, h.past.length⟩

/-- What holds of every history: there is room for a state and no more states than there is room
for, and without a present state there is none. -/
structure IsSound (h : History α) : Prop where
  /-- There is room for a state. -/
  one_le : 1 ≤ h.capacity
  /-- There is room for all states. -/
  size_le : h.size ≤ h.capacity
  /-- Without a present state there is none. -/
  of_none : h.present = none → h.past = [] ∧ h.future = []

theorem isSound_empty (capacity : Nat) : (empty capacity : History α).IsSound where
  one_le := Nat.le_max_right ..
  size_le := Nat.zero_le _
  of_none _ := ⟨rfl, rfl⟩

theorem IsSound.push (hs : h.IsSound) (a : α) : (h.push a).IsSound where
  one_le := hs.one_le
  size_le := by
    have := hs.one_le
    simp only [History.push, size, List.length_take, Option.toList_some, List.length_cons,
      List.length_nil]
    omega
  of_none hnone := by cases hnone

theorem IsSound.of_undo? (hs : h.IsSound) {a : α} {k : History α} (hk : h.undo? = some (a, k)) :
    k.IsSound := by
  rw [undo?] at hk
  split at hk
  · cases hk
  · next b past hpast =>
    obtain ⟨rfl, rfl⟩ := Prod.mk.inj (Option.some.inj hk)
    have hsize := hs.size_le
    refine ⟨hs.one_le, ?_, fun hnone ↦ by cases hnone⟩
    simp only [size, hpast, List.length_cons, List.length_append, Option.toList_some,
      List.length_nil] at hsize ⊢
    omega

theorem IsSound.of_redo? (hs : h.IsSound) {a : α} {k : History α} (hk : h.redo? = some (a, k)) :
    k.IsSound := by
  rw [redo?] at hk
  split at hk
  · cases hk
  · next b future hfuture =>
    obtain ⟨rfl, rfl⟩ := Prod.mk.inj (Option.some.inj hk)
    have hsize := hs.size_le
    refine ⟨hs.one_le, ?_, fun hnone ↦ by cases hnone⟩
    simp only [size, hfuture, List.length_cons, List.length_append, Option.toList_some,
      List.length_nil] at hsize ⊢
    omega

theorem IsSound.clear (hs : h.IsSound) : h.clear.IsSound where
  one_le := hs.one_le
  size_le := Nat.zero_le _
  of_none _ := ⟨rfl, rfl⟩

/-! ### What the list shows -/

/-- Up to the cursor, the list has the past states and the present one. -/
theorem take_toList (hs : h.IsSound) :
    h.toList.take (h.past.length + 1) = (h.present.toList ++ h.past).reverse := by
  cases hpresent : h.present with
  | none => simp [toList, hpresent, hs.of_none hpresent]
  | some a => simp [toList, hpresent, List.take_append, List.take_of_length_le]

theorem length_toList (h : History α) : h.toList.length = h.size := by
  simp [toList, size, Nat.add_assoc]

theorem isEmpty_toList (hs : h.IsSound) : h.toList.isEmpty = h.isEmpty := by
  cases hpresent : h.present with
  | none => simp [isEmpty, toList, hpresent, hs.of_none hpresent]
  | some a => simp [isEmpty, toList, hpresent]

theorem current?_timeline (hs : h.IsSound) : h.timeline.current? = h.present := by
  cases hpresent : h.present with
  | none => simp [Timeline.current?, timeline, toList, hpresent, hs.of_none hpresent]
  | some a => simp [Timeline.current?, timeline, toList, hpresent]

theorem canUndo_timeline (h : History α) : h.timeline.canUndo = h.canUndo := by
  cases hpast : h.past <;> simp [Timeline.canUndo, canUndo, timeline, hpast]

theorem canRedo_timeline (hs : h.IsSound) : h.timeline.canRedo = h.canRedo := by
  cases hpresent : h.present with
  | none => simp [Timeline.canRedo, canRedo, timeline, toList, hpresent, hs.of_none hpresent]
  | some a =>
    cases hfuture : h.future <;>
      simp [Timeline.canRedo, canRedo, timeline, toList, hpresent, hfuture]

/-! ### What the operations do to the list -/

theorem timeline_push (hs : h.IsSound) (a : α) : (h.push a).timeline = h.timeline.push a := by
  have hone := hs.one_le
  have hkept : ∀ shown : List α,
      (shown.reverse ++ [a]).drop ((shown.reverse ++ [a]).length - h.capacity) =
        (shown.take (h.capacity - 1)).reverse ++ [a] := by
    intro shown
    rw [List.reverse_take, List.drop_append_of_le_length (by simp; omega)]
    congr 2
    simp
    omega
  simp only [timeline, Timeline.push, take_toList hs, hkept]
  simp [History.push, toList]

theorem timeline_undo? (h : History α) :
    h.timeline.undo? = h.undo?.map fun (a, h) ↦ (a, h.timeline) := by
  cases hpast : h.past with
  | nil => simp [Timeline.undo?, undo?, timeline, hpast]
  | cons a past =>
    simp [Timeline.undo?, Timeline.seek?, undo?, timeline, toList, hpast]

theorem timeline_redo? (hs : h.IsSound) :
    h.timeline.redo? = h.redo?.map fun (a, h) ↦ (a, h.timeline) := by
  cases hpresent : h.present with
  | none =>
    obtain ⟨hpast, hfuture⟩ := hs.of_none hpresent
    simp [Timeline.redo?, Timeline.seek?, redo?, timeline, toList, hpresent, hpast, hfuture]
  | some b =>
    cases hfuture : h.future <;>
      simp [Timeline.redo?, Timeline.seek?, redo?, timeline, toList, hpresent, hfuture]

theorem timeline_clear (h : History α) : h.clear.timeline = h.timeline.clear := rfl

end History

/-! ### A history of workflows and its calls -/

/-- Whether a workflow comes back from its written form. -/
def StoredWorkflow.Keeps (w : Workflow) : Prop := (ofWorkflow w).workflow? = some w

/-- A call of a history of workflows. -/
inductive HistoryCall where
  /-- A new present state. -/
  | push (w : Workflow)
  /-- One state back. -/
  | undo
  /-- One state forth. -/
  | redo
  /-- No states any more. -/
  | clear

/-- What a call of a history answers: a workflow, if there is one to go to, where nothing stands for
one that could not be read. -/
abbrev HistoryAnswer : Type := Option (Option Workflow)

/-- What a history shows of itself. -/
structure HistoryView where
  /-- The present workflow, where nothing stands for one that could not be read. -/
  current : HistoryAnswer
  /-- The number of states. -/
  size : Nat
  /-- Whether there are no states. -/
  isEmpty : Bool
  /-- Whether there is a state to go back to. -/
  canUndo : Bool
  /-- Whether there is a state to go forth to. -/
  canRedo : Bool
deriving DecidableEq

/-- The answers to calls, one after the other, and the state after them. -/
def HistoryCall.run {σ : Type} (perform : σ → HistoryCall → HistoryAnswer × σ) :
    σ → List HistoryCall → List HistoryAnswer × σ
  | s, [] => ([], s)
  | s, call :: calls =>
    let first := perform s call
    let rest := run perform first.2 calls
    (first.1 :: rest.1, rest.2)

namespace History

/-- The answer of a call that goes to another state, and the history after it. Where there is no
state to go to, the history stays as it is. -/
def goTo (h : History StoredWorkflow) :
    Option (StoredWorkflow × History StoredWorkflow) → HistoryAnswer × History StoredWorkflow
  | none => (none, h)
  | some (stored, moved) => (some stored.workflow?, moved)

/-- The answer to a call, and the history after it. -/
def perform (h : History StoredWorkflow) : HistoryCall → HistoryAnswer × History StoredWorkflow
  | .push w => (none, h.push (.ofWorkflow w))
  | .undo => h.goTo h.undo?
  | .redo => h.goTo h.redo?
  | .clear => (none, h.clear)

/-- What a history shows of itself. -/
def view (h : History StoredWorkflow) : HistoryView :=
  ⟨h.present.map (·.workflow?), h.size, h.isEmpty, h.canUndo, h.canRedo⟩

end History

namespace Timeline

/-- The answer of a call that moves the cursor, and the list after it. Where there is no place to
move it to, the list stays as it is. -/
def goTo (t : Timeline Workflow) :
    Option (Workflow × Timeline Workflow) → HistoryAnswer × Timeline Workflow
  | none => (none, t)
  | some (w, moved) => (some (some w), moved)

/-- The answer to a call, and the list after it. -/
def perform (t : Timeline Workflow) : HistoryCall → HistoryAnswer × Timeline Workflow
  | .push w => (none, t.push w)
  | .undo => t.goTo t.undo?
  | .redo => t.goTo t.redo?
  | .clear => (none, t.clear)

/-- What a list with a cursor shows of itself. -/
def view (t : Timeline Workflow) : HistoryView :=
  ⟨t.current?.map some, t.states.length, t.states.isEmpty, t.canUndo, t.canRedo⟩

theorem capacity_perform (t : Timeline Workflow) (call : HistoryCall) :
    (t.perform call).2.capacity = t.capacity := by
  cases call with
  | push w => rfl
  | undo =>
    rw [perform]
    cases h : t.undo? with
    | none => rfl
    | some moved => exact (of_undo?_eq_some h).2.2
  | redo =>
    rw [perform]
    cases h : t.redo? with
    | none => rfl
    | some moved => exact (of_seek?_eq_some h).2.2
  | clear => rfl

/-- The room stays what it is. -/
theorem capacity_run (t : Timeline Workflow) (calls : List HistoryCall) :
    (HistoryCall.run perform t calls).2.capacity = t.capacity := by
  induction calls generalizing t with
  | nil => rfl
  | cons call calls ih => rw [HistoryCall.run, ih, capacity_perform]

end Timeline

namespace History

variable {h : History StoredWorkflow} {t : Timeline Workflow}

/-- Whether a history stands for a list of workflows that come back from their written forms. -/
structure Shows (h : History StoredWorkflow) (t : Timeline Workflow) : Prop where
  /-- The history is sound. -/
  isSound : h.IsSound
  /-- Its states are the written forms of the workflows. -/
  timeline_eq : h.timeline = t.map .ofWorkflow
  /-- The workflows come back from them. -/
  keeps : ∀ w ∈ t.states, StoredWorkflow.Keeps w

theorem shows_empty (capacity : Nat) : (empty capacity).Shows (Timeline.empty capacity) where
  isSound := isSound_empty capacity
  timeline_eq := rfl
  keeps w hw := by cases hw

theorem Shows.present_eq (hs : h.Shows t) : h.present.map (·.workflow?) = t.current?.map some := by
  rw [← current?_timeline hs.isSound, hs.timeline_eq, Timeline.current?_map, Option.map_map]
  refine Option.map_congr fun w hw ↦ ?_
  rw [Function.comp_apply, hs.keeps w (List.mem_of_getElem? hw)]

/-- A history shows of itself what its list shows. -/
theorem Shows.view_eq (hs : h.Shows t) : h.view = t.view := by
  have hlist : h.toList = t.states.map .ofWorkflow := congrArg Timeline.states hs.timeline_eq
  have hsize : h.size = t.states.length := by rw [← length_toList, hlist, List.length_map]
  have hempty : h.isEmpty = t.states.isEmpty := by
    rw [← isEmpty_toList hs.isSound, hlist, List.isEmpty_map]
  have hundo : h.canUndo = t.canUndo := by
    rw [← canUndo_timeline, hs.timeline_eq, Timeline.canUndo_map]
  have hredo : h.canRedo = t.canRedo := by
    rw [← canRedo_timeline hs.isSound, hs.timeline_eq, Timeline.canRedo_map]
  rw [view, Timeline.view, hs.present_eq, hsize, hempty, hundo, hredo]

private theorem shows_push (hs : h.Shows t) {w : Workflow} (hw : StoredWorkflow.Keeps w) :
    (h.push (.ofWorkflow w)).Shows (t.push w) where
  isSound := hs.isSound.push _
  timeline_eq := by rw [timeline_push hs.isSound, hs.timeline_eq, Timeline.map_push]
  keeps v hv := (Timeline.mem_push hv).elim (hs.keeps v) fun heq ↦ heq ▸ hw

private theorem shows_clear (hs : h.Shows t) : h.clear.Shows t.clear where
  isSound := hs.isSound.clear
  timeline_eq := by rw [timeline_clear, hs.timeline_eq]; rfl
  keeps v hv := by cases hv

/-- A history and its list that move in the same way answer the same and stay alike. -/
private theorem shows_goTo (hs : h.Shows t) {x : Option (StoredWorkflow × History StoredWorkflow)}
    {y : Option (Workflow × Timeline Workflow)}
    (hxy : (x.map fun (s, h) ↦ (s, h.timeline)) =
      y.map fun (w, t) ↦ (StoredWorkflow.ofWorkflow w, t.map .ofWorkflow))
    (hsound : ∀ s k, x = some (s, k) → k.IsSound)
    (hmem : ∀ w u, y = some (w, u) →
      w ∈ t.states ∧ u.states = t.states ∧ u.capacity = t.capacity) :
    (h.goTo x).1 = (t.goTo y).1 ∧ (h.goTo x).2.Shows (t.goTo y).2 := by
  match x, y with
  | none, none => exact ⟨rfl, hs⟩
  | some (s, k), some (w, u) =>
    obtain ⟨rfl, hku⟩ := Prod.mk.inj (Option.some.inj hxy)
    obtain ⟨hw, hstates, -⟩ := hmem w u rfl
    exact ⟨congrArg some (hs.keeps w hw), hsound _ _ rfl, hku, hstates ▸ hs.keeps⟩

/-- A history and its list answer a call in the same way, and are alike after it. -/
theorem Shows.perform (hs : h.Shows t) (call : HistoryCall)
    (hcall : ∀ w, call = .push w → StoredWorkflow.Keeps w) :
    (h.perform call).1 = (t.perform call).1 ∧ (h.perform call).2.Shows (t.perform call).2 := by
  cases call with
  | push w => exact ⟨rfl, shows_push hs (hcall w rfl)⟩
  | undo =>
    refine shows_goTo hs ?_ (fun _ _ hk ↦ hs.isSound.of_undo? hk)
      fun _ _ hu ↦ Timeline.of_undo?_eq_some hu
    rw [← timeline_undo?, hs.timeline_eq, Timeline.map_undo?]
  | redo =>
    refine shows_goTo hs ?_ (fun _ _ hk ↦ hs.isSound.of_redo? hk)
      fun _ _ hu ↦ Timeline.of_seek?_eq_some hu
    rw [← timeline_redo? hs.isSound, hs.timeline_eq, Timeline.map_redo?]
  | clear => exact ⟨rfl, shows_clear hs⟩

/-- A history and its list answer calls in the same way, and are alike after them. -/
theorem Shows.run (hs : h.Shows t) (calls : List HistoryCall)
    (hcalls : ∀ w, .push w ∈ calls → StoredWorkflow.Keeps w) :
    (HistoryCall.run History.perform h calls).1 = (HistoryCall.run Timeline.perform t calls).1 ∧
      (HistoryCall.run History.perform h calls).2.Shows
        (HistoryCall.run Timeline.perform t calls).2 := by
  induction calls generalizing h t with
  | nil => exact ⟨rfl, hs⟩
  | cons call calls ih =>
    obtain ⟨hanswer, hnext⟩ := hs.perform call fun w hw ↦ hcalls w (hw ▸ List.mem_cons_self)
    obtain ⟨hanswers, hlast⟩ := ih hnext fun w hw ↦ hcalls w (List.mem_cons_of_mem _ hw)
    refine ⟨?_, hlast⟩
    rw [HistoryCall.run, HistoryCall.run, hanswer, hanswers]

/-- Whatever calls a history gets, it answers them as the list with a cursor does and shows what the
list shows, and it never has more states than there is room for, if the workflows that go into it
come back from their written forms. -/
theorem run_eq_timeline (capacity : Nat) (calls : List HistoryCall)
    (hcalls : ∀ w, .push w ∈ calls → StoredWorkflow.Keeps w) :
    (HistoryCall.run perform (empty capacity) calls).1 =
        (HistoryCall.run Timeline.perform (.empty capacity) calls).1 ∧
      (HistoryCall.run perform (empty capacity) calls).2.view =
        (HistoryCall.run Timeline.perform (.empty capacity) calls).2.view ∧
      (HistoryCall.run perform (empty capacity) calls).2.size ≤ max capacity 1 := by
  obtain ⟨hanswers, hlast⟩ := (shows_empty capacity).run calls hcalls
  have hcapacity : (HistoryCall.run perform (empty capacity) calls).2.capacity = max capacity 1 :=
    (congrArg Timeline.capacity hlast.timeline_eq).trans (Timeline.capacity_run _ calls)
  exact ⟨hanswers, hlast.view_eq, hcapacity ▸ hlast.isSound.size_le⟩

/-- A workflow without blocks. -/
private def named (name : String) : Workflow := ⟨"wf", name, "", [], []⟩

/-- Too many states for the room, a way back to the oldest one, and a new state there. -/
private def wandering : List HistoryCall :=
  [.push (named "a"), .push (named "b"), .push (named "c"), .undo, .undo, .redo, .undo,
    .push (named "d"), .redo, .undo, .clear, .undo]

theorem run_eq_timeline_wandering :
    (∀ w, .push w ∈ wandering → StoredWorkflow.Keeps w) ∧
      (HistoryCall.run perform (empty 2) wandering).1 =
        [none, none, none, some (some (named "b")), none, some (some (named "c")),
          some (some (named "b")), none, none, some (some (named "b")), none, none] := by
  have hkeeps : ∀ w, .push w ∈ wandering → StoredWorkflow.Keeps w := by
    intro w hw
    simp only [wandering, List.mem_cons, HistoryCall.push.injEq, reduceCtorEq, List.not_mem_nil,
      or_false, false_or] at hw
    rcases hw with rfl | rfl | rfl | rfl <;> (unfold StoredWorkflow.Keeps; decide +kernel)
  refine ⟨hkeeps, (run_eq_timeline 2 wandering hkeeps).1.trans ?_⟩
  decide +kernel

end History
end Blockflow
