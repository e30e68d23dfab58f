import Blockflow.Proofs.Graph.Countdown
import Blockflow.Proofs.Pipeline.Jobs

/-!
# The smallest order of steps

A workflow whose steps do not come before themselves can be run in many orders. The order of steps
is the first of them, when the ids are compared one after the other from the start; and it is found
with counters that never fall below zero.
-/

namespace Blockflow

open Relation Blockflow.Graph

/-- In a list without repetitions, what stands before something else has the smaller place. -/
theorem idxOf_lt_of_sublist {α : Type} [DecidableEq α] {l : List α} {a b : α} (hl : l.Nodup)
    (h : [a, b].Sublist l) : l.idxOf a < l.idxOf b := by
  have hplaces : l.Pairwise fun a b ↦ l.idxOf a < l.idxOf b := by
    rw [List.pairwise_iff_getElem]
    intro i j hi hj hij
    simpa only [hl.idxOf_getElem] using hij
  exact List.pairwise_iff_forall_sublist.mp hplaces h

namespace StepGraph

variable {g : StepGraph} {left l : List String} {id : String}

/-- If something that is left may come next, the smallest such id does. -/
theorem orderFrom_of_ready (n : Nat) (hsorted : left.Pairwise (· < ·)) (hid : id ∈ left)
    (hready : ∀ p, Joins g.edges p id → p ∉ left) : ∃ first ∈ left, (first = id ∨ first < id) ∧
      g.orderFrom (n + 1) left = first :: g.orderFrom n (left.erase first) := by
  have hpasses : (g.before id).all (!left.contains ·) = true := by
    simpa using hready
  rw [orderFrom]
  cases hfind : left.find? fun id ↦ (g.before id).all (!left.contains ·) with
  | none => exact absurd hpasses (List.find?_eq_none.mp hfind id hid)
  | some first =>
    obtain ⟨-, pre, post, rfl, hfails⟩ := List.find?_eq_some_iff_append.mp hfind
    refine ⟨first, by simp, ?_, rfl⟩
    rcases List.mem_append.mp hid with hpre | hpost
    · refine absurd hpasses ?_
      simpa only [Bool.not_eq_true', Bool.not_eq_true] using hfails id hpre
    · rcases List.mem_cons.mp hpost with heq | hafter
      · exact .inl heq.symm
      · have htail := (List.pairwise_append.mp hsorted).2.1
        exact .inr ((List.pairwise_cons.mp htail).1 id hafter)

/-- Of all ways to arrange what is left, with nothing behind an id that comes right before it, the
order of steps is the first. -/
theorem orderFrom_least (hself : ∀ id, ¬Joins g.edges id id) {n : Nat} (hn : left.length ≤ n)
    (hsorted : left.Pairwise (· < ·)) (hperm : l.Perm left)
    (hl : l.Pairwise fun a b ↦ ¬Joins g.edges b a) :
    g.orderFrom n left = l ∨ List.Lex (· < ·) (g.orderFrom n left) l := by
  induction n generalizing left l with
  | zero =>
    have hnil : left = [] := List.eq_nil_of_length_eq_zero (Nat.le_zero.mp hn)
    rw [hnil, List.perm_nil] at hperm
    exact .inl hperm.symm
  | succ n ih =>
    cases l with
    | nil =>
      rw [List.nil_perm.mp hperm]
      exact .inl rfl
    | cons id l =>
      obtain ⟨hfirst, htail⟩ := List.pairwise_cons.mp hl
      -- the first id of any such arrangement may come next
      have hready : ∀ p, Joins g.edges p id → p ∉ left := by
        intro p hp hleft
        rcases List.mem_cons.mp (hperm.mem_iff.mpr hleft) with rfl | hmem
        · exact hself p hp
        · exact hfirst p hmem hp
      have hid : id ∈ left := hperm.mem_iff.mp List.mem_cons_self
      obtain ⟨first, hmem, hle, horder⟩ := orderFrom_of_ready n hsorted hid hready
      rw [horder]
      rcases hle with rfl | hlt
      · have hlength : (left.erase first).length ≤ n := by
          rw [List.length_erase_of_mem hmem]
          omega
        have hrest : l.Perm (left.erase first) := (List.cons_perm_iff_perm_erase.mp hperm).2
        refine (ih hlength (hsorted.sublist List.erase_sublist) hrest htail).imp ?_ .cons
        exact congrArg (first :: ·)
      · exact .inr (.rel hlt)

end StepGraph

namespace Workflow

open StepGraph Plan

variable {w : Workflow} {r : Registry} {l : List Block}

/-- What an order of the steps keeps to. -/
structure IsStepOrder (w : Workflow) (r : Registry) (l : List Block) : Prop where
  /-- Every step stands in it, once; triggers do not. -/
  perm : l.Perm (w.steps r)
  /-- Every connection between steps leads forward. -/
  forward : ∀ u ∈ w.steps r, ∀ v ∈ w.steps r, Connected w u v → [u, v].Sublist l

theorem isStepOrder_orderedSteps (hd : w.DistinctIds) (ha : (ofWorkflow w r).Acyclic) :
    w.IsStepOrder r (w.orderedSteps r) where
  perm := orderedSteps_perm hd ha
  forward u hu v hv huv := by
    have hmem : v ∈ w.orderedSteps r := (orderedSteps_perm hd ha).mem_iff.mpr hv
    obtain ⟨pre, post, hsplit⟩ := List.append_of_mem hmem
    have hjoins : Joins (ofWorkflow w r).edges u.id v.id :=
      joins_ofWorkflow.mpr ⟨mem_stepIds.mpr ⟨u, hu, rfl⟩, mem_stepIds.mpr ⟨v, hv, rfl⟩, huv⟩
    obtain ⟨u', hu', hid⟩ := List.mem_map.mp (mem_of_orderedSteps_eq ha hsplit hjoins)
    have hstep : u' ∈ w.steps r :=
      (orderedSteps_perm hd ha).mem_iff.mp (hsplit ▸ List.mem_append_left _ hu')
    have heq : u' = u := hd.eq_of_id_eq (mem_steps.mp hstep).1 (mem_steps.mp hu).1 hid
    rw [hsplit]
    exact (List.singleton_sublist.mpr (heq ▸ hu')).append
      (List.singleton_sublist.mpr List.mem_cons_self)

theorem IsStepOrder.ids_perm (hd : w.DistinctIds) (h : w.IsStepOrder r l) :
    (l.map (·.id)).Perm (w.stepIds r) := by
  refine (h.perm.map _).trans ?_
  exact (List.perm_ext_iff_of_nodup (hd.steps r) (nodup_ascending _)).mpr fun id ↦ by
    rw [mem_ascending]

/-- In an order of the steps nothing comes right before an id that stands before it. -/
theorem IsStepOrder.pairwise (hd : w.DistinctIds) (h : w.IsStepOrder r l) :
    (l.map (·.id)).Pairwise fun a b ↦ ¬Joins (ofWorkflow w r).edges b a := by
  have hnodup : l.Nodup := h.perm.nodup_iff.mpr (.of_map _ (hd.steps r))
  rw [List.pairwise_map, List.pairwise_iff_forall_sublist]
  intro u v huv hback
  have hu : u ∈ w.steps r := h.perm.mem_iff.mp (huv.subset List.mem_cons_self)
  have hv : v ∈ w.steps r :=
    h.perm.mem_iff.mp (huv.subset (List.mem_cons_of_mem _ List.mem_cons_self))
  have hvu := h.forward v hv u hu (joins_ofWorkflow.mp hback).2.2
  exact Nat.lt_asymm (idxOf_lt_of_sublist hnodup huv) (idxOf_lt_of_sublist hnodup hvu)

/-- The steps of a workflow in order are its steps with every connection between them leading
forward, and by their ids they are the first of all such orders. Counting down how much comes right
before each step comes to its end without any counter falling below zero, and finds this order. -/
theorem orderedSteps_least (w : Workflow) (r : Registry) (hd : w.DistinctIds)
    (ha : (ofWorkflow w r).Acyclic) :
    w.IsStepOrder r (w.orderedSteps r) ∧
      (∀ l, w.IsStepOrder r l → (w.orderedSteps r).map (·.id) = l.map (·.id) ∨
        List.Lex (· < ·) ((w.orderedSteps r).map (·.id)) (l.map (·.id))) ∧
      ∃ s, Countdown.run? (ofWorkflow w r) (w.stepIds r).length (.start (ofWorkflow w r)) = some s ∧
        s.ready = [] ∧ s.placed = (w.orderedSteps r).map (·.id) := by
  refine ⟨isStepOrder_orderedSteps hd ha, fun l hl ↦ ?_, ?_⟩
  · rw [map_id_orderedSteps ha]
    exact orderFrom_least (fun id hid ↦ ha id (.single hid)) (Nat.le_refl _)
      (pairwise_ascending _) (hl.ids_perm hd) (hl.pairwise hd)
  · rw [map_id_orderedSteps ha]
    exact Countdown.run?_start (isSound_ofWorkflow w r)

/-- A workflow with a connection that stands twice, one from a trigger, and one that leads
nowhere. -/
private def tangled : Workflow where
  id := "wf"
  name := "CI"
  description := ""
  blocks := [("d", Kind.jobBuild), ("t", .triggerPush), ("c", .jobCheckout), ("a", .jobTest),
    ("b", .jobLint)].map fun b ↦ ⟨b.1, b.2.tag, .origin, .empty, none⟩
  connections := [("1", "c", "a"), ("2", "c", "a"), ("3", "t", "d"), ("4", "a", "d"),
    ("5", "d", "x")].map fun c ↦ ⟨c.1, c.2.1, "out", c.2.2, "in"⟩

theorem orderedSteps_least_tangled : tangled.DistinctIds ∧
    (ofWorkflow tangled .builtin).Acyclic ∧
    (tangled.orderedSteps .builtin).map (·.id) = ["b", "c", "a", "d"] ∧
    tangled.IsStepOrder .builtin (tangled.orderedSteps .builtin) :=
  have hd : tangled.DistinctIds := by decide +kernel
  have ha : (ofWorkflow tangled .builtin).Acyclic := by decide +kernel
  ⟨hd, ha, by decide +kernel, (orderedSteps_least tangled .builtin hd ha).1⟩

end Workflow

end Blockflow
