import Blockflow.Proofs.Graph.Order

/-!
# Counting down to the order of steps

The order of steps can be found without looking at everything that is left again and again. A
counter for each id says how many of the ids right before it have not been placed; whenever an id is
placed, everything right after it is counted down; and an id whose counter has come to zero is ready
to be placed. No counter is ever counted down below zero, and the ids are placed in the order of
steps.
-/

namespace Blockflow

open Blockflow.Graph

/-- Ids that are put in order with counters. -/
structure Countdown where
  /-- How many of the ids right before each id have not been placed. -/
  waiting : Dict Nat
  /-- The ids that wait for none and have not been placed, ascending. -/
  ready : List String
  /-- The ids that have been placed, in order. -/
  placed : List String

namespace Countdown

/-- The counters before anything is placed. -/
def start (g : StepGraph) : Countdown where
  waiting := .ofList (g.ids.map fun id ↦ (id, (g.before id).length))
  ready := g.ids.filter fun id ↦ (g.before id).length = 0
  placed := []

/-- Counts down for an id; it is ready when its counter comes to zero. There is no result if the
counter is at zero already. -/
def release? (s : Countdown) (id : String) : Option Countdown :=
  match s.waiting.get? id with
  | none => some s
  | some 0 => none
  | some (n + 1) => some
    { s with
      waiting := s.waiting.insert id n
      ready := if n = 0 then ascending (id :: s.ready) else s.ready }

/-- Places the smallest id that is ready, and counts down for everything right after it. Nothing
happens if no id is ready. -/
def step? (g : StepGraph) (s : Countdown) : Option Countdown :=
  match s.ready with
  | [] => some s
  | id :: ready => (g.after id).foldlM release? { s with ready, placed := s.placed ++ [id] }

/-- What comes of so many steps. -/
def run? (g : StepGraph) : Nat → Countdown → Option Countdown
  | 0, s => some s
  | n + 1, s => (step? g s).bind (run? g n)

end Countdown

namespace StepGraph

/-- What holds of the ids and edges of a graph. -/
structure IsSound (g : StepGraph) : Prop where
  /-- The ids are ascending. -/
  ascending : g.ids.Pairwise (· < ·)
  /-- The edges join ids of the graph. -/
  inside : ∀ a b, Joins g.edges a b → a ∈ g.ids ∧ b ∈ g.ids

theorem isSound_ofWorkflow (w : Workflow) (r : Registry) : (ofWorkflow w r).IsSound where
  ascending := pairwise_ascending _
  inside _ _ h := ⟨(Workflow.joins_ofWorkflow.mp h).1, (Workflow.joins_ofWorkflow.mp h).2.1⟩

/-- Whether some ids are what is left when others have been placed, each of them after everything
right before it. -/
structure Remains (g : StepGraph) (left : List String) : Prop where
  /-- They are ascending. -/
  ascending : left.Pairwise (· < ·)
  /-- They are ids of the graph. -/
  subset : left ⊆ g.ids
  /-- Nothing of what is left comes right before something that has been placed. -/
  settled : ∀ id ∈ g.ids, id ∉ left → ∀ p, Joins g.edges p id → p ∉ left

variable {g : StepGraph} {left : List String} {id : String}

theorem IsSound.remains (hg : g.IsSound) : g.Remains g.ids :=
  ⟨hg.ascending, List.Subset.refl _, fun _ h hnot ↦ absurd h hnot⟩

/-- An id before which nothing of what is left comes may be placed. -/
theorem Remains.erase (h : g.Remains left) (hready : ∀ p, Joins g.edges p id → p ∉ left) :
    g.Remains (left.erase id) where
  ascending := h.ascending.sublist List.erase_sublist
  subset := fun _ hx ↦ h.subset (List.mem_of_mem_erase hx)
  settled x hx hnot p hp hleft := by
    have hp' : p ∈ left := List.mem_of_mem_erase hleft
    by_cases hxid : x = id
    · exact hready p (hxid ▸ hp) hp'
    · exact h.settled x hx (fun hxl ↦ hnot ((List.mem_erase_of_ne hxid).mpr hxl)) p hp hp'

end StepGraph

namespace Countdown

open StepGraph

variable {g : StepGraph} {left owed ready : List String} {id : String} {s : Countdown}

/-! ### What the counters say -/

/-- What holds of the counters when some ids are left and some of them have still to be counted down
for. -/
structure Counts (g : StepGraph) (left owed : List String) (s : Countdown) : Prop where
  /-- What is still to be counted down for is left. -/
  owed_subset : owed ⊆ left
  /-- A counter says how much of what is left comes right before its id, and one more if its id is
  still to be counted down for. -/
  count : ∀ id ∈ g.ids, s.waiting.get? id =
    some ((g.before id).countP (left.contains ·) + if id ∈ owed then 1 else 0)
  /-- What is ready is what waits for nothing. -/
  mem_ready : ∀ id, id ∈ s.ready ↔
    id ∈ left ∧ id ∉ owed ∧ ∀ p, Joins g.edges p id → p ∉ left
  /-- What is ready is ascending. -/
  ascending : s.ready.Pairwise (· < ·)

private theorem countP_before_eq_zero_iff :
    (g.before id).countP (left.contains ·) = 0 ↔ ∀ p, Joins g.edges p id → p ∉ left := by
  simp [List.countP_eq_zero]

theorem counts_start (hg : g.IsSound) : Counts g g.ids [] (start g) where
  owed_subset := List.nil_subset _
  count id hid := by
    have hfirst : (start g).waiting.get? id = some (g.before id).length := by
      refine Dict.get?_ofList_iff.mpr ?_ (id, _) (List.mem_map_of_mem hid)
      intro e he f hf hkey
      obtain ⟨a, -, rfl⟩ := List.mem_map.mp he
      obtain ⟨b, -, rfl⟩ := List.mem_map.mp hf
      exact congrArg (fun id ↦ (g.before id).length) hkey
    have hall : (g.before id).countP (g.ids.contains ·) = (g.before id).length := by
      rw [List.countP_eq_length]
      exact fun p hp ↦ List.contains_iff_mem.mpr (hg.inside p id (mem_before.mp hp)).1
    rw [hfirst, hall]
    simp
  mem_ready id := by
    have hnone : g.before id = [] ↔ ∀ p, Joins g.edges p id → p ∉ g.ids := by
      rw [List.eq_nil_iff_forall_not_mem]
      simp only [mem_before]
      exact forall_congr' fun p ↦
        ⟨fun h hp ↦ absurd hp h, fun h hp ↦ h hp (hg.inside p id hp).1⟩
    simp [start, hnone]
  ascending := hg.ascending.filter _

theorem release?_of_get? {n : Nat} (h : s.waiting.get? id = some (n + 1)) :
    release? s id = some
      { s with
        waiting := s.waiting.insert id n
        ready := if n = 0 then Graph.ascending (id :: s.ready) else s.ready } := by
  rw [release?, h]

/-- Counting down for an id that has still to be counted down for does so. -/
theorem Counts.release (h : Counts g left (id :: owed) s) (hid : id ∈ g.ids) (hnew : id ∉ owed) :
    ∃ s', release? s id = some s' ∧ s'.placed = s.placed ∧ Counts g left owed s' := by
  have hcount := h.count id hid
  rw [if_pos List.mem_cons_self] at hcount
  refine ⟨_, release?_of_get? hcount, rfl, fun _ hx ↦ h.owed_subset (List.mem_cons_of_mem _ hx),
    fun x hx ↦ ?_, fun x ↦ ?_, ?_⟩
  · rw [Dict.get?_insert]
    by_cases hxid : x = id
    · simp [hxid, hnew]
    · rw [if_neg hxid, h.count x hx]
      simp [hxid]
  · have hold := h.mem_ready x
    by_cases hxid : x = id
    · -- the id is left, and was not ready before
      subst hxid
      have hleft : x ∈ left := h.owed_subset List.mem_cons_self
      simp only [List.mem_cons_self, not_true, false_and, and_false, iff_false] at hold
      rw [← countP_before_eq_zero_iff]
      split <;> simp_all
    · split <;> simp_all
  · dsimp only
    split
    · exact pairwise_ascending _
    · exact h.ascending

/-- So does counting down for several ids, one after the other. -/
theorem Counts.releaseAll (h : Counts g left owed s) (hids : owed ⊆ g.ids) (hnodup : owed.Nodup) :
    ∃ s', owed.foldlM release? s = some s' ∧ s'.placed = s.placed ∧ Counts g left [] s' := by
  induction owed generalizing s with
  | nil => exact ⟨s, rfl, rfl, h⟩
  | cons id owed ih =>
    obtain ⟨hnew, hnodup⟩ := List.nodup_cons.mp hnodup
    obtain ⟨hid, hids⟩ := List.cons_subset.mp hids
    obtain ⟨s₁, hrelease, hplaced₁, h₁⟩ := h.release hid hnew
    obtain ⟨s₂, hrest, hplaced₂, h₂⟩ := ih h₁ hids hnodup
    refine ⟨s₂, ?_, hplaced₂.trans hplaced₁, h₂⟩
    rw [List.foldlM_cons, hrelease]
    exact hrest

/-! ### One more id -/

private theorem countP_erase {l : List String} (hl : l.Nodup) (hid : id ∈ left)
    (hleft : left.Nodup) : l.countP (left.contains ·) =
      l.countP ((left.erase id).contains ·) + if id ∈ l then 1 else 0 := by
  induction l with
  | nil => rfl
  | cons a l ih =>
    obtain ⟨ha, hl⟩ := List.nodup_cons.mp hl
    rw [List.countP_cons, List.countP_cons, ih hl]
    by_cases haid : a = id
    · subst haid
      simp [ha, hid, hleft.not_mem_erase]
    · have hne : id ≠ a := Ne.symm haid
      simp [List.mem_erase_of_ne haid, hne]
      omega

/-- When an id that is ready has been placed, everything right after it is to be counted down
for. -/
theorem Counts.place (hg : g.IsSound) (hr : g.Remains left) (h : Counts g left [] s)
    (hs : s.ready = id :: ready) (placed : List String) :
    Counts g (left.erase id) (g.after id) { s with ready, placed } := by
  obtain ⟨hid, -, hready⟩ := (h.mem_ready id).mp (hs ▸ List.mem_cons_self)
  have hleft : left.Nodup := nodup_of_pairwise_lt hr.ascending
  have hasc := h.ascending
  rw [hs, List.pairwise_cons] at hasc
  have hnot : id ∉ ready := fun hmem ↦ String.lt_irrefl id (hasc.1 id hmem)
  refine ⟨fun x hx ↦ ?_, fun x hx ↦ ?_, fun x ↦ ?_, hasc.2⟩
  · have hj : Joins g.edges id x := mem_after.mp hx
    have hxid : x ≠ id := fun heq ↦ hready id (heq ▸ hj) hid
    have hxleft : x ∈ left := by
      by_contra hout
      exact hr.settled x (hg.inside id x hj).2 hout id hj hid
    exact (List.mem_erase_of_ne hxid).mpr hxleft
  · have hsplit := countP_erase (l := g.before x) (nodup_ascending _) hid hleft
    have hsame : id ∈ g.before x ↔ x ∈ g.after id := by rw [mem_before, mem_after]
    rw [h.count x hx, hsplit, if_congr hsame rfl rfl, if_neg List.not_mem_nil, Nat.add_zero]
  · have hold := h.mem_ready x
    rw [hs] at hold
    by_cases hxid : x = id
    · subst hxid
      simp [hnot, hleft.not_mem_erase]
    · have hstill : (∀ p, Joins g.edges p x → p ∉ left) ↔
          x ∉ g.after id ∧ ∀ p, Joins g.edges p x → p ∉ left.erase id := by
        constructor
        · intro hx
          exact ⟨fun hafter ↦ hx id (mem_after.mp hafter) hid,
            fun p hp hmem ↦ hx p hp (List.mem_of_mem_erase hmem)⟩
        · rintro ⟨hafter, hx⟩ p hp hmem
          have hpid : p ≠ id := fun heq ↦ hafter (mem_after.mpr (heq ▸ hp))
          exact hx p hp ((List.mem_erase_of_ne hpid).mpr hmem)
      rw [List.mem_erase_of_ne hxid, ← hstill]
      simpa [hxid] using hold

/-- What is ready is what the order of steps looks for. -/
theorem Counts.ready_eq (hr : g.Remains left) (h : Counts g left [] s) :
    s.ready = left.filter fun id ↦ (g.before id).all (!left.contains ·) := by
  refine eq_of_pairwise_lt h.ascending (hr.ascending.filter _) fun id ↦ ?_
  simp [h.mem_ready]

theorem run?_of_ready_eq_nil (hs : s.ready = []) (n : Nat) : run? g n s = some s := by
  induction n with
  | zero => rfl
  | succ n ih => rw [run?, step?, hs, Option.bind_some, ih]

/-- With as many steps as there are ids left, nothing is ready any more, and what is left has been
placed in the order of steps. -/
theorem Counts.run (hg : g.IsSound) {n : Nat} (hn : left.length ≤ n) (hr : g.Remains left)
    (h : Counts g left [] s) : ∃ s', run? g n s = some s' ∧ s'.ready = [] ∧
      s'.placed = s.placed ++ g.orderFrom n left := by
  induction n generalizing left s with
  | zero =>
    have hnil : left = [] := List.eq_nil_of_length_eq_zero (Nat.le_zero.mp hn)
    have hready : s.ready = [] := by rw [h.ready_eq hr, hnil, List.filter_nil]
    exact ⟨s, rfl, hready, (List.append_nil _).symm⟩
  | succ n ih =>
    have hfind : left.find? (fun id ↦ (g.before id).all (!left.contains ·)) = s.ready.head? := by
      rw [h.ready_eq hr, List.head?_filter]
    rw [orderFrom, hfind]
    cases hs : s.ready with
    | nil => exact ⟨s, run?_of_ready_eq_nil hs _, hs, (List.append_nil _).symm⟩
    | cons id ready =>
      obtain ⟨hid, -, hready⟩ := (h.mem_ready id).mp (hs ▸ List.mem_cons_self)
      have hafter : g.after id ⊆ g.ids := fun x hx ↦ (hg.inside id x (mem_after.mp hx)).2
      obtain ⟨s₁, hstep, hplaced, h₁⟩ := (h.place hg hr hs (s.placed ++ [id])).releaseAll hafter
        (nodup_ascending _)
      have hlength : (left.erase id).length ≤ n := by
        rw [List.length_erase_of_mem hid]
        omega
      obtain ⟨s₂, hrun, hdone, horder⟩ := ih hlength (hr.erase hready) h₁
      refine ⟨s₂, ?_, hdone, ?_⟩
      · rw [run?, step?, hs]
        exact (congrArg (Option.bind · (run? g n)) hstep).trans hrun
      · rw [horder, hplaced, List.append_assoc]
        rfl

/-- With one step for each id the counters come to an end: no counter falls below zero, nothing is
ready any more, and the ids have been placed in the order of steps. -/
theorem run?_start (hg : g.IsSound) :
    ∃ s, run? g g.ids.length (start g) = some s ∧ s.ready = [] ∧ s.placed = g.order :=
  (counts_start hg).run hg (Nat.le_refl _) hg.remains

end Countdown

end Blockflow
