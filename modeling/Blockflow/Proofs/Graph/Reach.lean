import Blockflow.Workflow.Graph
import Mathlib.Data.List.Cycle
import Mathlib.Logic.Relation

/-!
# Reachability along connections

A search that visits one id after the other comes to an end, in whatever order it goes on, and has
the whole answer then: an id is found exactly if a path leads to it. So an id is reported to be on a
cycle exactly if a path of at least one edge leads from it back to it, and that is the case exactly
if it stands on a cycle of different ids.
-/

namespace Blockflow

open Relation

namespace Graph

/-- One id comes right before another one. -/
def Joins (edges : List (String × String)) (a b : String) : Prop := (a, b) ∈ edges

end Graph

open Blockflow.Graph

namespace Workflow

variable {edges : List (String × String)} {a b id : String}

@[simp] theorem mem_successors : b ∈ successors edges a ↔ Joins edges a b := by
  simp [successors, Joins]

@[simp] theorem mem_predecessors : a ∈ predecessors edges b ↔ Joins edges a b := by
  simp [predecessors, Joins]

end Workflow

namespace Graph

open Workflow

variable {edges : List (String × String)} {start todo visited : List String} {turns : Nat}

/-! ### Searches -/

/-- How a search goes about. It visits one id after the other, until it comes to one that it looks
for or there is nothing more to visit. -/
structure Search where
  /-- What it finds right after an id. -/
  next : String → List String
  /-- How it puts what it has found to the ids that it has still to visit. -/
  enqueue : (todo found : List String) → List String
  /-- Which ids it looks for. -/
  goal : String → Bool

/-- How a search has ended. -/
inductive Search.End where
  /-- It has come to an id that it looks for. -/
  | atGoal
  /-- It has visited these ids, and there is nothing more to visit. -/
  | exhausted (visited : List String)

namespace Search

/-- How a search ends, if it does within so many turns. In each turn it takes the first id that it
has still to visit; if it has not visited it before, it is to visit whatever comes right after it
too. -/
def run? (s : Search) : Nat → (todo visited : List String) → Option End
  | 0, _, _ => none
  | _ + 1, [], visited => some (.exhausted visited)
  | turns + 1, current :: todo, visited =>
    if s.goal current then some .atGoal
    else if visited.contains current then s.run? turns todo visited
    else s.run? turns (s.enqueue todo (s.next current)) (current :: visited)

/-- Whether a search goes along some edges and nowhere else, at most once along each, and loses none
of the ids that it has still to visit. -/
structure Follows (s : Search) (edges : List (String × String)) : Prop where
  /-- It finds what the edges lead to. -/
  mem_next : ∀ a b, b ∈ s.next a ↔ Joins edges a b
  /-- It finds nothing more often than edges lead to it. -/
  length_next : ∀ a, (s.next a).length ≤ (successors edges a).length
  /-- It keeps what it has found and what it had to visit before. -/
  perm_enqueue : ∀ todo found, (s.enqueue todo found).Perm (todo ++ found)

/-- Whether paths along some edges lead from some ids to another one. -/
def Reaches (edges : List (String × String)) (start : List String) (x : String) : Prop :=
  ∃ a ∈ start, ReflTransGen (Joins edges) a x

/-- What the end of a search says: there is a path to an id that it looks for, or there is none and
the search has visited whatever a path leads to. -/
def Tells (s : Search) (edges : List (String × String)) (start : List String) : End → Prop
  | .atGoal => ∃ x, s.goal x = true ∧ Reaches edges start x
  | .exhausted visited =>
    (∀ x, x ∈ visited ↔ Reaches edges start x) ∧ ∀ x ∈ visited, s.goal x = false

/-- What holds in the course of a search. -/
structure Sound (s : Search) (edges : List (String × String)) (start todo visited : List String) :
    Prop where
  /-- Paths lead to whatever has been visited or is to be visited. -/
  reached : ∀ x, x ∈ visited ∨ x ∈ todo → Reaches edges start x
  /-- The ids that it started from have been visited or are to be visited. -/
  begun : ∀ x ∈ start, x ∈ visited ∨ x ∈ todo
  /-- So has been or is whatever comes right after an id that has been visited. -/
  closed : ∀ a ∈ visited, ∀ b, Joins edges a b → b ∈ visited ∨ b ∈ todo
  /-- No id that it looks for has been visited. -/
  missed : ∀ x ∈ visited, s.goal x = false

variable {s : Search} {id x : String}

theorem sound_start (s : Search) (edges : List (String × String)) (start : List String) :
    s.Sound edges start start [] where
  reached x hx := by
    rcases hx with hx | hx
    · exact absurd hx List.not_mem_nil
    · exact ⟨x, hx, .refl⟩
  begun _ hx := .inr hx
  closed a ha := absurd ha List.not_mem_nil
  missed x hx := absurd hx List.not_mem_nil

/-- An id that has been visited before need not be visited again. -/
theorem Sound.skip (h : s.Sound edges start (id :: todo) visited) (hid : id ∈ visited) :
    s.Sound edges start todo visited := by
  have hknown (x : String) : x ∈ visited ∨ x ∈ id :: todo ↔ x ∈ visited ∨ x ∈ todo := by
    rw [List.mem_cons]
    constructor
    · rintro (hx | rfl | hx)
      · exact .inl hx
      · exact .inl hid
      · exact .inr hx
    · exact Or.imp_right .inr
  refine ⟨fun x hx ↦ ?_, fun x hx ↦ ?_, fun a ha b hab ↦ ?_, h.missed⟩
  · apply h.reached
    rwa [hknown]
  · rw [← hknown]
    exact h.begun x hx
  · rw [← hknown]
    exact h.closed a ha b hab

/-- An id that is visited is one that paths lead to, and so is whatever comes right after it. -/
theorem Sound.visit (hs : s.Follows edges) (h : s.Sound edges start (id :: todo) visited)
    (hgoal : s.goal id = false) :
    s.Sound edges start (s.enqueue todo (s.next id)) (id :: visited) := by
  have hknown (x : String) : x ∈ id :: visited ∨ x ∈ s.enqueue todo (s.next id) ↔
      (x ∈ visited ∨ x ∈ id :: todo) ∨ Joins edges id x := by
    rw [(hs.perm_enqueue _ _).mem_iff, List.mem_append, hs.mem_next, List.mem_cons, List.mem_cons]
    simp only [or_assoc]
    exact or_left_comm
  have hid : Reaches edges start id := h.reached id (.inr List.mem_cons_self)
  refine ⟨fun x hx ↦ ?_, fun x hx ↦ ?_, fun a ha b hab ↦ ?_, fun x hx ↦ ?_⟩
  · rw [hknown] at hx
    rcases hx with hx | hx
    · exact h.reached x hx
    · obtain ⟨a, ha, hp⟩ := hid
      exact ⟨a, ha, hp.tail hx⟩
  · rw [hknown]
    exact .inl (h.begun x hx)
  · rw [hknown]
    rcases List.mem_cons.mp ha with rfl | ha
    · exact .inr hab
    · exact .inl (h.closed a ha b hab)
  · rcases List.mem_cons.mp hx with rfl | hx
    · exact hgoal
    · exact h.missed x hx

/-- With nothing more to visit everything that paths lead to has been visited. -/
theorem Sound.exhausted (h : s.Sound edges start [] visited) :
    s.Tells edges start (.exhausted visited) := by
  refine ⟨fun x ↦ ⟨fun hx ↦ h.reached x (.inl hx), ?_⟩, h.missed⟩
  rintro ⟨a, ha, hp⟩
  induction hp with
  | refl => exact (h.begun a ha).resolve_right List.not_mem_nil
  | tail _ hbc ih => exact (h.closed _ ih _ hbc).resolve_right List.not_mem_nil

/-! ### How long a search takes -/

/-- What a search has still to look at: the ids to be visited, and the edges from ids that have not
been visited. -/
private def work (edges : List (String × String)) (todo visited : List String) : Nat :=
  todo.length + (edges.filter fun e ↦ !visited.contains e.1).length

private theorem length_filter_visit (edges : List (String × String)) (h : id ∉ visited) :
    (successors edges id).length + (edges.filter fun e ↦ !(id :: visited).contains e.1).length =
      (edges.filter fun e ↦ !visited.contains e.1).length := by
  induction edges with
  | nil => rfl
  | cons e rest ih =>
    by_cases he : e.1 = id
    · simp_all [successors]
      omega
    · by_cases hr : e.1 ∈ visited
      · simp_all [successors]
      · simp_all [successors]
        omega

private theorem work_visit (hs : s.Follows edges) (h : id ∉ visited) :
    work edges (s.enqueue todo (s.next id)) (id :: visited) < work edges (id :: todo) visited := by
  have hsplit := length_filter_visit edges h
  have hnext := hs.length_next id
  simp only [work, (hs.perm_enqueue _ _).length_eq, List.length_append, List.length_cons]
  omega

private theorem work_start_le (edges : List (String × String)) (start : List String) :
    work edges start [] ≤ start.length + edges.length := by
  apply Nat.add_le_add_left
  apply List.length_filter_le

/-- A search in the course of which there is less to look at than there are turns comes to its end,
and the end says what paths lead to. -/
private theorem Sound.run (hs : s.Follows edges) (hturns : work edges todo visited < turns)
    (h : s.Sound edges start todo visited) :
    ∃ e, s.run? turns todo visited = some e ∧ s.Tells edges start e := by
  induction turns generalizing todo visited with
  | zero => exact absurd hturns (Nat.not_lt_zero _)
  | succ turns ih =>
    cases todo with
    | nil => exact ⟨_, rfl, h.exhausted⟩
    | cons id todo =>
      rw [run?]
      by_cases hgoal : s.goal id = true
      · rw [if_pos hgoal]
        exact ⟨.atGoal, rfl, id, hgoal, h.reached id (.inr List.mem_cons_self)⟩
      · rw [if_neg hgoal]
        by_cases hid : id ∈ visited
        · rw [if_pos (List.contains_iff_mem.mpr hid)]
          apply ih _ (h.skip hid)
          simp only [work, List.length_cons] at hturns ⊢
          omega
        · rw [if_neg (mt List.contains_iff_mem.mp hid)]
          apply ih _ (h.visit hs (Bool.eq_false_iff.mpr hgoal))
          have hless : work edges (s.enqueue todo (s.next id)) (id :: visited) <
              work edges (id :: todo) visited := work_visit hs hid
          omega

/-- Every search ends: one turn for each start and each edge, and one more, are enough. -/
theorem Follows.exists_run? (hs : s.Follows edges) (hturns : start.length + edges.length < turns) :
    ∃ e, s.run? turns start [] = some e ∧ s.Tells edges start e :=
  (sound_start s edges start).run hs (Nat.lt_of_le_of_lt (work_start_le edges start) hturns)

/-- The search that visits first whatever comes right after the id that it has visited last, and
looks for nothing. -/
def plain (edges : List (String × String)) : Search :=
  ⟨successors edges, fun todo found ↦ found ++ todo, fun _ ↦ false⟩

theorem follows_plain (edges : List (String × String)) : (plain edges).Follows edges :=
  ⟨fun _ _ ↦ mem_successors, fun _ ↦ Nat.le_refl _, fun _ _ ↦ List.perm_append_comm⟩

private theorem reachFrom_of_run? {fuel : Nat} {found : List String}
    (h : (plain edges).run? (fuel + 1) todo visited = some (.exhausted found)) :
    reachFrom (successors edges) fuel todo visited = found := by
  induction fuel generalizing todo visited with
  | zero =>
    cases todo with
    | nil => simpa [run?, reachFrom] using h
    | cons id todo => simp [run?, plain] at h
  | succ fuel ih =>
    cases todo with
    | nil => simpa [run?, reachFrom] using h
    | cons id todo =>
      have hgoal : (plain edges).goal id = false := rfl
      rw [run?, hgoal, if_neg Bool.false_ne_true] at h
      rw [reachFrom]
      split at h
      · next hid =>
        rw [if_pos hid]
        exact ih h
      · next hid =>
        rw [if_neg hid]
        exact ih h

end Search

/-- With one visit for each start and each edge, what is found is what paths lead to from one of the
starts. -/
theorem mem_reachFrom {fuel : Nat} {x : String} (hf : start.length + edges.length ≤ fuel) :
    x ∈ reachFrom (successors edges) fuel start [] ↔
      ∃ s ∈ start, ReflTransGen (Joins edges) s x := by
  have hturns : start.length + edges.length < fuel + 1 := Nat.lt_succ_of_le hf
  obtain ⟨e, hrun, htells⟩ := (Search.follows_plain edges).exists_run? hturns
  cases e with
  | atGoal =>
    obtain ⟨x, hx, -⟩ := htells
    exact absurd hx Bool.false_ne_true
  | exhausted found =>
    rw [Search.reachFrom_of_run? hrun]
    exact htells.1 x

/-- A path along some edges and one more edge avoids that one, or leads to its start and on from its
end without it. -/
theorem reflTransGen_or_of_edge {α : Type} {rel : α → α → Prop} {s t a b : α}
    (h : ReflTransGen (fun x y ↦ rel x y ∨ x = s ∧ y = t) a b) :
    ReflTransGen rel a b ∨ ReflTransGen rel a s ∧ ReflTransGen rel t b := by
  induction h with
  | refl => exact .inl .refl
  | tail _ hstep ih =>
    rcases hstep with hrel | ⟨rfl, rfl⟩
    · exact ih.imp (·.tail hrel) fun h ↦ ⟨h.1, h.2.tail hrel⟩
    · exact .inr ⟨ih.elim id And.left, .refl⟩

/-! ### Cycles -/

/-- If a path leads from one place to another, so does one that comes to no place twice. -/
theorem exists_nodup_path {α : Type} {rel : α → α → Prop} {a b : α} (h : ReflTransGen rel a b) :
    ∃ rest : List α, (a :: rest).Nodup ∧ (a :: rest).IsChain rel ∧
      (a :: rest).getLast? = some b := by
  induction h using ReflTransGen.head_induction_on with
  | refl => exact ⟨[], List.nodup_singleton b, .singleton b, rfl⟩
  | @head a c hac _ ih =>
    obtain ⟨rest, hnodup, hchain, hlast⟩ := ih
    by_cases ha : a ∈ c :: rest
    · -- the path comes back to where it started, so what lies before is left out
      obtain ⟨detour, rest', hsplit⟩ := List.append_of_mem ha
      rw [hsplit] at hnodup hchain hlast
      refine ⟨rest', (List.nodup_append.mp hnodup).2.1, hchain.right_of_append, ?_⟩
      rw [← hlast, List.getLast?_append_cons]
    · exact ⟨c :: rest, List.nodup_cons.mpr ⟨ha, hnodup⟩, hchain.cons_cons hac, hlast⟩

/-- A path of at least one step leads from a place back to it exactly if the place lies on a cycle
of different places. -/
theorem transGen_self_iff {α : Type} {rel : α → α → Prop} {a : α} :
    TransGen rel a a ↔ ∃ c : Cycle α, c.Nodup ∧ c.Chain rel ∧ a ∈ c := by
  constructor
  · intro h
    obtain ⟨b, hab, hba⟩ := TransGen.tail'_iff.mp h
    obtain ⟨rest, hnodup, hchain, hlast⟩ := exists_nodup_path hab
    refine ⟨(a :: rest : List α), hnodup, ?_, List.mem_cons_self⟩
    rw [Cycle.chain_coe_cons, ← List.cons_append]
    apply hchain.append (.singleton a)
    intro x hx y hy
    rw [hlast, Option.mem_some_iff] at hx
    rw [List.head?_cons, Option.mem_some_iff] at hy
    rwa [← hx, ← hy]
  · rintro ⟨c, -, hchain, ha⟩
    have hpaths : c.Chain (TransGen rel) := hchain.imp fun _ _ ↦ .single
    exact Cycle.chain_iff_pairwise.mp hpaths a ha a ha

end Graph

namespace Workflow

variable {edges : List (String × String)} {start : List String} {id : String}

/-- What is found from some ids is what paths lead to from one of them. -/
theorem mem_reachable {x : String} :
    x ∈ reachable edges start ↔ ∃ s ∈ start, ReflTransGen (Joins edges) s x :=
  mem_reachFrom (Nat.le_succ _)

/-- An id is on a cycle if a path of at least one edge leads from it back to it. -/
theorem isOnCycle_iff : isOnCycle edges id = true ↔ TransGen (Joins edges) id id := by
  rw [isOnCycle, List.contains_iff_mem, mem_reachable, TransGen.head'_iff]
  simp only [mem_successors]

end Workflow

end Blockflow
