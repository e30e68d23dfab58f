import Blockflow.Workflow.Event
import Mathlib.Data.List.Chain

/-!
# What events tell

Who only sees the events knows a value as the one that was told last. Events tell of a value if that
is the value as it is, and if each value that was told follows the one before it as it should: as
another one, or as one that lies further ahead.
-/

namespace Blockflow

variable {α : Type} {of? : Event → Option α} {r : α → α → Prop} {first now next : α}
  {events more : List Event}

/-- Whether events tell of a value that was the first one before them and is the given one now: the
value that was told last is the one now, and each value that was told comes after the one before
it. -/
structure Told (of? : Event → Option α) (r : α → α → Prop) (first now : α)
    (events : List Event) : Prop where
  /-- The last value is the one now. -/
  last : (events.filterMap of?).getLastD first = now
  /-- Each value comes after the one before it. -/
  chain : (first :: events.filterMap of?).IsChain r

namespace Told

theorem nil : Told of? r first first [] where
  last := rfl
  chain := List.isChain_singleton _

/-- Events that tell nothing of a value change nothing of it. -/
theorem append_of_eq_nil (h : Told of? r first now events) (hmore : more.filterMap of? = []) :
    Told of? r first now (events ++ more) := by
  have hsame : (events ++ more).filterMap of? = events.filterMap of? := by
    rw [List.filterMap_append, hmore, List.append_nil]
  exact ⟨hsame ▸ h.last, hsame ▸ h.chain⟩

/-- Events may tell one value that comes after the one now. -/
theorem append_of_eq_singleton (h : Told of? r first now events)
    (hmore : more.filterMap of? = [next]) (hr : r now next) :
    Told of? r first next (events ++ more) := by
  have hnext : (events ++ more).filterMap of? = events.filterMap of? ++ [next] := by
    rw [List.filterMap_append, hmore]
  have hlast : (first :: events.filterMap of?).getLast? = some now := by
    rw [List.getLast?_cons, ← List.getLastD_eq_getLast?, h.last]
  constructor
  · rw [hnext, List.getLastD_concat]
  · rw [hnext, ← List.cons_append, List.isChain_append, hlast]
    exact ⟨h.chain, List.isChain_singleton _, by simpa using hr⟩

section Rank

variable {rank : α → Nat}

private theorem rank_getLastD {first : α} {told : List α}
    (h : (first :: told).IsChain fun a b ↦ rank a < rank b) :
    told.length + rank first ≤ rank (told.getLastD first) := by
  induction told generalizing first with
  | nil => simp
  | cons next told ih =>
    obtain ⟨hnext, hrest⟩ := List.isChain_cons_cons.mp h
    have hlater := ih hrest
    rw [List.length_cons, List.getLastD_cons]
    omega

/-- If every value lies further ahead than the one before it, no more values are told than there are
steps from the first one to the one now. -/
theorem length_add_rank_le (h : Told of? (fun a b ↦ rank a < rank b) first now events) :
    (events.filterMap of?).length + rank first ≤ rank now :=
  h.last ▸ rank_getLastD h.chain

/-- If every value lies further ahead than the one before it, at most one is told of values that all
lie at the same place. -/
theorem countP_le_one (h : Told of? (fun a b ↦ rank a < rank b) first now events) {p : α → Bool}
    (hp : ∀ a b, p a = true → p b = true → rank a = rank b) :
    (events.filterMap of?).countP p ≤ 1 := by
  have : IsTrans α fun a b ↦ rank a < rank b := ⟨fun _ _ _ ↦ Nat.lt_trans⟩
  have hsorted := ((List.pairwise_cons.mp (List.isChain_iff_pairwise.mp h.chain)).2).filter p
  rw [List.countP_eq_length_filter]
  match hfilter : (events.filterMap of?).filter p with
  | [] | [_] => simp
  | a :: b :: rest =>
    have hmem : ∀ c ∈ a :: b :: rest, p c = true := fun c hc ↦
      (List.mem_filter.mp (hfilter ▸ hc)).2
    have hlt : rank a < rank b :=
      (List.pairwise_cons.mp (hfilter ▸ hsorted)).1 b List.mem_cons_self
    exact absurd (hp a b (hmem a (by simp)) (hmem b (by simp))) (Nat.ne_of_lt hlt)

end Rank

end Told

end Blockflow
