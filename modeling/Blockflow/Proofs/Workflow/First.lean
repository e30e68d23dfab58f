import Blockflow.Workflow.Basic
import Mathlib.Data.List.Pairwise

/-!
# First elements

To change, to drop or to find the first element that satisfies a condition is to do so with every
such element, if there is at most one.
-/

namespace Blockflow.Workflow

variable {α β : Type} {q : α → Bool} {f : α → α} {l : List α}

/-- What a change leaves alone is what it was in every element. -/
theorem map_changeFirst {g : α → β} (hg : ∀ a, g (f a) = g a) (l : List α) :
    (changeFirst q f l).map g = l.map g := by
  induction l with
  | nil => rfl
  | cons a l ih =>
    rw [changeFirst]
    split
    · rw [List.map_cons, List.map_cons, hg]
    · rw [List.map_cons, List.map_cons, ih]

theorem changeFirst_eq_map (h : l.Pairwise fun a b ↦ ¬(q a = true ∧ q b = true)) :
    changeFirst q f l = l.map fun a ↦ if q a then f a else a := by
  induction l with
  | nil => rfl
  | cons a l ih =>
    obtain ⟨ha, hl⟩ := List.pairwise_cons.mp h
    rw [changeFirst, List.map_cons]
    split
    · next hq =>
      have hrest : l.map (fun c ↦ if q c then f c else c) = l.map fun c ↦ c := by
        apply List.map_congr_left
        intro c hc
        exact if_neg fun hqc ↦ ha c hc ⟨hq, hqc⟩
      rw [hrest, List.map_id']
    · rw [ih hl]

theorem eraseP_eq_filter (h : l.Pairwise fun a b ↦ ¬(q a = true ∧ q b = true)) :
    l.eraseP q = l.filter fun a ↦ !q a := by
  induction l with
  | nil => rfl
  | cons a l ih =>
    obtain ⟨ha, hl⟩ := List.pairwise_cons.mp h
    by_cases hq : q a = true
    · have hrest : ∀ c ∈ l, (!q c) = true := by
        intro c hc
        rw [Bool.not_eq_true', Bool.eq_false_iff]
        exact fun hqc ↦ ha c hc ⟨hq, hqc⟩
      rw [List.eraseP_cons_of_pos hq, List.filter_cons_of_neg (by simpa using hq),
        List.filter_eq_self.mpr hrest]
    · rw [List.eraseP_cons_of_neg hq, List.filter_cons_of_pos (by simpa using hq), ih hl]

theorem filter_eq_toList_find? (h : l.Pairwise fun a b ↦ ¬(q a = true ∧ q b = true)) :
    l.filter q = (l.find? q).toList := by
  induction l with
  | nil => rfl
  | cons a l ih =>
    obtain ⟨ha, hl⟩ := List.pairwise_cons.mp h
    by_cases hq : q a = true
    · have hrest : l.filter q = [] :=
        List.filter_eq_nil_iff.mpr fun c hc hqc ↦ ha c hc ⟨hq, hqc⟩
      rw [List.filter_cons_of_pos hq, hrest, List.find?_cons_of_pos hq, Option.toList_some]
    · rw [List.filter_cons_of_neg hq, List.find?_cons_of_neg hq, ih hl]

/-- Of elements with different ids, at most one has a given id. -/
theorem pairwise_of_nodup_map {key : α → String} (h : (l.map key).Nodup) (id : String) :
    l.Pairwise fun a b ↦ ¬((key a == id) = true ∧ (key b == id) = true) := by
  refine (List.pairwise_map.mp h).imp fun hne ⟨ha, hb⟩ ↦ hne ?_
  rw [eq_of_beq ha, eq_of_beq hb]

end Blockflow.Workflow
