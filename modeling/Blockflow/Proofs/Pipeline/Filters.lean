import Blockflow.Pipeline.Triggers
import Mathlib.Data.List.Basic

/-!
# Lists of filters

Every list of a filter is written in one text with commas or as a list of texts. When filters are
put together, each list has the items of all of them in their order, and each item where it stands
first.
-/

namespace Blockflow

/-! ### Texts with commas -/

namespace Text

theorem cut_eq_splitOn (separator : Char) (cs : List Char) :
    cut separator cs = cs.splitOn separator := by
  induction cs with
  | nil => rfl
  | cons c cs ih =>
    rw [cut, List.splitOn_cons_eq_if_modifyHead, ← ih]
    by_cases hc : c = separator
    · rw [if_pos hc, if_pos (beq_iff_eq.mpr hc)]
    · rw [if_neg hc, if_neg (mt beq_iff_eq.mp hc)]
      cases hpieces : cut separator cs with
      | nil => exact absurd hpieces (cut_ne_nil separator cs)
      | cons piece pieces => rfl

private theorem filterMap_nonBlank? (l : List String) :
    l.filterMap nonBlank? = (l.map trim).filter (· ≠ "") := by
  induction l with
  | nil => rfl
  | cons s l ih => by_cases hs : trim s = "" <;> simp [nonBlank?, hs, ih]

/-- The parts of a text with commas are what stands between the commas, without blanks at the ends;
parts of nothing but blanks are left out. -/
theorem listed_eq (s : String) : listed s =
    ((s.toList.splitOn ',').map fun cs ↦ trim (String.ofList cs)).filter (· ≠ "") := by
  rw [listed, pieces, filterMap_nonBlank?, cut_eq_splitOn, List.map_map]
  rfl

end Text

/-! ### Filters put together -/

namespace EventFilter

/-- The lists of a filter. -/
inductive Part where
  /-- The types of event. -/
  | types
  /-- The branches. -/
  | branches
  /-- The paths of changed files. -/
  | paths
deriving DecidableEq

/-- A list of a filter. -/
def part (f : EventFilter) : Part → List String
  | .types => f.types
  | .branches => f.branches
  | .paths => f.paths

/-- The filter with the given lists. -/
def ofParts (lists : Part → List String) : EventFilter :=
  ⟨lists .types, lists .branches, lists .paths⟩

/-- Some filters put together: each list has the items of all of them in their order, and each item
where it stands first. -/
def joined (fs : List EventFilter) : EventFilter :=
  ofParts fun p ↦ (fs.flatMap (·.part p)).eraseDups

/-- Some filters put together, if there are any. -/
def joined? (fs : List EventFilter) : Option EventFilter :=
  if fs.isEmpty then none else some (joined fs)

theorem part_joined (fs : List EventFilter) (p : Part) :
    (joined fs).part p = (fs.flatMap (·.part p)).eraseDups := by cases p <;> rfl

theorem mem_part_joined {fs : List EventFilter} {p : Part} {item : String} :
    item ∈ (joined fs).part p ↔ ∃ f ∈ fs, item ∈ f.part p := by
  rw [part_joined, List.mem_eraseDups, List.mem_flatMap]

theorem isSome_joined?_iff {fs : List EventFilter} : (joined? fs).isSome ↔ fs ≠ [] := by
  cases fs <;> simp [joined?]

theorem getD_joined? (fs : List EventFilter) : (joined? fs).getD .free = joined fs := by
  cases fs with
  | nil => simp [joined?, joined, ofParts, free]
  | cons f fs => rfl

private theorem union_eraseDups (l more : List String) :
    union l.eraseDups more = (l ++ more).eraseDups := by
  induction more generalizing l with
  | nil => simp [union]
  | cons item more ih =>
    have hstep : (if l.eraseDups.contains item then l.eraseDups else l.eraseDups ++ [item]) =
        (l ++ [item]).eraseDups := by
      rw [List.eraseDups_append]
      by_cases hthere : item ∈ l <;> simp [List.removeAll, List.eraseDups_cons, hthere]
    rw [union, List.foldl_cons, hstep, ← union, ih, List.append_assoc, List.singleton_append]

private theorem merge_joined (fs : List EventFilter) (f : EventFilter) :
    (joined fs).merge f = joined (fs ++ [f]) := by
  simp only [merge, joined, ofParts, union_eraseDups, List.flatMap_append, List.flatMap_singleton]
  rfl

/-- Filters that are put one behind the other are put together. -/
theorem foldl_addFilter (fs gs : List EventFilter) :
    gs.foldl Events.addFilter (joined? fs) = joined? (fs ++ gs) := by
  induction gs generalizing fs with
  | nil => rw [List.foldl_nil, List.append_nil]
  | cons g gs ih =>
    have hstep : Events.addFilter (joined? fs) g = joined? (fs ++ [g]) := by
      rw [Events.addFilter, getD_joined?, merge_joined, joined?, if_neg (by simp)]
    rw [List.foldl_cons, hstep, ih, List.append_assoc, List.singleton_append]

end EventFilter

end Blockflow
