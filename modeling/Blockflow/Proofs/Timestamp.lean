import Blockflow.Timestamp
import Mathlib.Data.List.Basic
import Mathlib.Data.Prod.Lex
import Mathlib.Order.MinMax

/-!
# The order of points in time

Points in time come one after the other: by day, by the second of the day, and by the fraction of
the second. So the earliest and the latest point of a list depend on nothing but its members.
-/

namespace Blockflow

namespace Timestamp

variable {a b t : Timestamp} {l m : List Timestamp}

/-- What decides which of two points is the earlier one, the most significant part first. -/
private def key (t : Timestamp) : Int ×ₗ Nat ×ₗ Nat := toLex (t.day, toLex (t.second, t.nano))

private theorem key_injective : Function.Injective key := by
  rintro ⟨day, second, nano⟩ ⟨day', second', nano'⟩ h
  simpa [key] using h

instance : LinearOrder Timestamp := LinearOrder.lift' key key_injective

instance : Std.LawfulOrderMax Timestamp where
  max_eq_or := max_choice

theorem isBefore_iff_lt : a.isBefore b = true ↔ a < b := by
  have hkey : a < b ↔ a.key < b.key := Iff.rfl
  simp [hkey, key, isBefore, Prod.Lex.toLex_lt_toLex]

private theorem min_eq (a b : Timestamp) : Timestamp.min a b = Min.min a b := by
  rw [Timestamp.min, min_comm, min_def_lt]
  exact if_congr isBefore_iff_lt rfl rfl

private theorem max_eq (a b : Timestamp) : Timestamp.max a b = Max.max a b := by
  rw [Timestamp.max, max_comm, max_def_lt]
  exact if_congr isBefore_iff_lt rfl rfl

theorem earliest?_eq_some_iff : earliest? l = some t ↔ t ∈ l ∧ ∀ u ∈ l, t ≤ u := by
  have hmin : earliest? l = l.min? := by
    cases l with
    | nil => rfl
    | cons u l =>
      rw [earliest?, List.min?_cons', funext₂ min_eq]
  rw [hmin, List.min?_eq_some_iff]

theorem latest?_eq_some_iff : latest? l = some t ↔ t ∈ l ∧ ∀ u ∈ l, u ≤ t := by
  have hmax : latest? l = l.max? := by
    cases l with
    | nil => rfl
    | cons u l =>
      rw [latest?, List.max?_cons', funext₂ max_eq]
  rw [hmax, List.max?_eq_some_iff]

/-- Only the members of a list count for its earliest point. -/
theorem earliest?_congr (h : ∀ u, u ∈ l ↔ u ∈ m) : earliest? l = earliest? m := by
  ext t
  simp only [earliest?_eq_some_iff, h]

/-- Only the members of a list count for its latest point. -/
theorem latest?_congr (h : ∀ u, u ∈ l ↔ u ∈ m) : latest? l = latest? m := by
  ext t
  simp only [latest?_eq_some_iff, h]

end Timestamp

end Blockflow
