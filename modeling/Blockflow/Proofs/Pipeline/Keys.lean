import Blockflow.Pipeline.Plan
import Mathlib.Data.List.Nodup
import Mathlib.Data.List.Perm.Subperm

/-!
# Free keys

The search for a key that no job has yet always ends, and with one key only: among more numbered
forms than there are keys, one is free.
-/

namespace Blockflow.Plan

theorem toString_injective {m n : Nat} (h : toString m = toString n) : m = n := by
  rw [Nat.toString_eq_repr, Nat.toString_eq_repr, Nat.repr_eq_ofList_toDigits,
    Nat.repr_eq_ofList_toDigits, String.ofList_inj] at h
  rw [← Nat.ofDigitChars_ten_toDigits (n := m), h, Nat.ofDigitChars_ten_toDigits]

/-- If the search ends with a key that is taken, so are all numbered forms that it has tried. -/
private theorem mem_of_numberedKey_mem {taken : List String} {key : String} {fuel n : Nat}
    (h : numberedKey taken key fuel n ∈ taken) :
    ∀ m ∈ List.range' n (fuel + 1), key ++ "-" ++ toString m ∈ taken := by
  induction fuel generalizing n with
  | zero => simpa [numberedKey] using h
  | succ fuel ih =>
    simp only [numberedKey, List.contains_iff_mem] at h
    split at h
    · next hn =>
      intro m hm
      rw [List.range'_succ, List.mem_cons] at hm
      rcases hm with rfl | hm
      · exact hn
      · exact ih h m hm
    · next hn => exact absurd h hn

/-- The key that a new job gets is not taken. -/
theorem freeKey_not_mem (taken : List String) (key : String) : freeKey taken key ∉ taken := by
  rw [freeKey]
  split
  · intro h
    let tried := (List.range' 2 (taken.length + 1)).map fun m ↦ key ++ "-" ++ toString m
    have hsub : tried ⊆ taken := by
      intro candidate hc
      obtain ⟨m, hm, rfl⟩ := List.mem_map.mp hc
      exact mem_of_numberedKey_mem h m hm
    have hnodup : tried.Nodup := by
      apply List.Nodup.map _ List.nodup_range'
      intro m n hmn
      exact toString_injective ((String.append_right_inj _).mp hmn)
    have hle : tried.length ≤ taken.length := (List.subperm_of_subset hnodup hsub).length_le
    simp only [tried, List.length_map, List.length_range'] at hle
    omega
  · next h => simpa using h

/-! ### The search -/

/-- How a search for a key that is not taken goes on from a candidate, with the number of the form
that is to be tried after it, and with which key it ends. -/
inductive Finds (taken : List String) (key : String) : String → Nat → String → Prop where
  /-- A candidate that is not taken is found. -/
  | free {candidate : String} {n : Nat} (h : candidate ∉ taken) :
    Finds taken key candidate n candidate
  /-- After a candidate that is taken the next numbered form is tried. -/
  | next {candidate found : String} {n : Nat} (h : candidate ∈ taken)
    (hnext : Finds taken key (key ++ "-" ++ toString n) (n + 1) found) :
    Finds taken key candidate n found

variable {taken : List String} {key candidate found found' : String} {n : Nat}

/-- A search does not end with two different keys. -/
theorem Finds.eq (h : Finds taken key candidate n found) (h' : Finds taken key candidate n found') :
    found = found' := by
  induction h with
  | free hfree =>
    cases h' with
    | free => rfl
    | next htaken => exact absurd htaken hfree
  | next htaken _ ih =>
    cases h' with
    | free hfree => exact absurd htaken hfree
    | next _ hnext => exact ih hnext

private theorem finds_numberedKey {fuel : Nat} (h : numberedKey taken key fuel n ∉ taken) :
    Finds taken key (key ++ "-" ++ toString n) (n + 1) (numberedKey taken key fuel n) := by
  induction fuel generalizing n with
  | zero => exact .free h
  | succ fuel ih =>
    simp only [numberedKey, List.contains_iff_mem] at h ⊢
    split at h
    · next hn =>
      rw [if_pos hn]
      exact .next hn (ih h)
    · next hn =>
      rw [if_neg hn]
      exact .free hn

/-- The search for the key of a new job ends with a key that is not taken, and with no other one. -/
theorem finds_iff : Finds taken key key 2 found ↔ found = freeKey taken key := by
  have hends : Finds taken key key 2 (freeKey taken key) := by
    have hfree := freeKey_not_mem taken key
    simp only [freeKey, List.contains_iff_mem] at hfree ⊢
    split at hfree
    · next hkey =>
      rw [if_pos hkey]
      exact .next hkey (finds_numberedKey hfree)
    · next hkey =>
      rw [if_neg hkey]
      exact .free hkey
  exact ⟨fun h ↦ h.eq hends, fun h ↦ h ▸ hends⟩

end Blockflow.Plan
