import Blockflow.Remote.Options
import Mathlib.Algebra.Order.Group.Nat
import Mathlib.Order.MinMax

/-!
# Waits that grow

The wait after failures doubles with each of them, up to a longest one. Main statement: it never
shrinks and never exceeds the longest one, but it stops doubling after so many failures; so it is
the doubled one, whatever the number of failures, exactly if the longest wait has been reached by
then.
-/

namespace Blockflow.Pace

variable {p : Pace} {failures : Nat}

/-- The wait after so many failures in a row that doubles with each failure after the first one, up
to the longest one. -/
def doubled (p : Pace) (failures : Nat) : Nat :=
  min (p.backoffBase * 2 ^ (failures - 1)) p.backoffMax

theorem monotone_doubled (p : Pace) : Monotone p.doubled := by
  intro f g hle
  have hpow : 2 ^ (f - 1) ≤ 2 ^ (g - 1) :=
    Nat.pow_le_pow_right Nat.two_pos (Nat.sub_le_sub_right hle 1)
  exact min_le_min (Nat.mul_le_mul_left _ hpow) (Nat.le_refl _)

/-- No failure counts beyond the one with the last doubling. -/
theorem backoff_eq_doubled_min (h : p.backoffMax ≤ longestWait) (failures : Nat) :
    p.backoff failures = p.doubled (min failures (maxDoublings + 1)) := by
  have hdoublings : min failures (maxDoublings + 1) - 1 = min (failures - 1) maxDoublings := by
    omega
  rw [backoff, doubled, hdoublings, Nat.min_assoc, Nat.min_eq_right h]
  rfl

/-- Doubling goes on after the last one that counts, unless there is nothing to double or the
longest wait has been reached. -/
theorem doubled_eq_iff {last : Nat} (hlast : 0 < last) (hlt : last < failures) :
    p.doubled last = p.doubled failures ↔
      p.backoffBase = 0 ∨ p.backoffMax ≤ p.backoffBase * 2 ^ (last - 1) := by
  rw [doubled, doubled]
  constructor
  · intro heq
    by_contra hneither
    obtain ⟨hbase, hbelow⟩ := not_or.mp hneither
    have hpow : 2 ^ (last - 1) < 2 ^ (failures - 1) :=
      Nat.pow_lt_pow_right Nat.one_lt_two (by omega)
    have hmore : p.backoffBase * 2 ^ (last - 1) < p.backoffBase * 2 ^ (failures - 1) :=
      Nat.mul_lt_mul_of_pos_left hpow (Nat.pos_of_ne_zero hbase)
    omega
  · rintro (hbase | hreached)
    · rw [hbase, Nat.zero_mul, Nat.zero_mul]
    · have hpow : 2 ^ (last - 1) ≤ 2 ^ (failures - 1) :=
        Nat.pow_le_pow_right Nat.two_pos (by omega)
      have hmore := hreached.trans (Nat.mul_le_mul_left p.backoffBase hpow)
      rw [Nat.min_eq_right hreached, Nat.min_eq_right hmore]

/-- The wait never shrinks, and never exceeds the longest one. It is the doubled one as long as
failures count, and from then on exactly if there is nothing to double or the longest wait has been
reached. -/
theorem backoff_eq_doubled_iff (h : p.backoffMax ≤ longestWait) :
    Monotone p.backoff ∧ (∀ failures, p.backoff failures ≤ p.backoffMax) ∧
      ∀ failures, 1 ≤ failures → (p.backoff failures = p.doubled failures ↔
        failures ≤ maxDoublings + 1 ∨ p.backoffBase = 0 ∨
          p.backoffMax ≤ p.backoffBase * 2 ^ maxDoublings) := by
  have hbackoff := backoff_eq_doubled_min h
  refine ⟨fun f g hle ↦ ?_, fun f ↦ Nat.min_le_right _ _, fun f _ ↦ ?_⟩
  · rw [hbackoff, hbackoff]
    exact p.monotone_doubled (min_le_min_right _ hle)
  · rw [hbackoff]
    by_cases hcounts : f ≤ maxDoublings + 1
    · rw [Nat.min_eq_left hcounts]
      exact iff_of_true rfl (.inl hcounts)
    · have hlt := Nat.lt_of_not_le hcounts
      rw [Nat.min_eq_right hlt.le, doubled_eq_iff (Nat.succ_pos _) hlt, or_iff_right hcounts,
        Nat.succ_sub_one]

/-- Where nothing has been set, the longest wait is reached in time. -/
theorem backoff_eq_doubled_initial : initial.backoffMax ≤ longestWait ∧
    ∀ failures, 1 ≤ failures → initial.backoff failures = initial.doubled failures := by
  have h : initial.backoffMax ≤ longestWait := by decide
  refine ⟨h, fun failures hsome ↦ ?_⟩
  exact ((backoff_eq_doubled_iff h).2.2 failures hsome).mpr (.inr (.inr (by decide)))

/-- A pace with a short wait after one failure, and a long one in the end. -/
private def patient : Pace := { initial with backoffBase := 1, backoffMax := 3000000 }

/-- The wait is not doubled once more although it is below the longest one. -/
theorem backoff_ne_doubled_patient : patient.backoffBase ≤ longestWait ∧
    patient.backoffMax ≤ longestWait ∧ patient.backoff 22 = 1048576 ∧
    patient.doubled 22 = 2097152 := by
  decide

end Blockflow.Pace
