import Blockflow.Ids
import Mathlib.Data.List.Nodup
import Mathlib.Data.List.Perm.Subperm
import Mathlib.Data.Nat.ModEq

/-!
# Free ids

A search for an id never ends at one that is taken, and it finds one if any is left. Ids start over
after the last one of their width, so none may be left.
-/

namespace Blockflow.Ids

open Text (hexDigit)

/-! ### Digits -/

/-- Whether a character is one of the sixteen small hexadecimal digits. -/
def IsHexDigit (c : Char) : Prop := c ∈ "0123456789abcdef".toList

instance (c : Char) : Decidable (IsHexDigit c) := inferInstanceAs (Decidable (c ∈ _))

private theorem hexDigit_injective :
    ∀ m < 16, ∀ n < 16, hexDigit m = hexDigit n → m = n := by decide

private theorem isHexDigit_hexDigit : ∀ n < 16, IsHexDigit (hexDigit n) := by decide

theorem length_hex (width n : Nat) : (hex width n).length = width := by
  induction width generalizing n with
  | zero => rfl
  | succ width ih => rw [hex, List.length_append, ih, List.length_singleton]

theorem isHexDigit_of_mem_hex {width n : Nat} {c : Char} (h : c ∈ hex width n) :
    IsHexDigit c := by
  induction width generalizing n with
  | zero => exact absurd h List.not_mem_nil
  | succ width ih =>
    rw [hex, List.mem_append, List.mem_singleton] at h
    rcases h with h | rfl
    · exact ih h
    · exact isHexDigit_hexDigit _ (Nat.mod_lt _ (by decide))

/-- The last digits of two numbers are the same exactly if the numbers are, up to multiples of the
first number that has more digits. -/
theorem hex_eq_hex_iff {width m n : Nat} :
    hex width m = hex width n ↔ m % 16 ^ width = n % 16 ^ width := by
  induction width generalizing m n with
  | zero => simp [hex, Nat.mod_one]
  | succ width ih =>
    have hm := Nat.mod_lt m (show 0 < 16 by decide)
    have hn := Nat.mod_lt n (show 0 < 16 by decide)
    have hdigit : hexDigit (m % 16) = hexDigit (n % 16) ↔ m % 16 = n % 16 :=
      ⟨hexDigit_injective _ hm _ hn, congrArg hexDigit⟩
    rw [hex, hex, List.append_singleton_inj, ih, hdigit, Nat.pow_succ', Nat.mod_mul, Nat.mod_mul]
    omega

/-! ### Ids of blocks -/

/-- Whether a text has the form of a block's id: a fixed start and twelve digits. -/
def IsBlock (id : String) : Prop :=
  ∃ ds : List Char, ds.length = 12 ∧ (∀ d ∈ ds, IsHexDigit d) ∧
    id = String.ofList ("block-".toList ++ ds)

theorem IsBlock.mem {id : String} (h : IsBlock id) {c : Char} (hc : c ∈ id.toList) :
    c ∈ "block-0123456789abcdef".toList := by
  obtain ⟨ds, -, hds, rfl⟩ := h
  rw [String.toList_ofList, List.mem_append] at hc
  have hsplit : "block-0123456789abcdef".toList =
      "block-".toList ++ "0123456789abcdef".toList := by decide
  rw [hsplit, List.mem_append]
  exact hc.imp_right (hds c)

theorem isBlock_block (n : Nat) : IsBlock (block n) :=
  ⟨hex 12 n, length_hex 12 n, fun _ ↦ isHexDigit_of_mem_hex, rfl⟩

private theorem ofList_append_hex_eq_iff (start : List Char) (width m n : Nat) :
    String.ofList (start ++ hex width m) = String.ofList (start ++ hex width n) ↔
      m % 16 ^ width = n % 16 ^ width := by
  rw [String.ofList_inj, List.append_cancel_left_eq, hex_eq_hex_iff]

theorem connection_eq_connection_iff (m n : Nat) :
    connection m = connection n ↔ m % 16 ^ 12 = n % 16 ^ 12 :=
  ofList_append_hex_eq_iff "conn-".toList 12 m n

/-! ### The search -/

variable {idOf : Nat → String} {taken : List String} {attempts n m : Nat} {id : String}

/-- What is found is an id that is not taken. -/
theorem of_fresh?_eq_some (h : fresh? idOf taken attempts n = some (id, m)) :
    id ∉ taken ∧ ∃ k, idOf k = id := by
  induction attempts generalizing n with
  | zero => simp [fresh?] at h
  | succ attempts ih =>
    rw [fresh?] at h
    split at h
    · exact ih h
    · next hfree =>
      obtain ⟨rfl, -⟩ := Prod.mk.inj (Option.some.inj h)
      exact ⟨by simpa using hfree, n, rfl⟩

/-- If nothing is found, all ids that were tried are taken. -/
private theorem mem_of_fresh?_eq_none (h : fresh? idOf taken attempts n = none) :
    ∀ k < attempts, idOf (n + k) ∈ taken := by
  induction attempts generalizing n with
  | zero => simp
  | succ attempts ih =>
    rw [fresh?] at h
    split at h
    · next hn =>
      rintro (_ | k) hk
      · simpa using hn
      · rw [Nat.add_succ, ← Nat.succ_add]
        exact ih h k (by omega)
    · simp at h

/-- Among ids that start over after so many numbers, more of them in a row than are taken cannot
all be taken, unless they have started over. -/
private theorem le_length_of_fresh?_eq_none {period : Nat}
    (hid : ∀ m n, idOf m = idOf n ↔ m % period = n % period)
    (h : fresh? idOf taken (taken.length + 1) n = none) : period ≤ taken.length := by
  by_contra hlt
  let tried := (List.range (taken.length + 1)).map fun k ↦ idOf (n + k)
  have hsub : tried ⊆ taken := by
    intro id hmem
    obtain ⟨k, hk, rfl⟩ := List.mem_map.mp hmem
    exact mem_of_fresh?_eq_none h k (List.mem_range.mp hk)
  have hnodup : tried.Nodup := by
    refine List.Nodup.map_on (fun i hi j hj hij ↦ ?_) List.nodup_range
    have hmod : i ≡ j [MOD period] := Nat.ModEq.add_left_cancel' n ((hid _ _).mp hij)
    rw [List.mem_range] at hi hj
    exact Nat.ModEq.eq_of_lt_of_lt hmod (by omega) (by omega)
  have hle : tried.length ≤ taken.length := (List.subperm_of_subset hnodup hsub).length_le
  simp only [tried, List.length_map, List.length_range] at hle
  omega

/-- One attempt more than there are taken ids finds an id, if any is left. -/
theorem isSome_fresh?_iff {period : Nat} (hpos : 0 < period)
    (hid : ∀ m n, idOf m = idOf n ↔ m % period = n % period) :
    (fresh? idOf taken (taken.length + 1) n).isSome ↔ ∃ k, idOf k ∉ taken := by
  constructor
  · intro h
    obtain ⟨⟨id, m⟩, hfound⟩ := Option.isSome_iff_exists.mp h
    obtain ⟨hfree, k, rfl⟩ := of_fresh?_eq_some hfound
    exact ⟨k, hfree⟩
  · rintro ⟨k, hk⟩
    by_contra hnone
    rw [Option.not_isSome_iff_eq_none] at hnone
    have hlen := le_length_of_fresh?_eq_none hid hnone
    -- the number among those tried that has the same id
    let j := (k + (period - n % period)) % period
    have hlt : j < period := Nat.mod_lt _ hpos
    have hj : (n + j) % period = k % period := by
      have hn := Nat.mod_lt n hpos
      have hsum : n + (k + (period - n % period)) = k + period * (n / period + 1) := by
        have hdiv := Nat.div_add_mod n period
        rw [Nat.mul_add, Nat.mul_one]
        omega
      rw [Nat.add_mod_mod, hsum, Nat.add_mul_mod_self_left]
    exact hk ((hid _ _).mpr hj ▸ mem_of_fresh?_eq_none hnone j (by omega))

/-- A new id for a connection is found unless all are taken. -/
theorem isSome_fresh?_connection :
    (fresh? connection taken (taken.length + 1) n).isSome ↔ ∃ k, connection k ∉ taken :=
  isSome_fresh?_iff (Nat.pow_pos (by decide)) connection_eq_connection_iff

end Blockflow.Ids
