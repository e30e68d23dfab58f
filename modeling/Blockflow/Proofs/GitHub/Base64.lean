import Blockflow.GitHub.Base64
import Mathlib.Data.List.Basic

/-!
# Reading Base64

Each text that is read is the one that its bytes are written as. So bytes are read back from their
text, and from no other one.
-/

namespace Blockflow.Base64

variable {a b c d : Char} {n : Nat} {cs : List Char} {bytes : List UInt8}

/-! ### Characters and six bits -/

theorem value?_digit (h : n < 64) : value? (digit n) = some n := by
  revert n
  decide

/-- A character with a value is the one that the value is written as. -/
theorem of_value?_eq_some (h : value? c = some n) : n < 64 ∧ digit n = c := by
  have hrange {low high : Char} (hc : (decide (low ≤ c) && decide (c ≤ high)) = true) :
      low.toNat ≤ c.toNat ∧ c.toNat ≤ high.toNat := by
    simpa [Char.le_def, UInt32.le_iff_toNat_le] using hc
  unfold value? at h
  split at h
  · next hupper =>
    obtain ⟨hlow, hhigh⟩ : 65 ≤ c.toNat ∧ c.toNat ≤ 90 := hrange hupper
    obtain rfl := Option.some.inj h
    refine ⟨by omega, ?_⟩
    rw [digit, if_pos (by omega), Nat.add_sub_cancel' hlow, Char.ofNat_toNat]
  split at h
  · next hlower =>
    obtain ⟨hlow, hhigh⟩ : 97 ≤ c.toNat ∧ c.toNat ≤ 122 := hrange hlower
    obtain rfl := Option.some.inj h
    refine ⟨by omega, ?_⟩
    rw [digit, if_neg (by omega), if_pos (by omega), Nat.add_sub_cancel' (by omega),
      Char.ofNat_toNat]
  split at h
  · next hnumeral =>
    obtain ⟨hlow, hhigh⟩ : 48 ≤ c.toNat ∧ c.toNat ≤ 57 := hrange hnumeral
    obtain rfl := Option.some.inj h
    refine ⟨by omega, ?_⟩
    rw [digit, if_neg (by omega), if_neg (by omega), if_pos (by omega), Nat.add_sub_cancel,
      Char.ofNat_toNat]
  split at h
  · next hplus =>
    obtain rfl := Option.some.inj h
    exact ⟨by decide, hplus.symm⟩
  split at h
  · next hslash =>
    obtain rfl := Option.some.inj h
    exact ⟨by decide, hslash.symm⟩
  · cases h

theorem digit_ne_padding (h : n < 64) : digit n ≠ '=' := by
  intro hpadding
  have hvalue := value?_digit h
  rw [hpadding] at hvalue
  cases hvalue

/-! ### Four characters -/

theorem decode?_one : decode? [a, b, '=', '='] = (do
    let a ← value? a
    let b ← value? b
    if b % 16 = 0 then some [UInt8.ofNat (a * 4 + b / 16)] else none) := rfl

theorem decode?_two (h : c ≠ '=') : decode? [a, b, c, '='] = (do
    let a ← value? a
    let b ← value? b
    let c ← value? c
    if c % 4 = 0 then
      some [UInt8.ofNat (a * 4 + b / 16), UInt8.ofNat (b % 16 * 16 + c / 4)]
    else none) := by
  rw [decode?]
  simpa using h

theorem decode?_three (h : d ≠ '=') : decode? (a :: b :: c :: d :: cs) = (do
    let a ← value? a
    let b ← value? b
    let c ← value? c
    let d ← value? d
    let rest ← decode? cs
    some (UInt8.ofNat (a * 4 + b / 16) :: UInt8.ofNat (b % 16 * 16 + c / 4) ::
      UInt8.ofNat (c % 4 * 64 + d) :: rest)) := by
  rw [decode?]
  · simp [h]
  · simp [h]

/-! ### Whole texts -/

private theorem toNat_ofNat (h : n < 256) : (UInt8.ofNat n).toNat = n :=
  UInt8.toNat_ofNat_of_lt' h

private theorem ofNat_eq_of_toNat (x : UInt8) (h : n = x.toNat) : UInt8.ofNat n = x := by
  rw [h, UInt8.ofNat_toNat]

/-- The first six bits are the upper ones of the first byte. -/
private theorem upper_first {i j : Nat} (hj : j < 64) : (i * 4 + j / 16) / 4 = i := by omega

/-- The next six bits are shared by the first two bytes. -/
private theorem shared_second {i j k : Nat} (hj : j < 64) (hk : k < 64) :
    (i * 4 + j / 16) % 4 * 16 + (j % 16 * 16 + k / 4) / 16 = j := by omega

theorem decode?_encode (bytes : List UInt8) : decode? (encode bytes) = some bytes := by
  fun_induction encode bytes with
  | case1 => rfl
  | case2 x =>
    have hx := x.toNat_lt
    rw [decode?_one, value?_digit (by omega), value?_digit (by omega)]
    change (if _ then _ else none) = _
    rw [if_pos (by omega), ofNat_eq_of_toNat x (by omega)]
  | case3 x y =>
    have hx := x.toNat_lt
    have hy := y.toNat_lt
    rw [decode?_two (digit_ne_padding (by omega)), value?_digit (by omega),
      value?_digit (by omega), value?_digit (by omega)]
    change (if _ then _ else none) = _
    rw [if_pos (by omega), ofNat_eq_of_toNat x (by omega),
      ofNat_eq_of_toNat y (by omega)]
  | case4 x y z rest ih =>
    have hx := x.toNat_lt
    have hy := y.toNat_lt
    have hz := z.toNat_lt
    rw [decode?_three (digit_ne_padding (by omega)), value?_digit (by omega),
      value?_digit (by omega), value?_digit (by omega), value?_digit (by omega), ih]
    change some (_ :: _ :: _ :: rest) = _
    rw [ofNat_eq_of_toNat x (by omega), ofNat_eq_of_toNat y (by omega),
      ofNat_eq_of_toNat z (by omega)]

theorem eq_encode_of_decode? (h : decode? cs = some bytes) : cs = encode bytes := by
  fun_induction decode? cs generalizing bytes with
  | case1 =>
    obtain rfl := Option.some.inj h
    rfl
  | case2 a b =>
    simp only [Option.bind_eq_bind, Option.bind_eq_some_iff] at h
    obtain ⟨i, ha, j, hb, h⟩ := h
    obtain ⟨hi, rfl⟩ := of_value?_eq_some ha
    obtain ⟨hj, rfl⟩ := of_value?_eq_some hb
    split at h
    · next hrest =>
      obtain rfl := Option.some.inj h
      have hsecond : (i * 4 + j / 16) % 4 * 16 = j := by omega
      rw [encode, toNat_ofNat (by omega), upper_first hj, hsecond]
    · cases h
  | case3 a b c _ =>
    simp only [Option.bind_eq_bind, Option.bind_eq_some_iff] at h
    obtain ⟨i, ha, j, hb, k, hc, h⟩ := h
    obtain ⟨hi, rfl⟩ := of_value?_eq_some ha
    obtain ⟨hj, rfl⟩ := of_value?_eq_some hb
    obtain ⟨hk, rfl⟩ := of_value?_eq_some hc
    split at h
    · next hrest =>
      obtain rfl := Option.some.inj h
      have hthird : (j % 16 * 16 + k / 4) % 16 * 4 = k := by omega
      rw [encode, toNat_ofNat (by omega), toNat_ofNat (by omega), upper_first hj,
        shared_second hj hk, hthird]
    · cases h
  | case4 a b c d rest _ _ ih =>
    simp only [Option.bind_eq_bind, Option.bind_eq_some_iff] at h
    obtain ⟨i, ha, j, hb, k, hc, l, hd, bytes, hbytes, h⟩ := h
    obtain ⟨hi, rfl⟩ := of_value?_eq_some ha
    obtain ⟨hj, rfl⟩ := of_value?_eq_some hb
    obtain ⟨hk, rfl⟩ := of_value?_eq_some hc
    obtain ⟨hl, rfl⟩ := of_value?_eq_some hd
    obtain rfl := Option.some.inj h
    have hthird : (j % 16 * 16 + k / 4) % 16 * 4 + (k % 4 * 64 + l) / 64 = k := by omega
    have hfourth : (k % 4 * 64 + l) % 64 = l := by omega
    rw [encode, toNat_ofNat (by omega), toNat_ofNat (by omega), toNat_ofNat (by omega),
      upper_first hj, shared_second hj hk, hthird, hfourth, ih hbytes]
  | case5 cs => cases h

theorem decode?_eq_some_iff : decode? cs = some bytes ↔ cs = encode bytes :=
  ⟨eq_encode_of_decode?, fun h ↦ h ▸ decode?_encode bytes⟩

end Blockflow.Base64
