import Blockflow.Decimal.Shortest

/-!
# Written forms of doubles

Two written forms, both made of the shortest digits that read back. The *plain* form is always
positional and shows no fraction for a whole number. The *exact* form always shows that the number
is not an integer: a whole number ends in `.0`, and very great or small numbers have an exponent.
-/

namespace Blockflow.Decimal

/-- The decimal digits of a natural number. -/
def digitsOf (n : Nat) : List Char := Nat.toDigits 10 n

/-- The given number of zeros. -/
def zeros (n : Nat) : List Char := List.replicate n '0'

/-- The sign of a double, as far as it is written. -/
private def sign (b : Binary) : List Char := if b.negative then ['-'] else []

/-- The positional form of a decimal, without a fraction if it is whole. -/
private def positional (s : Scientific) : List Char :=
  let ds := digitsOf s.digits
  if s.exponent ≥ 0 then ds ++ zeros s.exponent.natAbs
  else
    let places := s.exponent.natAbs
    if ds.length > places then ds.take (ds.length - places) ++ '.' :: ds.drop (ds.length - places)
    else '0' :: '.' :: zeros (places - ds.length) ++ ds

/-- The plain form: `5`, `0.1`, `1000000000000000000000`, `-0`. -/
def plain (x : Float) : String :=
  let b := Binary.ofFloat x
  if x.isNaN then "NaN"
  else if x.isInf then String.ofList (sign b ++ ['i', 'n', 'f'])
  else String.ofList (sign b ++ positional (shortest .up b))

/-- An integer with its sign, as an exponent is written. -/
private def signed (n : Int) : List Char :=
  if n < 0 then '-' :: digitsOf n.natAbs else digitsOf n.natAbs

/-- The exact form of a positive decimal: positional with at most sixteen digits before the point
or four zeros after it, else one digit before the point and an exponent. -/
private def exactDigits (s : Scientific) : List Char :=
  let ds := digitsOf s.digits
  let point := (ds.length : Int) + s.exponent
  if s.exponent ≥ 0 && point ≤ 16 then ds ++ zeros s.exponent.natAbs ++ ['.', '0']
  else if 0 < point && point ≤ 16 then
    ds.take point.natAbs ++ '.' :: ds.drop point.natAbs
  else if -5 < point && point ≤ 0 then '0' :: '.' :: zeros point.natAbs ++ ds
  else
    match ds with
    | [] => []
    | [d] => d :: 'e' :: signed (point - 1)
    | d :: rest => d :: '.' :: rest ++ 'e' :: signed (point - 1)

/-- The exact form of a finite double: `1.0`, `-0.0`, `1e-7`, `1.5e300`. -/
def exact (x : Float) : String :=
  let b := Binary.ofFloat x
  if b.mantissa = 0 then String.ofList (sign b ++ ['0', '.', '0'])
  else String.ofList (sign b ++ exactDigits (shortest .toEven b))

/-- Whether a character may stand in the exact form. -/
def IsExactChar (c : Char) : Prop := c.isDigit = true ∨ c = '-' ∨ c = '.' ∨ c = 'e'

theorem isExactChar_of_mem_digitsOf {n : Nat} {c : Char} (h : c ∈ digitsOf n) : IsExactChar c :=
  .inl (Nat.isDigit_of_mem_toDigits (by decide) (by decide) h)

private theorem isExactChar_zero : IsExactChar '0' := .inl rfl

private theorem isExactChar_of_mem_sign {b : Binary} {c : Char} (h : c ∈ sign b) :
    IsExactChar c := by
  unfold sign at h
  split at h
  · exact .inr (.inl (List.mem_singleton.mp h))
  · cases h

private theorem isExactChar_of_mem_signed {n : Int} {c : Char} (h : c ∈ signed n) :
    IsExactChar c := by
  unfold signed at h
  split at h
  · rcases List.mem_cons.mp h with rfl | h
    · exact .inr (.inl rfl)
    · exact isExactChar_of_mem_digitsOf h
  · exact isExactChar_of_mem_digitsOf h

private theorem isExactChar_of_mem_exactDigits (s : Scientific) :
    ∀ c ∈ exactDigits s, IsExactChar c := by
  have hdigits : ∀ c ∈ digitsOf s.digits, IsExactChar c := fun _ ↦ isExactChar_of_mem_digitsOf
  have hzeros : ∀ n, ∀ c ∈ zeros n, IsExactChar c := by
    intro n c hc
    obtain ⟨-, rfl⟩ := List.mem_replicate.mp hc
    exact isExactChar_zero
  have hpoint : IsExactChar '.' := .inr (.inr (.inl rfl))
  have htail : ∀ n, ∀ c ∈ 'e' :: signed n, IsExactChar c := by
    intro n c hc
    rcases List.mem_cons.mp hc with rfl | hc
    · exact .inr (.inr (.inr rfl))
    · exact isExactChar_of_mem_signed hc
  unfold exactDigits
  dsimp only
  split
  · simp only [List.forall_mem_append, List.forall_mem_cons]
    exact ⟨⟨hdigits, hzeros _⟩, hpoint, isExactChar_zero, by simp⟩
  split
  · rw [List.forall_mem_append, List.forall_mem_cons]
    exact ⟨fun c hc ↦ hdigits c (List.mem_of_mem_take hc), hpoint,
      fun c hc ↦ hdigits c (List.mem_of_mem_drop hc)⟩
  split
  · simp only [List.cons_append, List.forall_mem_append, List.forall_mem_cons]
    exact ⟨isExactChar_zero, hpoint, hzeros _, hdigits⟩
  · split
    · simp
    · next d hd =>
      rw [hd] at hdigits
      exact List.forall_mem_cons.mpr ⟨hdigits d List.mem_cons_self, htail _⟩
    · next d rest _ hd =>
      rw [hd, List.forall_mem_cons] at hdigits
      simp only [List.cons_append]
      rw [List.forall_mem_cons, List.forall_mem_cons, List.forall_mem_append]
      exact ⟨hdigits.1, hpoint, hdigits.2, htail _⟩

/-- The exact form is made of digits, signs, points and the mark of an exponent. -/
theorem isExactChar_of_mem_exact {x : Float} {c : Char} (h : c ∈ (exact x).toList) :
    IsExactChar c := by
  unfold exact at h
  dsimp only at h
  split at h <;> rw [String.toList_ofList, List.mem_append] at h
  · rcases h with h | h
    · exact isExactChar_of_mem_sign h
    · simp only [List.mem_cons, List.not_mem_nil, or_false] at h
      rcases h with rfl | rfl | rfl
      · exact isExactChar_zero
      · exact .inr (.inr (.inl rfl))
      · exact isExactChar_zero
  · exact h.elim isExactChar_of_mem_sign (isExactChar_of_mem_exactDigits _ c)

end Blockflow.Decimal
