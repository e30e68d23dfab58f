import Blockflow.Proofs.Yaml.Words
import Mathlib.Data.List.Infix

/-!
# Where block scalars start

A block scalar keeps line ends that stand behind it, so it is not the same in a text and in a longer
one. It starts with a line of its own: a sign, how far it is indented and what becomes of its last
lines. Where no line ends that way, there is no block scalar.
-/

namespace Blockflow.Yaml.Token

open Cursor

/-- Whether a character may stand between the sign of a block scalar and the end of its line. -/
def isHeaderChar (d : Char) : Bool := d.isDigit || d == '+' || d == '-' || isBlank d

/-- Whether a sign stands here that may start a block scalar: nothing but its indentation, what
becomes of its last lines and a comment follow on the same line. -/
def opensBlock : List Char → Bool
  | [] => false
  | d :: rest => (d == '|' || d == '>') &&
    (rest.dropWhile isHeaderChar).head?.all fun e ↦ isBreak e || e == '#'

/-- Whether no block scalar can start in a text. -/
def IsCalm (cs : List Char) : Prop := ∀ ds ∈ cs.tails, opensBlock ds = false

instance : DecidablePred IsCalm := fun cs ↦ List.decidableBAll _ cs.tails

theorem IsCalm.of_suffix {cs ds : List Char} (h : IsCalm cs) (hsuffix : ds <:+ cs) : IsCalm ds :=
  fun es hes ↦ h es ((List.mem_tails _ _).mpr (((List.mem_tails _ _).mp hes).trans hsuffix))

variable {F : Frame} {c c' : Cursor} {rest : List Char}

private theorem dropWhile_skip_one {d : Char} (hd : isHeaderChar d = true) (h : c.head? = some d) :
    (c.skip 1).rest.dropWhile isHeaderChar = c.rest.dropWhile isHeaderChar := by
  obtain ⟨rest, hrest⟩ := List.head?_eq_some_iff.mp h
  rw [rest_skip_one hrest, hrest, List.dropWhile_cons_of_pos hd]

private theorem dropWhile_of_sign? {chomp : Chomp} (h : c.head?.bind Chomp.ofSign? = some chomp) :
    (c.skip 1).rest.dropWhile isHeaderChar = c.rest.dropWhile isHeaderChar := by
  obtain ⟨d, hd, hsign⟩ := Option.bind_eq_some_iff.mp h
  unfold Chomp.ofSign? at hsign
  split at hsign
  · exact dropWhile_skip_one rfl hd
  · exact dropWhile_skip_one rfl hd
  · cases hsign

/-- The indentation in a header, if it is given, and the place after it. -/
private def headerStep? (c : Cursor) : Option (Option Nat × Cursor) :=
  match c.head? with
  | some d =>
    if d.isDigit then (if d == '0' then none else some (some (d.toNat - 48), c.skip 1))
    else some (none, c)
  | none => some (none, c)

private theorem dropWhile_of_headerStep? {step : Option Nat} (h : headerStep? c = some (step, c')) :
    c'.rest.dropWhile isHeaderChar = c.rest.dropWhile isHeaderChar := by
  unfold headerStep? at h
  split at h
  · next d hd =>
    split at h
    · next hdigit =>
      split at h
      · cases h
      · obtain ⟨-, rfl⟩ := Prod.mk.inj (Option.some.inj h)
        exact dropWhile_skip_one (by simp [isHeaderChar, hdigit]) hd
    · rw [(Prod.mk.inj (Option.some.inj h)).2]
  · rw [(Prod.mk.inj (Option.some.inj h)).2]

private theorem blockHeader?_eq (c : Cursor) : blockHeader? c =
    match c.head?.bind Chomp.ofSign? with
    | some chomp => (headerStep? (c.skip 1)).map fun (n, c) ↦ (chomp, n, c)
    | none =>
      match headerStep? c with
      | none => none
      | some (none, c) => some (.clip, none, c)
      | some (some n, c) =>
        match c.head?.bind Chomp.ofSign? with
        | some chomp => some (chomp, some n, c.skip 1)
        | none => some (.clip, some n, c) := rfl

/-- The signs of a header are such characters. -/
private theorem dropWhile_of_blockHeader? {chomp : Chomp} {step : Option Nat}
    (h : blockHeader? c = some (chomp, step, c')) :
    c'.rest.dropWhile isHeaderChar = c.rest.dropWhile isHeaderChar := by
  rw [blockHeader?_eq] at h
  split at h
  · next hsign =>
    obtain ⟨⟨n, c₁⟩, hstep, heq⟩ := Option.map_eq_some_iff.mp h
    obtain ⟨-, -, rfl⟩ : _ ∧ _ ∧ c₁ = c' := by simpa using heq
    rw [dropWhile_of_headerStep? hstep, dropWhile_of_sign? hsign]
  · split at h
    · cases h
    · next hstep =>
      obtain ⟨-, -, rfl⟩ : _ ∧ _ ∧ _ = c' := by simpa using h
      exact dropWhile_of_headerStep? hstep
    · next hstep =>
      split at h
      · next hsign =>
        obtain ⟨-, -, rfl⟩ : _ ∧ _ ∧ _ = c' := by simpa using h
        rw [dropWhile_of_sign? hsign, dropWhile_of_headerStep? hstep]
      · obtain ⟨-, -, rfl⟩ : _ ∧ _ ∧ _ = c' := by simpa using h
        exact dropWhile_of_headerStep? hstep

private theorem dropWhile_isBlank (cs : List Char) :
    (cs.dropWhile isBlank).dropWhile isHeaderChar = cs.dropWhile isHeaderChar := by
  induction cs with
  | nil => rfl
  | cons d cs ih =>
    by_cases hd : isBlank d = true
    · have hheader : isHeaderChar d = true := by rw [isHeaderChar, hd, Bool.or_true]
      rw [List.dropWhile_cons_of_pos hd, List.dropWhile_cons_of_pos hheader, ih]
    · rw [List.dropWhile_cons_of_neg hd]

/-- Where a block scalar starts, its header ends the line. -/
theorem header_of_blockScalar? {folded : Bool} {outer : Int} {text : List Char}
    (h : blockScalar? folded outer c = some (text, c')) :
    ((c.rest.dropWhile isHeaderChar).head?.all fun e ↦ isBreak e || e == '#') = true := by
  simp only [blockScalar?, Option.bind_eq_bind, Option.pure_def] at h
  obtain ⟨⟨chomp, step, c₁⟩, hheader, h⟩ := Option.bind_eq_some_iff.mp h
  rw [← dropWhile_of_blockHeader? hheader, ← dropWhile_isBlank, ← rest_skipWhile]
  dsimp only at h
  rw [← skipComment] at h
  generalize c₁.skipWhile isBlank = c₂ at h ⊢
  cases hrest : c₂.rest with
  | nil => rfl
  | cons d rest =>
    by_cases hhash : d = '#'
    · subst hhash
      rfl
    · have hsame : c₂.skipComment = c₂ := by
        rw [skipComment, if_neg]
        simp [head?_of_rest hrest, hhash]
      have hbreak : isBreak d = true := by
        rw [hsame] at h
        split at h
        · cases h
        · next hline => simpa [atLineEnd, hrest] using hline
      have hheader : isHeaderChar d = false := by
        have hnone := eq_false_of_gaps (p := fun e ↦ isBreak e && isHeaderChar e) (by decide) d
          (isGap_of_isBreak hbreak)
        simpa [hbreak] using hnone
      rw [List.dropWhile_cons_of_neg (by simp [hheader])]
      simp [hbreak]

/-- In a calm text no block scalar starts, whatever gaps stand behind it. -/
theorem blockScalar?_eq_none {F : Frame} {d : Char} {folded : Bool} {outer : Int}
    (hcalm : IsCalm c.rest) (hrest : c.rest = d :: rest) (hd : d = '|' ∨ d = '>') :
    blockScalar? folded outer ((c.within F).skip 1) = none := by
  cases hblock : blockScalar? folded outer ((c.within F).skip 1) with
  | none => rfl
  | some found =>
    obtain ⟨text, c'⟩ := found
    have hheader := header_of_blockScalar? hblock
    rw [skip_one_within hrest, rest_within, rest_skip_one hrest, List.dropWhile_append] at hheader
    have hopens : opensBlock (d :: rest) = true := by
      rw [opensBlock, Bool.and_eq_true]
      refine ⟨by rcases hd with rfl | rfl <;> rfl, ?_⟩
      cases hheaderless : rest.dropWhile isHeaderChar with
      | nil => rfl
      | cons e more => simpa [hheaderless] using hheader
    rw [hcalm (d :: rest) (hrest ▸ (List.mem_tails _ _).mpr (List.suffix_refl _))] at hopens
    cases hopens

end Blockflow.Yaml.Token
