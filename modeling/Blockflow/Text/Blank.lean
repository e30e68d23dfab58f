/-!
# Blank characters and trimming

The characters with the Unicode property White_Space, and what is left of a text once those at
its ends are taken away.
-/

namespace Blockflow.Text

/-- Whether a character has the Unicode property White_Space. -/
def isBlank (c : Char) : Bool :=
  let n := c.toNat
  (9 ≤ n && n ≤ 13) || n == 0x20 || n == 0x85 || n == 0xA0 || n == 0x1680 ||
    (0x2000 ≤ n && n ≤ 0x200A) || n == 0x2028 || n == 0x2029 || n == 0x202F || n == 0x205F ||
    n == 0x3000

/-- The characters from the first one that is not blank. -/
def trimLeft (cs : List Char) : List Char := cs.dropWhile isBlank

/-- The characters up to the last one that is not blank. -/
def trimRight (cs : List Char) : List Char := (cs.reverse.dropWhile isBlank).reverse

/-- The characters between the first and the last one that is not blank. -/
def trimBoth (cs : List Char) : List Char := trimRight (trimLeft cs)

/-- A text without the blanks at its two ends. -/
def trim (s : String) : String := String.ofList (trimBoth s.toList)

/-- Whether a text holds nothing but blanks. -/
def allBlank (s : String) : Bool := s.toList.all isBlank

/-- The trimmed text, unless nothing is left of it. -/
def nonBlank? (s : String) : Option String :=
  let t := trim s
  if t.isEmpty then none else some t

/-- Trimming the front leaves a text that is empty or starts with a character that is not blank. -/
theorem head?_trimLeft_not_blank (cs : List Char) :
    ∀ c ∈ (trimLeft cs).head?, isBlank c = false := by
  induction cs with
  | nil => simp [trimLeft]
  | cons d ds ih =>
    intro c hc
    rw [trimLeft, List.dropWhile_cons] at hc
    split at hc
    · exact ih c hc
    · next h =>
      simp only [List.head?_cons, Option.mem_def, Option.some.injEq] at hc
      simpa [← hc] using h

theorem trimLeft_eq_nil {cs : List Char} : trimLeft cs = [] ↔ ∀ c ∈ cs, isBlank c = true := by
  induction cs with
  | nil => simp [trimLeft]
  | cons c cs ih =>
    rw [trimLeft, List.dropWhile_cons, List.forall_mem_cons]
    split
    · next h => rw [← trimLeft, ih, and_iff_right h]
    · next h => simp [h]

/-- Nothing is left of a text of blanks, and of no other one. -/
theorem trimBoth_eq_nil {cs : List Char} : trimBoth cs = [] ↔ ∀ c ∈ cs, isBlank c = true := by
  rw [trimBoth, trimRight, List.reverse_eq_nil_iff, ← trimLeft, trimLeft_eq_nil]
  constructor
  · intro h
    cases hcs : trimLeft cs with
    | nil => exact trimLeft_eq_nil.mp hcs
    | cons c rest =>
      have hfirst := head?_trimLeft_not_blank cs c (by simp [hcs])
      simp [h c (by simp [hcs])] at hfirst
  · intro h
    simp [trimLeft_eq_nil.mpr h]

theorem nonBlank?_eq_some {s t : String} :
    nonBlank? s = some t ↔ allBlank s = false ∧ trim s = t := by
  have hempty : (trim s).isEmpty = true ↔ allBlank s = true := by
    rw [String.isEmpty_iff, trim, String.ofList_eq_empty_iff, trimBoth_eq_nil, allBlank,
      List.all_eq_true]
  rw [nonBlank?, ← Bool.not_eq_true, ← hempty]
  split <;> simp_all

end Blockflow.Text
