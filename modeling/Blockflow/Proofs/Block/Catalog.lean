import Blockflow.Proofs.Block.Acceptance
import Blockflow.Proofs.Pattern.Room

/-!
# The catalog is sound

No definition of the catalog has two fields with one key, and every default passes the check of its
own field. One default asks for more than a look at it: the words of a schedule have to match a
pattern, which has to be read and to fit.
-/

namespace Blockflow

namespace Pattern

variable {n level : Nat} {before pieces : List Piece} {names : List String} {c : Char}
  {cs rest after : List Char} {p q : Piece}

/-! ### Reading a pattern piece by piece -/

private theorem alternatives?_element (hc : c ∉ ['(', ')', '|'])
    (hr : repetition? {} (c :: cs) = none) (hp : element? {} (c :: cs) = some (p, rest)) :
    alternatives? (n + 1) level {} before pieces ⟨c :: cs, names⟩ =
      alternatives? n level {} before (p :: pieces) ⟨rest, names⟩ := by
  simp only [List.mem_cons, List.not_mem_nil, or_false, not_or] at hc
  rw [alternatives?]
  simp only [skip, Bool.false_eq_true, if_false]
  split <;> simp_all

private theorem alternatives?_repetition {least : Nat} {most : Option Nat}
    (hc : c ∉ ['(', ')', '|'])
    (hr : repetition? {} (c :: cs) = some (some (least, most, rest)))
    (hp : p.repeated? {} least most rest = some (q, after)) :
    alternatives? (n + 1) level {} before (p :: pieces) ⟨c :: cs, names⟩ =
      alternatives? n level {} before (q :: pieces) ⟨after, names⟩ := by
  simp only [List.mem_cons, List.not_mem_nil, or_false, not_or] at hc
  rw [alternatives?]
  simp only [skip, Bool.false_eq_true, if_false]
  split <;> simp_all

private theorem alternatives?_close :
    alternatives? (n + 1) level {} [] pieces ⟨')' :: cs, names⟩ =
      some (combine anyOf [combine joined pieces], ⟨')' :: cs, names⟩) := by
  simp [alternatives?, skip]

private theorem alternatives?_end :
    alternatives? (n + 1) level {} [] pieces ⟨[], names⟩ =
      some (combine anyOf [combine joined pieces], ⟨[], names⟩) := by
  simp [alternatives?, skip]

private theorem alternatives?_group (hc : c ≠ '?')
    (hp : alternatives? n level {} [] [] ⟨c :: cs, names⟩ = some (p, ⟨')' :: rest, names⟩)) :
    alternatives? (n + 2) (level + 1) {} before pieces ⟨'(' :: c :: cs, names⟩ =
      alternatives? (n + 1) (level + 1) {} before
        (⟨.group p.pattern, p.depth + 1, true⟩ :: pieces) ⟨rest, names⟩ := by
  rw [alternatives?]
  simp [skip, group?, opening?, hc, hp]

end Pattern

namespace Catalog

open Pattern Text

/-! ### The words of a schedule -/

variable {n level : Nat} {before pieces : List Piece} {names : List String} {cs : List Char}

/-- At least one blank. -/
def blanks : Piece := ⟨.times (.one Property.blank) 1 none false, 1, true⟩

/-- At least one character that is no blank. -/
def word : Piece := ⟨.times (.one Property.blank.complement) 1 none false, 1, true⟩

/-- Four words, each after blanks. -/
def moreWords : Piece :=
  ⟨.times (.group (.row [blanks.pattern, word.pattern])) 4 (some 4) false, 4, true⟩

/-- Five words with blanks between them. -/
def fiveWords : Pattern :=
  .row [.edge .textStart .empty, word.pattern, moreWords.pattern, .edge .textEnd .empty]

private theorem normal_blank : Property.blank.normal = Property.blank := by
  have hsorted : Property.blank.ranges.mergeSort (fun a b ↦ a.1 ≤ b.1) = Property.blank.ranges :=
    List.mergeSort_of_pairwise (by decide)
  rw [CharSet.normal, hsorted]
  rfl

/-- The blanks are listed in order, so nothing has to be sorted to tell the other characters. -/
private theorem complement_blank : Property.blank.complement =
    ⟨CharSet.gapsFrom [(0xD7FF, 0xE000)] 0 Property.blank.ranges⟩ := by
  rw [CharSet.complement, normal_blank]

private theorem normal_complement_blank :
    Property.blank.complement.normal = Property.blank.complement := by
  have hsorted : Property.blank.complement.ranges.mergeSort (fun a b ↦ a.1 ≤ b.1) =
      Property.blank.complement.ranges := by
    rw [complement_blank]
    exact List.mergeSort_of_pairwise (by decide)
  rw [CharSet.normal, hsorted, complement_blank]
  rfl

private theorem ofSet_blank : ofSet Property.blank = .one Property.blank := by
  rw [ofSet, normal_blank]
  rfl

private theorem ofSet_complement_blank :
    ofSet Property.blank.complement = .one Property.blank.complement := by
  rw [ofSet, normal_complement_blank, complement_blank]
  rfl

private theorem alternatives?_blanks (hc : cs.head? ≠ some '?') :
    alternatives? (n + 2) level {} before pieces ⟨'\\' :: 's' :: '+' :: cs, names⟩ =
      alternatives? n level {} before (blanks :: pieces) ⟨cs, names⟩ := by
  have hset : element? {} ('\\' :: 's' :: '+' :: cs) =
      some (⟨.one Property.blank, 0, true⟩, '+' :: cs) := by
    rw [← ofSet_blank]
    rfl
  rw [alternatives?_element (by decide) rfl hset]
  exact alternatives?_repetition (by decide) rfl (by
    simp [Piece.repeated?, hc, blanks, repeated, isEmptyOnly, greatest?])

private theorem alternatives?_word (hc : cs.head? ≠ some '?') :
    alternatives? (n + 2) level {} before pieces ⟨'\\' :: 'S' :: '+' :: cs, names⟩ =
      alternatives? n level {} before (word :: pieces) ⟨cs, names⟩ := by
  have hset : element? {} ('\\' :: 'S' :: '+' :: cs) =
      some (⟨.one Property.blank.complement, 0, true⟩, '+' :: cs) := by
    rw [← ofSet_complement_blank]
    rfl
  rw [alternatives?_element (by decide) rfl hset]
  exact alternatives?_repetition (by decide) rfl (by
    simp [Piece.repeated?, hc, word, repeated, isEmptyOnly, greatest?])

private theorem alternatives?_moreWords :
    alternatives? (n + 8) (level + 1) {} before pieces
        ⟨"(\\s+\\S+)\x7b4\x7d$".toList, names⟩ =
      alternatives? (n + 6) (level + 1) {} before (moreWords :: pieces) ⟨['$'], names⟩ := by
  have hchars : "(\\s+\\S+)\x7b4\x7d$".toList =
      ['(', '\\', 's', '+', '\\', 'S', '+', ')', '\x7b', '4', '\x7d', '$'] := by decide
  have hgroup : alternatives? (n + 6) level {} [] []
        ⟨['\\', 's', '+', '\\', 'S', '+', ')', '\x7b', '4', '\x7d', '$'], names⟩ =
      some (⟨.row [blanks.pattern, word.pattern], 2, true⟩,
        ⟨[')', '\x7b', '4', '\x7d', '$'], names⟩) := by
    rw [alternatives?_blanks (by decide), alternatives?_word (by decide), alternatives?_close]
    rfl
  rw [hchars, alternatives?_group (by decide) hgroup]
  exact alternatives?_repetition (by decide) rfl rfl

/-- A set in normal form that is not of ASCII characters alone, as a part of a machine. -/
private theorem setPart_of_normal {set : CharSet} (hn : set.normal = set)
    (ha : set.isAscii = false) (back : Bool) : setPart back set =
      if back then .gathering (set.ranges.flatMap Utf8.rowsOf)
      else .branching (set.ranges.flatMap Utf8.rowsOf) := by
  rw [setPart, ha, if_neg Bool.false_ne_true, Utf8.rows, hn]

private theorem bound_fiveWords :
    ∀ back, (part back fiveWords).bound + outerRoom ≤ Machine.limit := by
  have hascii : Property.blank.complement.isAscii = false := by
    rw [complement_blank]
    rfl
  simp only [fiveWords, moreWords, word, blanks, part, parts,
    setPart_of_normal normal_blank rfl,
    setPart_of_normal normal_complement_blank hascii]
  rw [complement_blank]
  decide +kernel

private theorem fits_fiveWords : fiveWords.fits = true :=
  fits_of_bound (bound_fiveWords false) (bound_fiveWords true)

/-- The pattern of a schedule is read as five words. -/
theorem read?_cronPattern : Pattern.read? cronPattern = some fiveWords := by
  have hchars : cronPattern.toList =
      '^' :: '\\' :: 'S' :: '+' :: "(\\s+\\S+)\x7b4\x7d$".toList := by decide
  have hread : alternatives? (23 + 11) (250 + 1) {} [] [] ⟨cronPattern.toList, []⟩ =
      some (⟨fiveWords, 5, true⟩, ⟨[], []⟩) := by
    rw [hchars, alternatives?_element (by decide) rfl rfl, alternatives?_word (by decide),
      alternatives?_moreWords, alternatives?_element (by decide) rfl rfl, alternatives?_end]
    rfl
  have hlength : 2 * cronPattern.toList.length + 2 = 23 + 11 := by decide
  simp only [Pattern.read?, hlength, hread, maxDepth, fits_fiveWords]
  rfl

/-- The field for the words of a schedule. -/
def cronField : Field := matching cronPattern (needed (line "cron" "Cron Expression" "0 0 * * *"))

private theorem check_of_isFoundIn {f : Field} {source s : String} {p : Pattern}
    (ht : f.type = .text) (hr : f.rule = some { Rule.free with pattern := some source })
    (hread : Pattern.read? source = some p) (hfound : p.isFoundIn s = true) :
    f.check (.str s) = .ok () := by
  have htext : f.checkText s = .ok () := by
    simp [Field.checkText, hr, hread, hfound, Rule.free, pure, Except.pure]
  simp [Field.check, ht, htext]

private theorem check_cronField : cronField.check (.str "0 0 * * *") = .ok () := by
  have hfound : fiveWords.isFoundIn "0 0 * * *" = true := by
    rw [fiveWords, moreWords, word, complement_blank]
    decide +kernel
  exact check_of_isFoundIn rfl rfl read?_cronPattern hfound

/-! ### Every definition -/

/-- Any other default is checked by a look at its options, at the limits of a number, or at the YAML
that it is read as. -/
private theorem check_default_of_ne :
    ∀ d ∈ Registry.builtin.definitions, ∀ f ∈ d.fields, ∀ v ∈ f.default,
      f = cronField ∨ f.check v = .ok () := by decide +kernel

private theorem nodup_keys :
    ∀ d ∈ Registry.builtin.definitions, (d.fields.map (·.key)).Nodup := by decide +kernel

/-- Every definition of the catalog is sound. -/
theorem isSound_of_mem {d : Definition} (hd : d ∈ Registry.builtin.definitions) : d.IsSound where
  keys := nodup_keys d hd
  defaults f hf v hv := by
    obtain rfl | hok := check_default_of_ne d hd f hf v hv
    · obtain rfl := Option.some.inj hv
      exact check_cronField
    · exact hok

end Catalog

end Blockflow
