import Blockflow.Proofs.Pipeline.StepNames
import Mathlib.Data.List.Infix
import Mathlib.Logic.Relation

/-!
# Markers

A dollar sign before two braces would open an expression, so no name of a step holds such a marker:
of every marker the dollar sign is dropped. The braces stay behind, and with another dollar sign
before them they are a marker again; so one pass over a text need not be enough. But however the
markers of a text are taken out, one at a time in any order, or all of them pass by pass until none
is left, that comes to an end, and always with the same text.
-/

namespace Blockflow

open Relation

variable {cs ds es xs ys : List Char} {c : Char}

/-- Whether a text holds a marker. -/
def HasMarker (cs : List Char) : Prop := ['$', '{', '{'] <:+: cs

instance (cs : List Char) : Decidable (HasMarker cs) := inferInstanceAs (Decidable (_ <:+: _))

theorem not_hasMarker_nil : ¬HasMarker [] := by decide

theorem hasMarker_cons_iff :
    HasMarker (c :: cs) ↔ c = '$' ∧ ['{', '{'] <+: cs ∨ HasMarker cs := by
  rw [HasMarker, List.infix_cons_iff, List.cons_prefix_cons, eq_comm, HasMarker]

/-- No marker reaches over a character that is in no marker. -/
theorem hasMarker_append_cons_iff (hc : c ∉ ['$', '{', '{']) :
    HasMarker (xs ++ c :: ys) ↔ HasMarker xs ∨ HasMarker ys := by
  constructor
  · intro h
    rcases List.infix_append_iff_ne_nil.mp h with h | h | ⟨front, back, -, hne, hsplit, -, hback⟩
    · exact .inl h
    · rcases hasMarker_cons_iff.mp h with ⟨rfl, -⟩ | h
      · exact absurd List.mem_cons_self hc
      · exact .inr h
    · obtain ⟨d, back, rfl⟩ := List.exists_cons_of_ne_nil hne
      obtain ⟨rfl, -⟩ := List.cons_prefix_cons.mp hback
      rw [hsplit] at hc
      exact absurd (List.mem_append_right front List.mem_cons_self) hc
  · rintro (h | h)
    · exact h.trans (List.prefix_append xs (c :: ys)).isInfix
    · exact h.trans ((List.suffix_cons c ys).trans (List.suffix_append xs (c :: ys))).isInfix

/-! ### One marker at a time -/

/-- One marker of a text, wherever it stands, loses its dollar sign. -/
inductive Unmarks : List Char → List Char → Prop where
  /-- The braces stay between what stands before the marker and what stands after it. -/
  | drop (before after : List Char) :
    Unmarks (before ++ '$' :: '{' :: '{' :: after) (before ++ '{' :: '{' :: after)

theorem Unmarks.cons (c : Char) (h : Unmarks cs ds) : Unmarks (c :: cs) (c :: ds) := by
  obtain ⟨before, after⟩ := h
  exact .drop (c :: before) after

theorem hasMarker_iff_exists_unmarks : HasMarker cs ↔ ∃ ds, Unmarks cs ds := by
  constructor
  · rintro ⟨before, after, rfl⟩
    rw [List.append_assoc]
    exact ⟨_, .drop before after⟩
  · rintro ⟨-, before, after⟩
    exact ⟨before, after, List.append_assoc ..⟩

theorem Unmarks.length_lt (h : Unmarks cs ds) : ds.length < cs.length := by
  obtain ⟨before, after⟩ := h
  simp

/-- Markers cannot be taken out forever. -/
theorem wellFounded_unmarks : WellFounded fun ds cs ↦ Unmarks cs ds :=
  Subrelation.wf Unmarks.length_lt (measure List.length).wf

/-! ### All markers at once -/

theorem withoutMarkers_cons (c : Char) (cs : List Char) : withoutMarkers (c :: cs) =
    if c = '$' ∧ ['{', '{'] <+: withoutMarkers cs then withoutMarkers cs
    else c :: withoutMarkers cs := by
  simp only [withoutMarkers, Bool.and_eq_true, decide_eq_true_eq, List.isPrefixOf_iff_prefix]

/-- What comes before a text sees of it only what is left of it. -/
private theorem withoutMarkers_append_congr (h : withoutMarkers cs = withoutMarkers ds)
    (before : List Char) : withoutMarkers (before ++ cs) = withoutMarkers (before ++ ds) := by
  induction before with
  | nil => exact h
  | cons c before ih => rw [List.cons_append, List.cons_append, withoutMarkers, withoutMarkers, ih]

/-- Taking out a marker does not change what is left in the end. -/
theorem Unmarks.withoutMarkers_eq (h : Unmarks cs ds) : withoutMarkers cs = withoutMarkers ds := by
  obtain ⟨before, after⟩ := h
  apply withoutMarkers_append_congr
  have hbraces : withoutMarkers ('{' :: '{' :: after) = '{' :: '{' :: withoutMarkers after := by
    simp [withoutMarkers]
  rw [withoutMarkers_cons, hbraces, if_pos ⟨rfl, List.prefix_append ['{', '{'] _⟩]

theorem withoutMarkers_eq_of_reflTransGen (h : ReflTransGen Unmarks cs ds) :
    withoutMarkers cs = withoutMarkers ds := by
  induction h with
  | refl => rfl
  | tail _ hstep ih => exact ih.trans hstep.withoutMarkers_eq

theorem not_hasMarker_withoutMarkers (cs : List Char) : ¬HasMarker (withoutMarkers cs) := by
  induction cs with
  | nil => exact not_hasMarker_nil
  | cons c cs ih =>
    rw [withoutMarkers_cons]
    split
    · exact ih
    · next hopens =>
      rw [hasMarker_cons_iff]
      exact not_or.mpr ⟨hopens, ih⟩

/-- A text without markers stays as it is, and no other one does. -/
theorem withoutMarkers_eq_self_iff : withoutMarkers cs = cs ↔ ¬HasMarker cs := by
  constructor
  · intro h
    rw [← h]
    exact not_hasMarker_withoutMarkers cs
  · intro h
    induction cs with
    | nil => rfl
    | cons c cs ih =>
      rw [hasMarker_cons_iff, not_or] at h
      rw [withoutMarkers_cons, ih h.2, if_neg h.1]

/-- What is left in the end is reached by taking out one marker at a time. -/
theorem reflTransGen_withoutMarkers (cs : List Char) :
    ReflTransGen Unmarks cs (withoutMarkers cs) := by
  induction cs with
  | nil => exact .refl
  | cons c cs ih =>
    have hrest : ReflTransGen Unmarks (c :: cs) (c :: withoutMarkers cs) :=
      ih.lift (c :: ·) fun _ _ ↦ Unmarks.cons c
    rw [withoutMarkers_cons]
    split
    · next hopens =>
      obtain ⟨rfl, after, hafter⟩ := hopens
      apply hrest.tail
      rw [← hafter]
      exact .drop [] after
    · exact hrest

/-- Taking out one marker at a time, in any order, until none is left gives one text only. -/
theorem exhausted_iff :
    (ReflTransGen Unmarks cs ds ∧ ¬∃ es, Unmarks ds es) ↔ ds = withoutMarkers cs := by
  rw [← hasMarker_iff_exists_unmarks]
  constructor
  · rintro ⟨hreach, hclear⟩
    rw [withoutMarkers_eq_of_reflTransGen hreach, withoutMarkers_eq_self_iff.mpr hclear]
  · rintro rfl
    exact ⟨reflTransGen_withoutMarkers cs, not_hasMarker_withoutMarkers cs⟩

/-! ### Pass by pass -/

/-- One pass over a text, from its start to its end: every marker that is met loses its dollar
sign. -/
def unmarked : List Char → List Char
  | '$' :: '{' :: '{' :: cs => '{' :: '{' :: unmarked cs
  | c :: cs => c :: unmarked cs
  | [] => []

/-- How passes over a text go on until no marker is left, and with which text they end. -/
inductive Clears : List Char → List Char → Prop where
  /-- A text without markers is left as it is. -/
  | clear {cs : List Char} (h : ¬HasMarker cs) : Clears cs cs
  /-- After a pass over a text with a marker it goes on with what the pass has made of it. -/
  | pass {cs ds : List Char} (h : HasMarker cs) (hnext : Clears (unmarked cs) ds) : Clears cs ds

/-- A pass takes out one marker after the other. -/
theorem reflTransGen_unmarked (cs : List Char) : ReflTransGen Unmarks cs (unmarked cs) := by
  fun_induction unmarked cs with
  | case1 cs ih =>
    have hrest := ih.lift ('{' :: '{' :: ·) fun _ _ h ↦ (h.cons '{').cons '{'
    exact hrest.head (.drop [] cs)
  | case2 c cs _ ih => exact ih.lift (c :: ·) fun _ _ ↦ Unmarks.cons c
  | case3 => exact .refl

private theorem unmarked_ne_self (h : HasMarker cs) : unmarked cs ≠ cs := by
  fun_induction unmarked cs with
  | case1 cs ih => simp
  | case2 c cs hnone ih =>
    rcases hasMarker_cons_iff.mp h with ⟨rfl, after, rfl⟩ | h
    · exact absurd rfl (hnone after rfl)
    · intro hsame
      exact ih h (List.cons_injective hsame)
  | case3 => exact absurd h not_hasMarker_nil

/-- A pass over a text with a marker takes out at least one. -/
theorem transGen_unmarked (h : HasMarker cs) : TransGen Unmarks cs (unmarked cs) := by
  rcases reflTransGen_iff_eq_or_transGen.mp (reflTransGen_unmarked cs) with hsame | hmore
  · exact absurd hsame (unmarked_ne_self h)
  · exact hmore

private theorem clears_withoutMarkers (cs : List Char) : Clears cs (withoutMarkers cs) := by
  -- every pass is a step down, as it takes out at least one marker
  induction cs using wellFounded_unmarks.transGen.induction with
  | _ cs ih =>
    by_cases h : HasMarker cs
    · apply Clears.pass h
      rw [withoutMarkers_eq_of_reflTransGen (reflTransGen_unmarked cs)]
      exact ih (unmarked cs) (transGen_swap.mpr (transGen_unmarked h))
    · rw [withoutMarkers_eq_self_iff.mpr h]
      exact .clear h

/-- The passes over a text end, and with one text only. -/
theorem clears_iff : Clears cs ds ↔ ds = withoutMarkers cs := by
  constructor
  · intro h
    induction h with
    | clear hclear => exact (withoutMarkers_eq_self_iff.mpr hclear).symm
    | @pass cs ds _ _ ih =>
      rw [ih, withoutMarkers_eq_of_reflTransGen (reflTransGen_unmarked cs)]
  · rintro rfl
    exact clears_withoutMarkers cs

/-- One pass may leave a marker that was none before. -/
example : HasMarker (unmarked ['$', '$', '{', '{']) ∧
    withoutMarkers ['$', '$', '{', '{'] = ['{', '{'] := by decide

/-! ### What is left of a text -/

theorem withoutMarkers_sublist (cs : List Char) : (withoutMarkers cs).Sublist cs := by
  induction cs with
  | nil => exact List.Sublist.refl []
  | cons c cs ih =>
    rw [withoutMarkers_cons]
    split
    · exact ih.cons c
    · exact ih.cons_cons c

/-- Nothing but dollar signs is dropped. -/
theorem filter_withoutMarkers (cs : List Char) :
    (withoutMarkers cs).filter (· ≠ '$') = cs.filter (· ≠ '$') := by
  induction cs with
  | nil => rfl
  | cons c cs ih =>
    rw [withoutMarkers_cons]
    split
    · next hopens =>
      obtain ⟨rfl, -⟩ := hopens
      rw [ih, List.filter_cons_of_neg (by decide)]
    · rw [List.filter_cons, List.filter_cons, ih]

/-- What holds of the text that is left of a text when its markers are taken out. -/
structure IsCleared (cs ds : List Char) : Prop where
  /-- The passes over the text end, with what is left and with no other text. -/
  passes : ∀ es, Clears cs es ↔ es = ds
  /-- Markers cannot be taken out one at a time forever. -/
  ends : Acc (fun es cs ↦ Unmarks cs es) cs
  /-- When they have been taken out one at a time, in any order, until there is none, what is left
  is this text and no other one. -/
  normal : ∀ es, (ReflTransGen Unmarks cs es ∧ ¬∃ fs, Unmarks es fs) ↔ es = ds
  /-- Some characters of the text are gone. -/
  sublist : ds.Sublist cs
  /-- All of them are dollar signs. -/
  dollars : ds.filter (· ≠ '$') = cs.filter (· ≠ '$')
  /-- Nothing is gone exactly if there has been no marker. -/
  unchanged : ds = cs ↔ ¬HasMarker cs

theorem isCleared_withoutMarkers (cs : List Char) : IsCleared cs (withoutMarkers cs) where
  passes _ := clears_iff
  ends := wellFounded_unmarks.apply cs
  normal _ := exhausted_iff
  sublist := withoutMarkers_sublist cs
  dollars := filter_withoutMarkers cs
  unchanged := withoutMarkers_eq_self_iff

/-! ### Names of steps -/

namespace Block

/-- What the name of the step of a block is made of: its label and its id, or its tag and its id,
with all markers that are in them or come about between them. -/
def markedName (b : Block) : String :=
  match b.ownLabel? with
  | some label => label ++ " (" ++ b.id ++ ")"
  | none => b.tag ++ "-" ++ b.id

theorem toList_stepName_eq (b : Block) :
    b.stepName.toList = withoutMarkers b.markedName.toList := by
  rw [stepName, String.toList_ofList]
  rfl

/-- A further step has a marker in its name only if its purpose has one. -/
theorem hasMarker_auxiliaryStepName_iff (b : Block) (purpose : String) :
    HasMarker (b.auxiliaryStepName purpose).toList ↔ HasMarker purpose.toList := by
  have hname : ¬HasMarker b.stepName.toList := by
    rw [toList_stepName_eq]
    exact not_hasMarker_withoutMarkers _
  rw [toList_auxiliaryStepName, inParentheses, hasMarker_append_cons_iff (by decide),
    or_iff_right hname]
  calc HasMarker ('(' :: (purpose.toList ++ [')']))
    _ ↔ HasMarker (purpose.toList ++ [')']) := by
      rw [hasMarker_cons_iff, or_iff_right (by simp)]
    _ ↔ HasMarker purpose.toList ∨ HasMarker [] := hasMarker_append_cons_iff (by decide)
    _ ↔ HasMarker purpose.toList := or_iff_left not_hasMarker_nil

/-- No step is named with a marker, whatever tag, id and label its block has, and no further one
unless its purpose holds a marker. What the name is made of, as every text, loses its markers in one
way only. -/
theorem clears_stepName (b : Block) (purpose : String) (cs : List Char) :
    ¬HasMarker b.stepName.toList ∧
      (HasMarker (b.auxiliaryStepName purpose).toList ↔ HasMarker purpose.toList) ∧
      Clears b.markedName.toList b.stepName.toList ∧ IsCleared cs (withoutMarkers cs) := by
  rw [toList_stepName_eq]
  exact ⟨not_hasMarker_withoutMarkers _, b.hasMarker_auxiliaryStepName_iff purpose,
    clears_iff.mpr rfl, isCleared_withoutMarkers cs⟩

end Block

end Blockflow
