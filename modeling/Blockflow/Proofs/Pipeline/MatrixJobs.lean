import Blockflow.Proofs.Pipeline.JobKeys
import Mathlib.Data.List.Infix

/-!
# Jobs that a matrix has made

The one who runs a pipeline reports such a job under its key with values of the matrix in
parentheses behind it. No key holds a blank, so the name of the job leads back to the key if what
stands before the last opening parenthesis behind a space is the key, that is, if the values hold no
such parenthesis themselves. If they do, the name leads nowhere.
-/

namespace Blockflow

namespace Text

variable {piece cs ds before : List Char} {c : Char}

theorem trimRight_concat (h : isBlank c = false) : trimRight (cs ++ [c]) = cs ++ [c] := by
  rw [trimRight, List.reverse_concat, List.dropWhile_cons_of_neg (Bool.eq_false_iff.mp h),
    List.reverse_cons, List.reverse_reverse]

/-! ### The last occurrence of a piece -/

theorem isSome_afterStart?_iff : (afterStart? piece cs).isSome = true ↔ piece <+: cs := by
  induction piece generalizing cs with
  | nil => simp [afterStart?]
  | cons p piece ih =>
    cases cs with
    | nil => simp [afterStart?]
    | cons c cs =>
      rw [afterStart?, List.cons_prefix_cons]
      split
      · next h => rw [ih, and_iff_right h]
      · next h => simp [h]

/-- A piece has a last occurrence in a text exactly if the text holds it. -/
theorem isSome_beforeLast?_iff : (beforeLast? piece cs).isSome = true ↔ piece <:+: cs := by
  induction cs with
  | nil =>
    rw [beforeLast?, List.infix_nil]
    cases piece <;> simp
  | cons c cs ih =>
    rw [beforeLast?, List.infix_cons_iff, ← ih]
    split
    · next h => simp [h]
    · next h =>
      rw [h, ← isSome_afterStart?_iff]
      split <;> simp_all

/-- The last occurrence in the second part of a text is the last one in the text. -/
theorem beforeLast?_append (h : beforeLast? piece ds = some before) :
    beforeLast? piece (cs ++ ds) = some (cs ++ before) := by
  induction cs with
  | nil => exact h
  | cons c cs ih => rw [List.cons_append, beforeLast?, ih, List.cons_append]

/-- An occurrence is the last one if none starts behind it. -/
theorem beforeLast?_of_prefix (h : piece <+: c :: cs) (hrest : ¬piece <:+: cs) :
    beforeLast? piece (c :: cs) = some [] := by
  have hnone : beforeLast? piece cs = none := by
    rwa [← isSome_beforeLast?_iff, Bool.not_eq_true, Option.isSome_eq_false_iff,
      Option.isNone_iff_eq_none] at hrest
  rw [beforeLast?, hnone]
  exact if_pos (isSome_afterStart?_iff.mpr h)

end Text

/-! ### Names of such jobs -/

section Names

variable {start inner : List Char}

/-- The parenthesis that closes the values opens nothing. -/
private theorem opening_infix_close : [' ', '('] <:+: inner ++ [')'] ↔ [' ', '('] <:+: inner := by
  rw [List.infix_concat_iff, List.suffix_concat_iff, or_iff_right]
  rintro (h | ⟨t, h, -⟩)
  · simp at h
  · have hlast := congrArg List.getLast? h
    simp at hlast

/-- If the values hold nothing that opens values, they are what stands in the last parentheses. -/
theorem beforeLast?_inParentheses (h : ¬[' ', '('] <:+: inner) :
    Text.beforeLast? [' ', '('] (inParentheses start inner) = some start := by
  have hrest : ¬[' ', '('] <:+: '(' :: (inner ++ [')']) := by
    rw [List.infix_cons_iff, opening_infix_close]
    simpa using h
  have hopening : Text.beforeLast? [' ', '('] (' ' :: '(' :: (inner ++ [')'])) = some [] := by
    apply Text.beforeLast?_of_prefix _ hrest
    exact List.prefix_append [' ', '('] _
  rw [inParentheses, Text.beforeLast?_append hopening, List.append_nil]

/-- If they do, what stands before the last parentheses holds the blank behind the start. -/
theorem exists_beforeLast?_inParentheses (start : List Char) (h : [' ', '('] <:+: inner) :
    ∃ more, Text.beforeLast? [' ', '('] (inParentheses start inner) =
      some (start ++ ' ' :: more) := by
  rw [← opening_infix_close, ← Text.isSome_beforeLast?_iff, Option.isSome_iff_exists] at h
  obtain ⟨before, hbefore⟩ := h
  refine ⟨'(' :: before, ?_⟩
  have hsplit : inParentheses start inner = (start ++ [' ', '(']) ++ (inner ++ [')']) := by
    simp [inParentheses]
  rw [hsplit, Text.beforeLast?_append hbefore, List.append_assoc]
  rfl

end Names

namespace NameMap

variable {m : NameMap} {key values id : String}

private theorem matrixKey?_append (key values : String) :
    matrixKey? (key ++ " (" ++ values ++ ")") =
      (Text.beforeLast? [' ', '('] (inParentheses key.toList values.toList)).map String.ofList := by
  have hname : (key ++ " (" ++ values ++ ")").toList =
      inParentheses key.toList values.toList := by
    simp [inParentheses]
  have hclose : inParentheses key.toList values.toList =
      (key.toList ++ ' ' :: '(' :: values.toList) ++ [')'] := by
    simp [inParentheses]
  have hlast : (inParentheses key.toList values.toList).getLast? = some ')' := by
    rw [hclose, List.getLast?_concat]
  have htrim : Text.trimRight (inParentheses key.toList values.toList) =
      inParentheses key.toList values.toList := by
    rw [hclose, Text.trimRight_concat (by decide)]
  simp only [matrixKey?, hname, htrim, hlast, if_true]

/-- In a map whose keys of jobs hold no blanks, the name of a job that a matrix has made leads to
the block of its key, or nowhere if the values of the matrix look as if they opened values
themselves. -/
theorem job?_matrix (hblank : ∀ k, (m.jobs.get? k).isSome = true → ' ' ∉ k.toList)
    (hkey : m.jobs.get? key = some id) (values : String) :
    m.job? (key ++ " (" ++ values ++ ")") =
      if [' ', '('] <:+: values.toList then none else some id := by
  have hmissing {k : String} (hk : ' ' ∈ k.toList) : m.jobs.get? k = none := by
    rw [← Option.isNone_iff_eq_none, ← Option.isSome_eq_false_iff, Bool.eq_false_iff]
    exact fun hsome ↦ hblank k hsome hk
  rw [job?, hmissing (by simp), matrixKey?_append]
  by_cases hopens : [' ', '('] <:+: values.toList
  · obtain ⟨more, hmore⟩ := exists_beforeLast?_inParentheses key.toList hopens
    rw [if_pos hopens, hmore]
    exact hmissing (by simp)
  · rw [if_neg hopens, beforeLast?_inParentheses hopens, Option.map_some, String.ofList_toList]
    exact hkey

end NameMap

namespace Workflow

variable {w : Workflow} {r : Registry} {p : Pipeline} {key : String}

/-- No key in the name map of a compiled workflow holds a blank. -/
theorem blank_notMem_of_jobs_get? (hp : w.compile r = .ok p)
    (h : (p.names.jobs.get? key).isSome = true) : ' ' ∉ key.toList := by
  obtain ⟨id, hid⟩ := Option.isSome_iff_exists.mp h
  obtain ⟨j, hj, -, rfl, -⟩ := (jobs_get?_iff hp).mp hid
  intro hblank
  have hchar := (isKey_of_mem_plan hj).chars ' ' hblank
  simp [Char.isAlphanum] at hchar

/-- The key of a job in the name map of a compiled workflow leads to its block, and so does the name
of a job that a matrix has made under this key, if the values of the matrix hold no opening
parenthesis behind a space. -/
theorem job?_matrix_of_compile (w : Workflow) (r : Registry) (p : Pipeline)
    (hp : w.compile r = .ok p) (key id : String) (hkey : p.names.jobs.get? key = some id)
    (values : String) :
    p.names.job? key = some id ∧
      p.names.job? (key ++ " (" ++ values ++ ")") =
        if [' ', '('] <:+: values.toList then none else some id := by
  constructor
  · rw [NameMap.job?, hkey]
  · exact NameMap.job?_matrix (fun _ ↦ blank_notMem_of_jobs_get? hp) hkey values

/-- A trigger with a matrix of versions behind it. -/
private def versions : Workflow where
  id := "wf"
  name := "CI"
  description := ""
  blocks :=
    [⟨"t", Kind.triggerPush.tag, .origin, .empty, none⟩,
      ⟨"m", Kind.controlMatrix.tag, .origin,
        .ofList [("matrix", .str "node: [\"20\", \"lts (20)\"]")], none⟩]
  connections := [⟨"1", "t", "out", "m", "in"⟩]

private theorem exists_compile_versions : ∃ p, versions.compile .builtin = .ok p ∧
    p.names.jobs.get? "control-matrix-m" = some "m" := by
  have hok : (versions.compile .builtin).isOk = true := by decide +kernel
  obtain ⟨p, hp⟩ := exists_compile_eq_ok hok
  have hentries : (Dict.ofList (versions.jobEntries .builtin)).get? "control-matrix-m" =
      some "m" := by
    decide +kernel
  refine ⟨p, hp, ?_⟩
  rw [names_of_compile hp]
  exact hentries

theorem job?_versions : ∃ p, versions.compile .builtin = .ok p ∧
    p.names.jobs.get? "control-matrix-m" = some "m" ∧
    p.names.job? "control-matrix-m (20)" = some "m" := by
  obtain ⟨p, hp, hkey⟩ := exists_compile_versions
  have hname := (job?_matrix_of_compile versions .builtin p hp "control-matrix-m" "m" hkey "20").2
  exact ⟨p, hp, hkey, hname⟩

/-- The job for the other one of the two versions leads nowhere. -/
theorem job?_versions_eq_none : ∃ p, versions.compile .builtin = .ok p ∧
    p.names.jobs.get? "control-matrix-m" = some "m" ∧
    p.names.job? "control-matrix-m" = some "m" ∧
    p.names.job? ("control-matrix-m" ++ " (" ++ "lts (20)" ++ ")") = none := by
  obtain ⟨p, hp, hkey⟩ := exists_compile_versions
  have hname :=
    NameMap.job?_matrix (fun _ ↦ blank_notMem_of_jobs_get? hp) hkey "lts (20)"
  refine ⟨p, hp, hkey, ?_, hname⟩
  rw [NameMap.job?, hkey]

end Workflow

end Blockflow
