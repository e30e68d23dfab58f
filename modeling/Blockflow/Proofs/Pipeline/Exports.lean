import Blockflow.Pipeline.Steps
import Mathlib.Data.List.Forall2

/-!
# Exported variables

The script of a block that exports variables has a line for each variable, which writes its key and
its value between double quotes. Nothing is escaped there: the shell reads key and value as they are
exactly if they hold no line break and no character that means something between double quotes.
Numbers and truth values never do, but any text may.
-/

namespace Blockflow

/-! ### Double quotes in a shell -/

namespace Shell

/-- The characters that mean something between double quotes: the quote itself, the dollar sign,
the backquote and the backslash. -/
def specials : List Char := ['"', '$', Char.ofNat 0x60, '\\']

/-- Whether a character stands for itself between double quotes, on one line. -/
def IsPlainChar (c : Char) : Prop := c ≠ '\n' ∧ c ∉ specials

/-- Whether every character of a text stands for itself between double quotes, on one line. -/
def IsPlain (s : String) : Prop := ∀ c ∈ s.toList, IsPlainChar c

instance : DecidablePred IsPlainChar := fun _ ↦ inferInstanceAs (Decidable (_ ∧ _))

instance : DecidablePred IsPlain := fun s ↦ List.decidableBAll _ s.toList

/-- Whether some characters between double quotes, on one line, stand for other ones: none of them
means something unless a backslash takes its meaning away. -/
inductive Quotes : (written text : List Char) → Prop where
  /-- Nothing stands for nothing. -/
  | nil : Quotes [] []
  /-- A character stands for itself. -/
  | plain (c : Char) (written text : List Char) (hc : IsPlainChar c) (h : Quotes written text) :
      Quotes (c :: written) (c :: text)
  /-- A character after a backslash has no meaning. -/
  | escaped (c : Char) (written text : List Char) (hc : c ∈ specials) (h : Quotes written text) :
      Quotes ('\\' :: c :: written) (c :: text)

/-- Whether a line of a script adds a text to the variables of a pipeline, and does nothing else. -/
def Exports (line text : String) : Prop :=
  ∃ written, Quotes written text.toList ∧
    line = "echo \"" ++ String.ofList written ++ "\" >> \"$GITHUB_ENV\""

variable {written text : List Char}

theorem isPlain_append {s t : String} : IsPlain (s ++ t) ↔ IsPlain s ∧ IsPlain t := by
  simp only [IsPlain, String.toList_append, List.forall_mem_append]

/-- An escaped text is not shorter than the text. -/
theorem Quotes.length_le (h : Quotes written text) : text.length ≤ written.length := by
  induction h with
  | nil => exact Nat.le_refl _
  | plain c written text _ _ ih => simpa using ih
  | escaped c written text _ _ ih =>
    simp only [List.length_cons]
    omega

theorem quotes_of_isPlainChar (h : ∀ c ∈ text, IsPlainChar c) : Quotes text text := by
  induction text with
  | nil => exact .nil
  | cons c text ih =>
    rw [List.forall_mem_cons] at h
    exact .plain c text text h.1 (ih h.2)

/-- A text stands for itself exactly if each of its characters does. -/
theorem quotes_self_iff : Quotes text text ↔ ∀ c ∈ text, IsPlainChar c := by
  refine ⟨fun h ↦ ?_, quotes_of_isPlainChar⟩
  induction text with
  | nil => exact List.forall_mem_nil _
  | cons c text ih =>
    cases h with
    | plain _ _ _ hc h => exact List.forall_mem_cons.mpr ⟨hc, ih h⟩
    | escaped _ written _ _ h =>
      -- the backslash alone would be longer than what it is left out of
      have hlength := h.length_le
      simp only [List.length_cons] at hlength
      omega

/-- A line that writes a text just as it is exports it exactly if the text is plain. -/
theorem exports_iff {s : String} :
    Exports ("echo \"" ++ s ++ "\" >> \"$GITHUB_ENV\"") s ↔ IsPlain s := by
  rw [IsPlain, ← quotes_self_iff]
  constructor
  · rintro ⟨written, hquotes, hline⟩
    have hwritten : s = String.ofList written := by
      simpa [String.append_left_inj, String.append_right_inj] using hline
    rwa [hwritten, String.toList_ofList] at hquotes ⊢
  · exact fun h ↦ ⟨s.toList, h, by rw [String.ofList_toList]⟩

/-! ### Lines -/

/-- The lines of a script. -/
def lines (script : String) : List String := (script.toList.splitOn '\n').map String.ofList

/-- Joined lines have the breaks between them and those inside them. -/
private theorem splitOn_intercalate {separator : Char} {ls : List (List Char)} (h : ls ≠ []) :
    ([separator].intercalate ls).splitOn separator = ls.flatMap (List.splitOn separator) := by
  induction ls with
  | nil => exact absurd rfl h
  | cons l ls ih =>
    cases ls with
    | nil => simp
    | cons l' ls =>
      rw [List.intercalate_cons_cons, List.append_assoc, List.singleton_append,
        List.splitOn_append_cons_self, ih (List.cons_ne_nil _ _)]
      rfl

private theorem length_pos_splitOn (separator : Char) (l : List Char) :
    0 < (l.splitOn separator).length := List.length_pos_of_ne_nil (List.splitOn_ne_nil _ _)

private theorem notMem_of_length_splitOn {separator : Char} {l : List Char}
    (h : (l.splitOn separator).length = 1) : separator ∉ l := by
  intro hmem
  obtain ⟨before, after, rfl⟩ := List.append_of_mem hmem
  have hbefore := length_pos_splitOn separator before
  have hafter := length_pos_splitOn separator after
  rw [List.splitOn_append_cons_self, List.length_append] at h
  omega

private theorem length_le_flatMap_splitOn (separator : Char) (ls : List (List Char)) :
    ls.length ≤ (ls.flatMap (List.splitOn separator)).length := by
  induction ls with
  | nil => exact Nat.le_refl _
  | cons l ls ih =>
    have hl := length_pos_splitOn separator l
    rw [List.flatMap_cons, List.length_append, List.length_cons]
    omega

/-- If there are no more pieces than lines, no line has a break. -/
private theorem notMem_of_length_flatMap {separator : Char} {ls : List (List Char)}
    (h : (ls.flatMap (List.splitOn separator)).length = ls.length) : ∀ l ∈ ls, separator ∉ l := by
  induction ls with
  | nil => exact List.forall_mem_nil _
  | cons l ls ih =>
    have hl := length_pos_splitOn separator l
    have hls := length_le_flatMap_splitOn separator ls
    rw [List.flatMap_cons, List.length_append, List.length_cons] at h
    rw [List.forall_mem_cons]
    exact ⟨notMem_of_length_splitOn (by omega), ih (by omega)⟩

private theorem newline : "\n".toList = ['\n'] := rfl

/-- Joined lines without a break in them are read as these lines. -/
theorem lines_intercalate {ls : List String} (h : ls ≠ []) (hls : ∀ l ∈ ls, '\n' ∉ l.toList) :
    lines (String.intercalate "\n" ls) = ls := by
  have hbreaks : ∀ l ∈ ls.map String.toList, '\n' ∉ l := List.forall_mem_map.mpr hls
  rw [lines, String.toList_intercalate, newline,
    List.splitOn_intercalate _ hbreaks (by simpa using h), List.map_map]
  simp

/-- If joined lines are read as no more lines than were joined, no line has a break in it. -/
theorem notMem_of_length_lines {ls : List String} (h : ls ≠ [])
    (hls : (lines (String.intercalate "\n" ls)).length = ls.length) :
    ∀ l ∈ ls, '\n' ∉ l.toList := by
  have hne : ls.map String.toList ≠ [] := by simpa using h
  rw [lines, List.length_map, String.toList_intercalate, newline, splitOn_intercalate hne] at hls
  rw [← List.length_map (f := String.toList)] at hls
  exact fun l hl ↦ notMem_of_length_flatMap hls _ (List.mem_map_of_mem hl)

end Shell

/-! ### Values in a script -/

namespace Yaml

/-- Whether a value stands for itself between double quotes: a text if its characters do, a number
or a truth value always, and anything else if its YAML text does. -/
def IsShellSafe : Yaml → Prop
  | .str s => Shell.IsPlain s
  | .null | .bool _ | .int _ | .real _ => True
  | v => Shell.IsPlain v.shellText

/-- The characters of numbers stand for themselves. -/
private theorem isPlainChar_of_isExactChar {c : Char} (h : Decimal.IsExactChar c) :
    Shell.IsPlainChar c := by
  rcases h with hdigit | rfl | rfl | rfl
  · have hne : ∀ d : Char, d.isDigit = false → c ≠ d := by
      rintro d hd rfl
      simp [hdigit] at hd
    have hspecial : ∀ d ∈ Shell.specials, d.isDigit = false := by simp [Shell.specials]
    exact ⟨hne '\n' rfl, fun hc ↦ hne c (hspecial c hc) rfl⟩
  all_goals decide

private theorem isPlain_toString (n : Int) : Shell.IsPlain (toString n) := by
  have hnat : ∀ m : Nat, Shell.IsPlain (Nat.repr m) := by
    intro m c hc
    refine isPlainChar_of_isExactChar (Decimal.isExactChar_of_mem_digitsOf (n := m) ?_)
    rwa [Nat.repr, String.toList_ofList] at hc
  rw [Int.toString_eq_repr, Int.repr_eq_if]
  split
  · exact hnat _
  · exact Shell.isPlain_append.mpr ⟨by decide, hnat _⟩

private theorem isPlain_realText (x : Float) : Shell.IsPlain (realText x) := by
  unfold realText
  split
  · decide
  split
  · split <;> decide
  · exact fun c hc ↦ isPlainChar_of_isExactChar (Decimal.isExactChar_of_mem_exact hc)

/-- Of the scalars only texts may hold characters that mean something to a shell. -/
theorem isPlain_shellText_iff (v : Yaml) : Shell.IsPlain v.shellText ↔ v.IsShellSafe := by
  cases v with
  | str | seq | map | tagged => exact Iff.rfl
  | null => exact iff_of_true (by decide) trivial
  | bool b => exact iff_of_true (by cases b <;> decide) trivial
  | int n => exact iff_of_true (isPlain_toString n) trivial
  | real x => exact iff_of_true (isPlain_realText x) trivial

end Yaml

/-! ### The script of a block -/

namespace Block

variable {b : Block} {source : String} {entries : List (Yaml × Yaml)}

/-- Whether a script has one line for each variable, which adds its key and its value to the
variables of a pipeline, and does nothing else. -/
def ExportsAll (script : String) (entries : List (Yaml × Yaml)) : Prop :=
  List.Forall₂ (fun line e ↦ Shell.Exports line (e.1.shellText ++ "=" ++ e.2.shellText))
    (Shell.lines script) entries

/-- A line that exports a variable has no break if key and value have none. -/
private theorem newline_notMem_exportLine {key value : Yaml} (hkey : key.IsShellSafe)
    (hvalue : value.IsShellSafe) : '\n' ∉ (exportLine key value).toList := by
  rw [← Yaml.isPlain_shellText_iff] at hkey hvalue
  have hkey : '\n' ∉ key.shellText.toList := fun h ↦ (hkey _ h).1 rfl
  have hvalue : '\n' ∉ value.shellText.toList := fun h ↦ (hvalue _ h).1 rfl
  simp [exportLine, hkey, hvalue]

/-- The line for a variable exports it exactly if neither the key nor the value holds anything that
means something to the shell. -/
private theorem exports_exportLine_iff {key value : Yaml} :
    Shell.Exports (exportLine key value) (key.shellText ++ "=" ++ value.shellText) ↔
      key.IsShellSafe ∧ value.IsShellSafe := by
  have hequals : Shell.IsPlain "=" := by decide
  have hline : exportLine key value =
      "echo \"" ++ (key.shellText ++ "=" ++ value.shellText) ++ "\" >> \"$GITHUB_ENV\"" := by
    simp only [exportLine, String.append_assoc]
  rw [hline, Shell.exports_iff, Shell.isPlain_append, Shell.isPlain_append, and_iff_left hequals,
    Yaml.isPlain_shellText_iff, Yaml.isPlain_shellText_iff]

theorem exportsAll_iff (h : entries ≠ []) :
    ExportsAll (String.intercalate "\n" (entries.map fun e ↦ exportLine e.1 e.2)) entries ↔
      ∀ e ∈ entries, e.1.IsShellSafe ∧ e.2.IsShellSafe := by
  have hne : (entries.map fun e ↦ exportLine e.1 e.2) ≠ [] := by simpa using h
  constructor
  · intro hall
    have hlength := hall.length_eq.trans (List.length_map (f := fun e ↦ exportLine e.1 e.2)).symm
    rw [ExportsAll, Shell.lines_intercalate hne (Shell.notMem_of_length_lines hne hlength),
      List.forall₂_map_left_iff, List.forall₂_same] at hall
    exact fun e he ↦ exports_exportLine_iff.mp (hall e he)
  · intro hsafe
    have hbreaks : ∀ l ∈ entries.map fun e ↦ exportLine e.1 e.2, '\n' ∉ l.toList :=
      List.forall_mem_map.mpr fun e he ↦ newline_notMem_exportLine (hsafe e he).1 (hsafe e he).2
    rw [ExportsAll, Shell.lines_intercalate hne hbreaks, List.forall₂_map_left_iff,
      List.forall₂_same]
    exact fun e he ↦ exports_exportLine_iff.mpr (hsafe e he)

/-- A block whose variables are written as a mapping that is not empty has one step. -/
private theorem steps?_of_read? (hkind : Kind.ofTag? b.tag = some .utilityEnv)
    (hsource : b.filled? "variables" = some source)
    (hread : Yaml.read? source = some (.map entries)) (hne : entries ≠ []) :
    b.steps? = some [.run b.stepName
      (String.intercalate "\n" (entries.map fun e ↦ exportLine e.1 e.2))] := by
  simp [steps?, hkind, stepsOfKind?, exportScript?, hsource, hread, Yaml.entries?, hne]

/-- The step of a block whose variables are written as a mapping that is not empty exports each
variable with a line of its own, and does nothing else, exactly if no text among the keys and the
values holds a line break or a character that means something between double quotes. -/
theorem exportsAll_iff_of_read? (hkind : Kind.ofTag? b.tag = some .utilityEnv)
    (hsource : b.filled? "variables" = some source)
    (hread : Yaml.read? source = some (.map entries)) (hne : entries ≠ []) :
    ∃ script, b.steps? = some [.run b.stepName script] ∧
      (ExportsAll script entries ↔ ∀ e ∈ entries, e.1.IsShellSafe ∧ e.2.IsShellSafe) :=
  ⟨_, steps?_of_read? hkind hsource hread hne, exportsAll_iff hne⟩

/-- A block that exports variables written so. -/
private def exporting (source : String) : Block :=
  ⟨"e", Kind.utilityEnv.tag, .origin, .ofList [("variables", .str source)], none⟩

/-- The key and the value of a mapping with one entry, if both are texts. -/
private def textEntry? : Yaml → Option (String × String)
  | .map [(.str key, .str value)] => some (key, value)
  | _ => none

private theorem read?_eq_of_textEntry? {text key value : String}
    (h : (Yaml.read? text).bind textEntry? = some (key, value)) :
    Yaml.read? text = some (.map [(.str key, .str value)]) := by
  obtain ⟨y, hread, hentry⟩ := Option.bind_eq_some_iff.mp h
  unfold textEntry? at hentry
  split at hentry
  · cases hentry
    exact hread
  · cases hentry

theorem exportsAll_staging : ∃ script,
    (exporting "APP_ENV: staging").steps? = some [.run "utility-env-e" script] ∧
      ExportsAll script [(.str "APP_ENV", .str "staging")] := by
  have hread : Yaml.read? "APP_ENV: staging" = some (.map [(.str "APP_ENV", .str "staging")]) :=
    read?_eq_of_textEntry? (by decide +kernel)
  have hsource : (exporting "APP_ENV: staging").filled? "variables" = some "APP_ENV: staging" := by
    decide +kernel
  obtain ⟨script, hsteps, hiff⟩ := exportsAll_iff_of_read? (by decide +kernel) hsource
    hread (List.cons_ne_nil _ _)
  have hname : (exporting "APP_ENV: staging").stepName = "utility-env-e" := by decide +kernel
  rw [hname] at hsteps
  have hsafe : Shell.IsPlain "APP_ENV" ∧ Shell.IsPlain "staging" := by decide
  exact ⟨script, hsteps, hiff.mpr (List.forall_mem_singleton.mpr hsafe)⟩

/-- A value is not kept from the shell, which runs the command in it. -/
theorem not_exportsAll_command :
    Yaml.read? "A: $(id)" = some (.map [(.str "A", .str "$(id)")]) ∧
      (exporting "A: $(id)").steps? =
        some [.run "utility-env-e" "echo \"A=$(id)\" >> \"$GITHUB_ENV\""] ∧
      ¬ExportsAll "echo \"A=$(id)\" >> \"$GITHUB_ENV\"" [(.str "A", .str "$(id)")] := by
  have hread : Yaml.read? "A: $(id)" = some (.map [(.str "A", .str "$(id)")]) :=
    read?_eq_of_textEntry? (by decide +kernel)
  have hsource : (exporting "A: $(id)").filled? "variables" = some "A: $(id)" := by decide +kernel
  have hne : [(Yaml.str "A", Yaml.str "$(id)")] ≠ [] := List.cons_ne_nil _ _
  have hname : (exporting "A: $(id)").stepName = "utility-env-e" := by decide +kernel
  have hscript : String.intercalate "\n" ([(Yaml.str "A", Yaml.str "$(id)")].map fun e ↦
      exportLine e.1 e.2) = "echo \"A=$(id)\" >> \"$GITHUB_ENV\"" := by decide +kernel
  have hsteps := steps?_of_read? (by decide +kernel) hsource hread hne
  have hiff := exportsAll_iff hne
  rw [hname, hscript] at hsteps
  rw [hscript] at hiff
  have hcommand : ¬Shell.IsPlain "$(id)" := by decide
  exact ⟨hread, hsteps, fun h ↦ hcommand (hiff.mp h _ List.mem_cons_self).2⟩

end Block

end Blockflow
