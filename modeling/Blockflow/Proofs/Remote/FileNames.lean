import Blockflow.Block.Catalog
import Blockflow.Proofs.Dialogue
import Blockflow.Remote.Deploy
import Mathlib.Data.List.TakeWhile

/-!
# The file of a workflow

The name of a workflow's file is made of the small letters, the digits and the dashes that are left
of the name of the workflow, and it is not empty. If no letter and no digit is left, the id of the
workflow stands in for its name, and this just as it is: with a slash in it the file is no longer
directly inside the directory of pipelines, and runs are looked for and started under the name of
another file than the one that is deployed.
-/

namespace Blockflow

/-- Whether a character is a small letter, a digit or a dash. -/
def IsStemChar (c : Char) : Prop := c.isLower = true ∨ c.isDigit = true ∨ c = '-'

instance : DecidablePred IsStemChar := fun _ ↦ inferInstanceAs (Decidable (_ ∨ _))

/-- Whether a character leaves a letter or a digit in the name of a file: besides the ASCII ones
these are the Kelvin sign and the capital I with a dot. -/
def IsNaming (c : Char) : Prop := c.isAlphanum = true ∨ c.toNat = 0x212A ∨ c.toNat = 0x130

/-- Whether a name leaves a letter or a digit in the name of its file. -/
def NamesFile (name : String) : Prop := ∃ c ∈ name.toList, IsNaming c

variable {c d e : Char} {cs : List Char} {name id : String}

/-! ### Characters -/

private theorem isUpper_iff_val : c.isUpper = true ↔ c.val ≥ 'A'.val ∧ c.val ≤ 'Z'.val :=
  decide_eq_true_iff

private theorem isUpper_iff : c.isUpper = true ↔ 65 ≤ c.toNat ∧ c.toNat ≤ 90 := by
  simp [isUpper_iff_val, UInt32.le_iff_toNat_le, ← Char.toNat_val]

private theorem isLower_iff : c.isLower = true ↔ 97 ≤ c.toNat ∧ c.toNat ≤ 122 := by
  change (decide (c.val ≥ 'a'.val) && decide (c.val ≤ 'z'.val)) = true ↔ _
  simp [UInt32.le_iff_toNat_le, ← Char.toNat_val]

private theorem isDigit_iff : c.isDigit = true ↔ 48 ≤ c.toNat ∧ c.toNat ≤ 57 := by
  simp [Char.isDigit, UInt32.le_iff_toNat_le, ← Char.toNat_val]

private theorem isAlphanum_iff :
    c.isAlphanum = true ↔ c.isUpper = true ∨ c.isLower = true ∨ c.isDigit = true := by
  change (c.isUpper || c.isLower || c.isDigit) = true ↔ _
  simp only [Bool.or_eq_true, or_assoc]

private theorem isLower_toLower (h : c.isUpper = true) : c.toLower.isLower = true := by
  have hc := isUpper_iff.mp h
  have hlower : c.toLower = ⟨c.val + ('a'.val - 'A'.val), _⟩ := dif_pos (isUpper_iff_val.mp h)
  have hsum : c.toLower.toNat = c.toNat + 32 := by
    rw [hlower, Char.toNat_mk, UInt32.toNat_add, Char.toNat_val]
    exact Nat.mod_eq_of_lt (by simp; omega)
  rw [isLower_iff, hsum]
  omega

private theorem toLower_eq_self (h : c.isUpper = false) : c.toLower = c :=
  dif_neg (isUpper_iff_val.not.mp (by simp [h]))

private theorem isBlank_eq_false (h : IsNaming c) : Text.isBlank c = false := by
  simp only [IsNaming, isAlphanum_iff, isUpper_iff, isLower_iff, isDigit_iff] at h
  simp only [Text.isBlank, Bool.or_eq_false_iff, Bool.and_eq_false_iff, decide_eq_false_iff_not,
    beq_eq_false_iff_ne]
  omega

/-- The letters and digits of a small form may stand in the name of a file. -/
private theorem of_mem_lowerAscii (hd : d ∈ Text.lowerAscii c) (h : d.isAlphanum = true) :
    IsStemChar d ∧ IsNaming c := by
  unfold Text.lowerAscii at hd
  split at hd
  · next hc =>
    obtain rfl := List.mem_singleton.mp hd
    exact ⟨.inl rfl, .inr (.inl hc)⟩
  split at hd
  · next hc =>
    simp only [List.mem_cons, List.not_mem_nil, or_false] at hd
    rcases hd with rfl | rfl
    · exact ⟨.inl rfl, .inr (.inr hc)⟩
    · cases h
  · obtain rfl := List.mem_singleton.mp hd
    cases hc : c.isUpper with
    | true => exact ⟨.inl (isLower_toLower hc), .inl (isAlphanum_iff.mpr (.inl hc))⟩
    | false =>
      rw [toLower_eq_self hc] at h ⊢
      have hkept := (isAlphanum_iff.mp h).resolve_left (by simp [hc])
      exact ⟨hkept.imp_right .inl, .inl h⟩

private theorem exists_mem_lowerAscii (h : IsNaming c) :
    ∃ d ∈ Text.lowerAscii c, d.isAlphanum = true := by
  unfold Text.lowerAscii
  split
  · exact ⟨'k', List.mem_cons_self, rfl⟩
  · next hk =>
    split
    · exact ⟨'i', List.mem_cons_self, rfl⟩
    · next hi =>
      have hc : c.isAlphanum = true := by simpa [IsNaming, hk, hi] using h
      refine ⟨c.toLower, List.mem_cons_self, ?_⟩
      cases hupper : c.isUpper with
      | true => exact isAlphanum_iff.mpr (.inr (.inl (isLower_toLower hupper)))
      | false => rwa [toLower_eq_self hupper]

private theorem of_fileChar?_eq_some (h : fileChar? d = some e) :
    e = '-' ∨ d.isAlphanum = true ∧ e = d := by
  unfold fileChar? at h
  split at h
  · exact .inl (Option.some.inj h).symm
  · split at h
    · next hd => exact .inr ⟨hd, (Option.some.inj h).symm⟩
    · cases h

private theorem ne_of_isAlphanum (hd : d.isAlphanum = true) (hc : c.isAlphanum = false) :
    d ≠ c := by
  rintro rfl
  simp [hd] at hc

private theorem fileChar?_of_isAlphanum (h : d.isAlphanum = true) : fileChar? d = some d := by
  simp [fileChar?, ne_of_isAlphanum h (c := ' ') rfl, ne_of_isAlphanum h (c := '_') rfl,
    ne_of_isAlphanum h (c := '-') rfl, h]

/-! ### Trimming -/

/-- A text without the characters of some kind at its two ends. -/
private def trimmed (p : Char → Bool) (cs : List Char) : List Char :=
  ((cs.dropWhile p).reverse.dropWhile p).reverse

private theorem mem_of_mem_trimmed {p : Char → Bool} (h : c ∈ trimmed p cs) : c ∈ cs := by
  have hleft := (List.dropWhile_sublist _).mem (List.mem_reverse.mp h)
  exact (List.dropWhile_sublist _).mem (List.mem_reverse.mp hleft)

private theorem mem_dropWhile {p : Char → Bool} (hc : c ∈ cs) (hp : p c = false) :
    c ∈ cs.dropWhile p := by
  rw [← List.takeWhile_append_dropWhile (p := p) (l := cs), List.mem_append] at hc
  refine hc.resolve_left fun h ↦ ?_
  simp [List.mem_takeWhile_imp h] at hp

private theorem mem_trimmed {p : Char → Bool} (hc : c ∈ cs) (hp : p c = false) :
    c ∈ trimmed p cs :=
  List.mem_reverse.mpr (mem_dropWhile (List.mem_reverse.mpr (mem_dropWhile hc hp)) hp)

/-! ### The name of the file -/

/-- What is left of a name in the name of its file. -/
private def stemOf (name : String) : List Char :=
  trimDashes (((Text.trimBoth name.toList).flatMap Text.lowerAscii).filterMap fileChar?)

private theorem fileStem_eq (name id : String) : fileStem name id =
    if (stemOf name).isEmpty then "workflow-" ++ id else String.ofList (stemOf name) := rfl

private theorem isStemChar_of_mem_stemOf (h : e ∈ stemOf name) : IsStemChar e := by
  obtain ⟨d, hd, he⟩ := List.mem_filterMap.mp (mem_of_mem_trimmed (p := (· = '-')) h)
  obtain ⟨c, -, hd⟩ := List.mem_flatMap.mp hd
  rcases of_fileChar?_eq_some he with rfl | ⟨halpha, rfl⟩
  · exact .inr (.inr rfl)
  · exact (of_mem_lowerAscii hd halpha).1

/-- Something is left of a name exactly if one of its characters leaves a letter or a digit. -/
private theorem stemOf_ne_nil_iff : stemOf name ≠ [] ↔ NamesFile name := by
  constructor
  · intro h
    by_contra hnone
    -- then nothing but dashes is left, and these are trimmed off
    have hdash : ∀ e ∈ ((Text.trimBoth name.toList).flatMap Text.lowerAscii).filterMap fileChar?,
        decide (e = '-') = true := by
      intro e he
      obtain ⟨d, hd, he⟩ := List.mem_filterMap.mp he
      obtain ⟨c, hc, hd⟩ := List.mem_flatMap.mp hd
      have hc := mem_of_mem_trimmed (p := Text.isBlank) hc
      rcases of_fileChar?_eq_some he with rfl | ⟨halpha, -⟩
      · rfl
      · exact absurd ⟨c, hc, (of_mem_lowerAscii hd halpha).2⟩ hnone
    exact h (by simp [stemOf, trimDashes, List.dropWhile_eq_nil_iff.mpr hdash])
  · rintro ⟨c, hc, hnaming⟩
    obtain ⟨d, hd, halpha⟩ := exists_mem_lowerAscii hnaming
    have hkept := mem_trimmed (p := Text.isBlank) hc (isBlank_eq_false hnaming)
    have hdash : d ≠ '-' := ne_of_isAlphanum halpha rfl
    have hleft := List.mem_filterMap.mpr
      ⟨d, List.mem_flatMap.mpr ⟨c, hkept, hd⟩, fileChar?_of_isAlphanum halpha⟩
    exact List.ne_nil_of_mem (mem_trimmed (p := (· = '-')) hleft (decide_eq_false hdash))

/-- The name of a file without its ending is what is left of the name, if this leaves a letter or a
digit, and made of the id otherwise. -/
private theorem toList_fileStem (name id : String) :
    NamesFile name ∧ (fileStem name id).toList = stemOf name ∨
      ¬NamesFile name ∧ fileStem name id = "workflow-" ++ id := by
  rw [fileStem_eq, ← stemOf_ne_nil_iff]
  split
  · next h => exact .inr ⟨by simpa using h, rfl⟩
  · next h => exact .inl ⟨by simpa using h, String.toList_ofList⟩

private theorem fileStem_ne_empty (name id : String) : fileStem name id ≠ "" := by
  intro h
  rcases toList_fileStem name id with ⟨hname, heq⟩ | ⟨-, heq⟩
  · rw [h] at heq
    exact stemOf_ne_nil_iff.mpr hname heq.symm
  · simp [h] at heq

/-- The id has to be made of small letters, digits and dashes only where it stands in. -/
private theorem forall_isStemChar_iff : (∀ c ∈ (fileStem name id).toList, IsStemChar c) ↔
    NamesFile name ∨ ∀ c ∈ id.toList, IsStemChar c := by
  rcases toList_fileStem name id with ⟨hname, heq⟩ | ⟨hname, heq⟩
  · rw [heq]
    exact iff_of_true (fun c ↦ isStemChar_of_mem_stemOf) (.inl hname)
  · have hprefix : ∀ c ∈ "workflow-".toList, IsStemChar c := by
      simp [IsStemChar]
    simp only [heq, String.toList_append, List.forall_mem_append, hname, false_or]
    exact and_iff_right hprefix

private theorem slash_notMem_fileStem_iff :
    '/' ∉ (fileStem name id).toList ↔ NamesFile name ∨ '/' ∉ id.toList := by
  rcases toList_fileStem name id with ⟨hname, heq⟩ | ⟨hname, heq⟩
  · rw [heq]
    refine iff_of_true (fun h ↦ ?_) (.inl hname)
    exact absurd (isStemChar_of_mem_stemOf h) (by decide)
  · simp [heq, hname]

/-! ### The path of the file -/

theorem Text.notMem_afterLast (separator : Char) (cs : List Char) :
    separator ∉ Text.afterLast separator cs := by
  intro h
  simpa using List.mem_takeWhile_imp (List.mem_reverse.mp h)

/-- What stands after the last occurrence is known as soon as there is none in it. -/
theorem Text.afterLast_append_cons {separator : Char} {before after : List Char}
    (h : separator ∉ after) :
    Text.afterLast separator (before ++ separator :: after) = after := by
  have hafter : ∀ c ∈ after.reverse, decide (c ≠ separator) = true := by
    rintro c hc
    refine decide_eq_true fun heq ↦ h ?_
    rwa [← heq, ← List.mem_reverse]
  rw [Text.afterLast, List.reverse_append, List.reverse_cons, List.append_assoc,
    List.takeWhile_append_of_pos hafter]
  simp

/-- What follows the directory of pipelines is the name of a file if there is no slash in it. -/
theorem fileName_append (file : String) :
    fileName (pipelineDirectory ++ file) = file ↔ '/' ∉ file.toList := by
  have hdirectory : (pipelineDirectory ++ file).toList =
      ".github/workflows".toList ++ '/' :: file.toList := by
    simp [pipelineDirectory]
  rw [fileName, hdirectory]
  constructor
  · intro h
    rw [← h, String.toList_ofList]
    exact Text.notMem_afterLast _ _
  · intro h
    rw [Text.afterLast_append_cons h, String.ofList_toList]

theorem Workflow.path_eq (w : Workflow) :
    w.path = pipelineDirectory ++ (fileStem w.name w.id ++ ".yml") := String.append_assoc ..

/-! ### The files that calls are about -/

/-- The path of the file that a call is about: a call for the runs of a pipeline has only the name
of a file in the directory of pipelines. -/
def Call.path? : Call → Option String
  | .getFile path => some path
  | .putFile write => some write.path
  | .deleteFile path _ _ => some path
  | .listRuns file => some (pipelineDirectory ++ file)
  | .triggerRun file _ _ => some (pipelineDirectory ++ file)
  | .runDetail _ => none

namespace Procedure

variable {α β : Type} {path : String} {p : Procedure α} {f : α → Procedure β}

/-- Whether every call that is made is about the file at a path, whatever the answers. -/
def Addresses (path : String) (p : Procedure α) : Prop :=
  ∀ asked x, p.run.Runs asked x → ∀ c, .call c ∈ asked → c.path? = some path

theorem Addresses.bind (hp : p.Addresses path) (hf : ∀ a, (f a).Addresses path) :
    (p >>= f).Addresses path := by
  intro asked x h c hc
  rcases Dialogue.runs_run_bind.mp h with ⟨e, hfails, -⟩ | ⟨a, first, later, rfl, hfirst, hlater⟩
  · exact hp _ _ hfails c hc
  · rcases List.mem_append.mp hc with hc | hc
    · exact hp _ _ hfirst c hc
    · exact hf a _ _ hlater c hc

theorem addresses_call {c : Call} (hc : c.path? = some path) : (call c).Addresses path := by
  intro asked x h d hd
  cases h with
  | ask _ _ answer later _ hlater =>
    obtain ⟨rfl, -⟩ := Dialogue.runs_done.mp hlater
    obtain rfl : d = c := by simpa using hd
    exact hc

/-- The first call is made whatever the answers. -/
theorem Addresses.path?_eq {c : Call} {f : c.Reply → Procedure β}
    (h : (call c >>= f).Addresses path) : c.path? = some path := by
  have hcall : (call c).run.Runs [.call c] (.error (.remote .disconnected)) :=
    .ask _ _ (.error .disconnected) [] _ (.done _)
  exact h _ _ (Dialogue.runs_run_bind.mpr (.inl ⟨_, hcall, rfl⟩)) c List.mem_cons_self

theorem addresses_wait (ms : Nat) : (wait ms).Addresses path := by
  intro asked x h d hd
  obtain ⟨u, hasked, -⟩ := Dialogue.runs_run_lift.mp h
  rw [Dialogue.runs_question.mp hasked] at hd
  simp at hd

theorem addresses_ofExcept (x : Except SyncError α) : (ofExcept x).Addresses path := by
  intro asked y h c hc
  rw [(Dialogue.runs_done.mp h).1] at hc
  cases hc

theorem addresses_pure (a : α) : (pure a : Procedure α).Addresses path :=
  addresses_ofExcept (.ok a)

theorem addresses_throw (e : SyncError) : (throw e : Procedure α).Addresses path :=
  addresses_ofExcept (.error e)

/-- Whoever looks for a run asks for the runs of one file. -/
theorem addresses_findRun (file : String) (known : List Nat) (delay attempts : Nat) :
    (findRun file known delay attempts).Addresses (pipelineDirectory ++ file) := by
  induction attempts with
  | zero => exact addresses_throw _
  | succ attempts ih =>
    refine (addresses_call rfl).bind fun runs ↦ ?_
    split
    · exact addresses_pure _
    · exact (addresses_wait _).bind fun _ ↦ ih

end Procedure

namespace Workflow

open Procedure

variable (w : Workflow)

theorem addresses_deploy (r : Registry) (lastSeen : Option String) (policy : ConflictPolicy) :
    (w.deploy r lastSeen policy).Addresses w.path := by
  refine (addresses_ofExcept _).bind fun pipeline ↦ (addresses_call rfl).bind fun found ↦ ?_
  split
  · exact addresses_throw _
  · exact addresses_pure _
  · exact (addresses_call rfl).bind fun version ↦ addresses_pure _

theorem addresses_undeploy : w.undeploy.Addresses w.path := by
  refine (addresses_call rfl).bind fun found ↦ ?_
  split
  · exact addresses_pure _
  · exact (addresses_call rfl).bind fun _ ↦ addresses_pure _

/-- To start a run is about the file that the path ends with. -/
theorem addresses_dispatch (ref : String) (inputs : Settings) (lookUp : LookUp) :
    (w.dispatch ref inputs lookUp).Addresses (pipelineDirectory ++ fileName w.path) :=
  (addresses_call rfl).bind fun _ ↦ (addresses_call rfl).bind fun _ ↦ addresses_findRun _ _ _ _

/-- A run is started of the file that is deployed exactly if this is directly inside the
directory. -/
theorem addresses_path_dispatch_iff (ref : String) (inputs : Settings) (lookUp : LookUp) :
    (w.dispatch ref inputs lookUp).Addresses w.path ↔
      w.path = pipelineDirectory ++ fileName w.path := by
  constructor
  · exact fun h ↦ (Option.some.inj h.path?_eq).symm
  · intro h
    have haddresses := w.addresses_dispatch ref inputs lookUp
    rwa [← h] at haddresses

/-- Whether a workflow has one file, directly inside the directory of pipelines, which is the one
that it is deployed to, that is deleted and that runs are started of. -/
structure HasOneFile : Prop where
  /-- The path leads to a file directly inside the directory. -/
  isDirect : ∃ file, file ≠ "" ∧ '/' ∉ file.toList ∧ w.path = pipelineDirectory ++ file
  /-- The name of the file at the path is the stem with its ending. -/
  fileName_path : fileName w.path = fileStem w.name w.id ++ ".yml"
  /-- A deployment is about this file. -/
  deploy : ∀ r lastSeen policy, (w.deploy r lastSeen policy).Addresses w.path
  /-- To take back a deployment is about this file. -/
  undeploy : w.undeploy.Addresses w.path
  /-- To start a run is about this file. -/
  dispatch : ∀ ref inputs lookUp, (w.dispatch ref inputs lookUp).Addresses w.path

private theorem fileName_path_iff : fileName w.path = fileStem w.name w.id ++ ".yml" ↔
    NamesFile w.name ∨ '/' ∉ w.id.toList := by
  rw [path_eq, fileName_append, ← slash_notMem_fileStem_iff]
  simp

private theorem path_eq_iff : w.path = pipelineDirectory ++ fileName w.path ↔
    NamesFile w.name ∨ '/' ∉ w.id.toList := by
  rw [← fileName_path_iff]
  constructor
  · intro h
    have hfile := (w.path_eq.symm.trans h)
    exact (String.append_right_inj _).mp hfile.symm
  · intro h
    rw [h, path_eq]

/-- The name of a workflow's file is never empty. It is made of small letters, digits and dashes
exactly if the name of the workflow leaves a letter or a digit, or the id is made of such
characters. The workflow has one file exactly if its name leaves a letter or a digit, or there is
no slash in its id; otherwise runs are started of another file than the one that is deployed. -/
theorem hasOneFile_iff : fileStem w.name w.id ≠ "" ∧
    ((∀ c ∈ (fileStem w.name w.id).toList, IsStemChar c) ↔
      NamesFile w.name ∨ ∀ c ∈ w.id.toList, IsStemChar c) ∧
    (w.HasOneFile ↔ NamesFile w.name ∨ '/' ∉ w.id.toList) ∧
    ∀ ref inputs lookUp, (w.dispatch ref inputs lookUp).Addresses w.path ↔
      NamesFile w.name ∨ '/' ∉ w.id.toList := by
  have hdispatch := fun ref inputs lookUp ↦
    (w.addresses_path_dispatch_iff ref inputs lookUp).trans w.path_eq_iff
  refine ⟨fileStem_ne_empty _ _, forall_isStemChar_iff, ?_, hdispatch⟩
  constructor
  · exact fun h ↦ w.fileName_path_iff.mp h.fileName_path
  · intro h
    have hname := w.fileName_path_iff.mpr h
    have hpath := w.path_eq_iff.mpr h
    refine ⟨⟨fileName w.path, ?_, ?_, hpath⟩, hname, w.addresses_deploy, w.addresses_undeploy,
      fun ref inputs lookUp ↦ (hdispatch ref inputs lookUp).mpr h⟩
    · simp [hname]
    · exact (fileName_append _).mp (congrArg fileName hpath).symm

/-- A workflow with no letter or digit of ASCII in its name and a slash in its id. -/
private def slashed : Workflow where
  id := "a/b"
  name := "日本"
  description := ""
  blocks := [⟨"t", Kind.triggerPush.tag, .origin, .empty, none⟩,
    ⟨"c", Kind.jobCheckout.tag, .origin, .empty, none⟩]
  connections := [⟨"e", "t", "out", "c", "in"⟩]

/-- The id is not made safe: the pipeline is deployed to a file in another directory, and a run is
started of a file that nobody writes. -/
theorem not_hasOneFile_slashed : slashed.isValid .builtin = true ∧
    slashed.path = ".github/workflows/workflow-a/b.yml" ∧
    (¬∀ c ∈ (fileStem slashed.name slashed.id).toList, IsStemChar c) ∧
    ¬slashed.HasOneFile ∧
    ¬(slashed.dispatch "main" .empty .initial).Addresses slashed.path := by
  have hpath : ¬slashed.path = pipelineDirectory ++ fileName slashed.path := by decide +kernel
  refine ⟨by decide +kernel, by decide +kernel, fun h ↦ ?_, ?_, ?_⟩
  · exact absurd (h '/' (by decide +kernel)) (by decide)
  · exact fun h ↦ absurd h.fileName_path (by decide +kernel)
  · exact fun h ↦ hpath ((slashed.addresses_path_dispatch_iff _ _ _).mp h)

end Workflow

end Blockflow
