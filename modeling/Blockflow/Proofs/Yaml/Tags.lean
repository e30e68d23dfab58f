import Blockflow.Proofs.Yaml.Words
import Blockflow.Yaml.Token

/-!
# Names, tags and directives within a longer text

None of these goes over a gap, so what the longer text says with them, the shorter one says too.
Only the blanks and the line end behind a directive may stand behind the shorter text.
-/

namespace Blockflow.Yaml.Token

open Cursor

variable {F : Frame} {c c' cF : Cursor} {d : Char} {rest : List Char} {t : Token}

/-! ### Names -/

private theorem isNameChar_of_gap : ∀ d, isGap d = true → isNameChar d = false :=
  eq_false_of_gaps (by decide)

theorem anchorName?_within (hrest : c.rest = d :: rest) : anchorName? (c.within F) =
    (anchorName? c).map fun x ↦ (x.1, x.2.within F) := by
  rw [anchorName?, anchorName?, skip_one_within hrest, takeWhile_within_of_gap isNameChar_of_gap]
  dsimp only
  rw [all_head?_within fun e he ↦ by rw [he]; rfl]
  split <;> rfl

theorem suffix_of_anchorName? {name : String} (hrest : c.rest = d :: rest)
    (h : anchorName? c = some (name, c')) : c'.rest <:+ rest := by
  rw [anchorName?] at h
  dsimp only at h
  split at h
  · cases h
  · obtain ⟨-, rfl⟩ := Prod.mk.inj (Option.some.inj h)
    have hleads := leads_takeWhile (c.skip 1) isNameChar
    rw [← rest_skip_one hrest]
    exact hleads.suffix

/-! ### Tags -/

/-- Where a character that is asked for comes next, the place behind it is the same in the longer
text. -/
private theorem skip_one_within_of_head? (h : (c.head? == some d) = true) :
    (c.within F).skip 1 = (c.skip 1).within F := by
  obtain ⟨rest, hrest⟩ := List.head?_eq_some_iff.mp (beq_iff_eq.mp h)
  exact skip_one_within hrest

theorem tagHandle?_within {directive : Bool} : tagHandle? directive (c.within F) =
    (tagHandle? directive c).map fun x ↦ (x.1, x.2.within F) := by
  rw [tagHandle?, tagHandle?, bne, beq_head?_within rfl, bne]
  by_cases hhead : (c.head? == some '!') = true
  · rw [hhead, if_neg (by decide), if_neg (by decide), skip_one_within_of_head? hhead,
      takeWhile_within_of_gap isNameChar_of_gap]
    dsimp only
    rw [beq_head?_within rfl]
    by_cases hsecond : (((c.skip 1).takeWhile isNameChar).2.head? == some '!') = true
    · rw [if_pos hsecond, if_pos hsecond, skip_one_within_of_head? hsecond]
      rfl
    · rw [if_neg hsecond, if_neg hsecond]
      split <;> rfl
  · rw [Bool.not_eq_true] at hhead
    rw [hhead]
    rfl

theorem suffix_of_tagHandle? {directive : Bool} {handle : String} (hrest : c.rest = d :: rest)
    (h : tagHandle? directive c = some (handle, c')) : c'.rest <:+ rest := by
  have hname := (leads_takeWhile (c.skip 1) isNameChar).suffix
  rw [rest_skip_one hrest] at hname
  rw [tagHandle?] at h
  dsimp only at h
  split at h
  · cases h
  split at h
  · obtain ⟨-, rfl⟩ := Prod.mk.inj (Option.some.inj h)
    exact (leads_skip _ 1).suffix.trans hname
  split at h
  · cases h
  · obtain ⟨-, rfl⟩ := Prod.mk.inj (Option.some.inj h)
    exact hname

private theorem isTagChar_of_gap (verbatim : Bool) :
    ∀ d, isGap d = true → isTagChar verbatim d = false := by
  cases verbatim
  · exact eq_false_of_gaps (by decide)
  · exact eq_false_of_gaps (by decide)

theorem tagText?_within {verbatim : Bool} {head : List Char} :
    tagText? verbatim head (c.within F) =
      (tagText? verbatim head c).map fun x ↦ (x.1, x.2.within F) := by
  rw [tagText?, tagText?, takeWhile_within_of_gap (isTagChar_of_gap verbatim)]
  dsimp only
  split
  · rfl
  · simp only [Option.bind_eq_bind, Option.pure_def]
    cases percentDecoded? _ _ with
    | none => rfl
    | some parts =>
      simp only [Option.bind_some]
      cases joinBytes? _ _ <;> rfl

theorem suffix_of_tagText? {verbatim : Bool} {head : List Char} {text : String}
    (h : tagText? verbatim head c = some (text, c')) : c'.rest <:+ c.rest := by
  rw [tagText?] at h
  dsimp only at h
  split at h
  · cases h
  · simp only [Option.bind_eq_bind, Option.pure_def, Option.bind_eq_some_iff, Option.some.injEq,
      Prod.mk.injEq] at h
    obtain ⟨parts, -, chars, -, -, rfl⟩ := h
    exact (leads_takeWhile c _).suffix

/-- A tag has at least one character behind its handle, and no gap is one. -/
theorem tagText?_of_gaps {verbatim : Bool} (hgaps : ∀ d ∈ c.rest, isGap d = true) :
    tagText? verbatim [] c = none := by
  have hnil : (c.takeWhile (isTagChar verbatim)).1 = [] := by
    rw [takeWhile]
    cases hrest : c.rest with
    | nil => rfl
    | cons d rest =>
      have hd := isTagChar_of_gap verbatim d (hgaps d (by simp [hrest]))
      exact List.takeWhile_cons_of_neg (by simp [hd])
  rw [tagText?]
  dsimp only
  rw [hnil]
  rfl

theorem tagParts?_within : tagParts? (c.within F) =
    (tagParts? c).map fun x ↦ (x.1, x.2.1, x.2.2.within F) := by
  rw [tagParts?, tagParts?, beq_second?_within rfl]
  by_cases hopen : (c.second? == some '<') = true
  · obtain ⟨htwo, -⟩ := List.getElem?_eq_some_iff.mp (beq_iff_eq.mp hopen)
    rw [if_pos hopen, if_pos hopen, skip_within htwo, tagText?_within]
    cases tagText? true [] (c.skip 2) with
    | none => rfl
    | some found =>
      obtain ⟨suffix, c₁⟩ := found
      simp only [Option.bind_eq_bind, Option.map_some, Option.bind_some, Option.pure_def]
      rw [beq_head?_within rfl]
      by_cases hclose : (c₁.head? == some '>') = true
      · rw [if_pos hclose, if_pos hclose, skip_one_within_of_head? hclose]
        rfl
      · rw [if_neg hclose, if_neg hclose]
        rfl
  · rw [if_neg hopen, if_neg hopen, tagHandle?_within]
    cases tagHandle? false c with
    | none => rfl
    | some found =>
      obtain ⟨handle, c₁⟩ := found
      simp only [Option.bind_eq_bind, Option.map_some, Option.bind_some, Option.pure_def,
        tagText?_within]
      split
      · cases tagText? false [] c₁ <;> rfl
      · cases tagText? false handle.toList c₁ with
        | none => rfl
        | some found =>
          simp only [Option.map_some, Option.bind_some]
          split <;> rfl

theorem suffix_of_tagParts? {handle suffix : String} (hrest : c.rest = d :: rest)
    (h : tagParts? c = some (handle, suffix, c')) : c'.rest <:+ rest := by
  rw [tagParts?] at h
  simp only [Option.bind_eq_bind, Option.pure_def] at h
  split at h
  · obtain ⟨⟨suffix', c₁⟩, htext, h⟩ := Option.bind_eq_some_iff.mp h
    have htwo : (c.skip 2).rest <:+ rest := by
      rw [skip, hrest]
      exact List.drop_suffix 1 rest
    dsimp only at h
    split at h
    · simp only [Option.some.injEq, Prod.mk.injEq] at h
      obtain ⟨-, -, rfl⟩ := h
      exact ((leads_skip c₁ 1).suffix.trans (suffix_of_tagText? htext)).trans htwo
    · cases h
  · obtain ⟨⟨handle', c₁⟩, hhandle, h⟩ := Option.bind_eq_some_iff.mp h
    have hsuffix := suffix_of_tagHandle? hrest hhandle
    dsimp only at h
    split at h
    · obtain ⟨⟨suffix', c₂⟩, htext, h⟩ := Option.bind_eq_some_iff.mp h
      simp only [Option.some.injEq, Prod.mk.injEq] at h
      obtain ⟨-, -, rfl⟩ := h
      exact (suffix_of_tagText? htext).trans hsuffix
    · obtain ⟨⟨suffix', c₂⟩, htext, h⟩ := Option.bind_eq_some_iff.mp h
      have hc' : c' = c₂ := by
        dsimp only at h
        split at h
        · exact (Prod.mk.inj (Prod.mk.inj (Option.some.inj h)).2).2.symm
        · exact (Prod.mk.inj (Prod.mk.inj (Option.some.inj h)).2).2.symm
      rw [hc']
      exact (suffix_of_tagText? htext).trans hsuffix

theorem tag?_within {flow : Bool} : tag? flow (c.within F) =
    (tag? flow c).map fun x ↦ (x.1, x.2.within F) := by
  rw [tag?, tag?, tagParts?_within]
  cases tagParts? c with
  | none => rfl
  | some parts =>
    obtain ⟨handle, suffix, c₁⟩ := parts
    dsimp only [Option.map_some]
    rw [atGap_within, beq_head?_within rfl]
    split <;> rfl

theorem suffix_of_tag? {flow : Bool} (hrest : c.rest = d :: rest)
    (h : tag? flow c = some (t, c')) : c'.rest <:+ rest := by
  rw [tag?] at h
  split at h
  · next hparts =>
    split at h
    · obtain ⟨-, rfl⟩ := Prod.mk.inj (Option.some.inj h)
      exact suffix_of_tagParts? hrest hparts
    · cases h
  · cases h

/-! ### Directives -/

private theorem isDigit_of_gap : ∀ d, isGap d = true → d.isDigit = false :=
  eq_false_of_gaps (by decide)

theorem versionNumber?_within : versionNumber? (c.within F) =
    (versionNumber? c).map fun x ↦ (x.1, x.2.within F) := by
  rw [versionNumber?, versionNumber?, takeWhile_within_of_gap isDigit_of_gap]
  dsimp only
  split <;> rfl

theorem suffix_of_versionNumber? {number : Nat} (h : versionNumber? c = some (number, c')) :
    c'.rest <:+ c.rest := by
  rw [versionNumber?] at h
  dsimp only at h
  split at h
  · cases h
  · obtain ⟨-, rfl⟩ := Prod.mk.inj (Option.some.inj h)
    exact (leads_takeWhile c _).suffix

/-- A number of a version has a digit. -/
theorem versionNumber?_of_gaps (hgaps : ∀ d ∈ c.rest, isGap d = true) :
    versionNumber? c = none := by
  have hnil : (c.takeWhile Char.isDigit).1 = [] := by
    rw [takeWhile]
    cases hrest : c.rest with
    | nil => rfl
    | cons d rest =>
      have hd := isDigit_of_gap d (hgaps d (by simp [hrest]))
      exact List.takeWhile_cons_of_neg (by simp [hd])
  rw [versionNumber?]
  dsimp only
  rw [hnil]
  rfl

theorem tagHandle?_of_gaps {directive : Bool} (hgaps : ∀ d ∈ c.rest, isGap d = true) :
    tagHandle? directive c = none := by
  have hhead : c.head? ≠ some '!' := by
    intro h
    exact ne_of_isGap (hgaps '!' (List.mem_of_mem_head? h)) rfl rfl
  rw [tagHandle?, if_pos (bne_iff_ne.mpr hhead)]

/-- What the directive about the version says. -/
private def versionBody? (c : Cursor) : Option (Token × Cursor) := do
  let (major, c) ← versionNumber? c
  if c.head? != some '.' then none
  let (minor, c) ← versionNumber? (c.skip 1)
  return (.version major minor, c)

/-- What a directive about a handle says. -/
private def handleBody? (c : Cursor) : Option (Token × Cursor) := do
  let (handle, c) ← tagHandle? true c
  if !c.atBlank then none
  let (start, c) ← tagText? true [] (c.skipWhile isBlank)
  if c.atGap then return (.tagDirective handle start, c) else none

private theorem directiveBody?_eq (name : String) (c : Cursor) : directiveBody? name c =
    match name with
    | "YAML" => versionBody? (c.skipWhile isBlank)
    | "TAG" => handleBody? (c.skipWhile isBlank)
    | _ => none := rfl

private theorem exists_versionBody? (h : versionBody? (c.within F) = some (t, cF)) :
    ∃ c', versionBody? c = some (t, c') ∧ cF = c'.within F ∧ c'.rest <:+ c.rest := by
  simp only [versionBody?, Option.bind_eq_bind, Option.pure_def, versionNumber?_within] at h ⊢
  obtain ⟨⟨major, c₁F⟩, hmajorF, h⟩ := Option.bind_eq_some_iff.mp h
  obtain ⟨⟨_, c₁⟩, hmajor, heq⟩ := Option.map_eq_some_iff.mp hmajorF
  obtain ⟨rfl, rfl⟩ := Prod.mk.inj heq
  dsimp only at h
  rw [bne, beq_head?_within rfl] at h
  by_cases hdot : (c₁.head? == some '.') = true
  · rw [hdot, if_neg (by decide), skip_one_within_of_head? hdot, versionNumber?_within] at h
    obtain ⟨⟨minor, c₂F⟩, hminorF, h⟩ := Option.bind_eq_some_iff.mp h
    obtain ⟨⟨_, c₂⟩, hminor, heq⟩ := Option.map_eq_some_iff.mp hminorF
    obtain ⟨rfl, rfl⟩ := Prod.mk.inj heq
    obtain ⟨rfl, rfl⟩ := Prod.mk.inj (Option.some.inj h)
    refine ⟨c₂, by simp [hmajor, bne, beq_iff_eq.mp hdot, hminor], rfl, ?_⟩
    have hsuffix := (suffix_of_versionNumber? hminor).trans (leads_skip c₁ 1).suffix
    exact hsuffix.trans (suffix_of_versionNumber? hmajor)
  · rw [Bool.not_eq_true] at hdot
    simp [hdot] at h

private theorem exists_handleBody? (hrest : c.rest = d :: rest)
    (h : handleBody? (c.within F) = some (t, cF)) :
    ∃ c', handleBody? c = some (t, c') ∧ cF = c'.within F ∧ c'.rest <:+ c.rest := by
  simp only [handleBody?, Option.bind_eq_bind, Option.pure_def, tagHandle?_within] at h ⊢
  obtain ⟨⟨handle, c₁F⟩, hhandleF, h⟩ := Option.bind_eq_some_iff.mp h
  obtain ⟨⟨_, c₁⟩, hhandle, heq⟩ := Option.map_eq_some_iff.mp hhandleF
  obtain ⟨rfl, rfl⟩ := Prod.mk.inj heq
  have hsuffix₁ : c₁.rest <:+ c.rest :=
    (suffix_of_tagHandle? hrest hhandle).trans (hrest ▸ List.suffix_cons d rest)
  have hblanks := (reaches_within F c₁).skipWhile isBlank
  have hskipped := (leads_skipWhile c₁ isBlank).suffix
  dsimp only at h
  split at h
  · cases h
  next hblank =>
  obtain ⟨⟨start, c₂F⟩, hstartF, h⟩ := Option.bind_eq_some_iff.mp h
  by_cases hend : (c₁.skipWhile isBlank).rest = []
  · rw [tagText?_of_gaps (hblanks.outside hend)] at hstartF
    cases hstartF
  rw [hblanks.inside hend, tagText?_within] at hstartF
  obtain ⟨⟨_, c₂⟩, hstart, heq⟩ := Option.map_eq_some_iff.mp hstartF
  obtain ⟨rfl, rfl⟩ := Prod.mk.inj heq
  have hatBlank : (c₁.within F).atBlank = c₁.atBlank := by
    have hne : c₁.rest ≠ [] := fun hnil ↦ hend (List.suffix_nil.mp (hnil ▸ hskipped))
    rw [atBlank, rest_within, List.head?_append_of_ne_nil _ hne, atBlank]
  rw [hatBlank, Bool.not_eq_true, Bool.not_eq_false'] at hblank
  dsimp only at h
  rw [atGap_within] at h
  split at h
  · next hgap =>
    obtain ⟨rfl, rfl⟩ := Prod.mk.inj (Option.some.inj h)
    refine ⟨c₂, by simp [hhandle, hblank, hstart, hgap], rfl, ?_⟩
    exact ((suffix_of_tagText? hstart).trans hskipped).trans hsuffix₁
  · cases h

/-- What a directive says has to stand in the shorter text. -/
theorem exists_directiveBody? {name : String}
    (h : directiveBody? name (c.within F) = some (t, cF)) :
    ∃ c', directiveBody? name c = some (t, c') ∧ cF = c'.within F ∧ c'.rest <:+ c.rest := by
  have hblanks := (reaches_within F c).skipWhile isBlank
  have hsuffix := (leads_skipWhile c isBlank).suffix
  rw [directiveBody?_eq] at h ⊢
  generalize (c.within F).skipWhile isBlank = c₁F at h hblanks
  generalize c.skipWhile isBlank = c₁ at hsuffix hblanks ⊢
  by_cases hend : c₁.rest = []
  · -- there is nothing to read, neither a version nor a handle
    have hgaps := hblanks.outside hend
    split at h
    · simp [versionBody?, versionNumber?_of_gaps hgaps] at h
    · simp [handleBody?, tagHandle?_of_gaps hgaps] at h
    · cases h
  obtain rfl := hblanks.inside hend
  obtain ⟨d, rest, hrest⟩ := List.exists_cons_of_ne_nil hend
  split at h
  · obtain ⟨c', hc', rfl, hsuffix'⟩ := exists_versionBody? h
    exact ⟨c', hc', rfl, hsuffix'.trans hsuffix⟩
  · obtain ⟨c', hc', rfl, hsuffix'⟩ := exists_handleBody? hrest h
    exact ⟨c', hc', rfl, hsuffix'.trans hsuffix⟩
  · cases h

/-- A directive of the longer text is one of the shorter text as well. -/
theorem exists_directive? (hs : IsSolid c.rest) (hrest : c.rest = d :: rest)
    (h : directive? (c.within F) = some (t, cF)) :
    ∃ c', directive? c = some (t, c') ∧ Reaches F c' cF ∧ c'.rest <:+ rest := by
  simp only [directive?, skip_one_within hrest, takeWhile_within_of_gap isNameChar_of_gap,
    atGap_within, Option.bind_eq_bind, Option.pure_def] at h ⊢
  have hname := (leads_takeWhile (c.skip 1) isNameChar).suffix
  rw [rest_skip_one hrest] at hname
  generalize (c.skip 1).takeWhile isNameChar = named at h hname ⊢
  obtain ⟨name, c₁⟩ := named
  dsimp only at h hname ⊢
  split at h
  · cases h
  next hstart =>
  rw [if_neg hstart]
  obtain ⟨⟨token, c₂F⟩, hbodyF, h⟩ := Option.bind_eq_some_iff.mp h
  obtain ⟨c₂, hbody, rfl, hsuffix⟩ := exists_directiveBody? hbodyF
  have hcomment := ((reaches_within F c₂).skipWhile isBlank).skipComment
  have hleads := (leads_skipWhile c₂ isBlank).trans (leads_skipComment _)
  rw [hbody, Option.bind_some]
  dsimp only at h ⊢
  rw [← skipComment] at h ⊢
  split at h
  · next hline =>
    obtain ⟨rfl, rfl⟩ := Prod.mk.inj (Option.some.inj h)
    rw [if_pos (hcomment.atLineEnd hline)]
    have hrest' := (hleads.suffix.trans hsuffix).trans hname
    have hsolid := hs.of_suffix (hrest'.trans (hrest ▸ List.suffix_cons d rest))
    exact ⟨_, rfl, hcomment.readBreak hsolid, (leads_readBreak _).suffix.trans hrest'⟩
  · cases h

end Blockflow.Yaml.Token
