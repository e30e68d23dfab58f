import Blockflow.Proofs.Yaml.Frame

/-!
# Scalars within a longer text

Plain and quoted scalars are read word by word, with gaps between the words. A quoted scalar of the
longer text has to end within the shorter one, as no quote stands behind it. A plain one may end
where the shorter text does, and then the gaps behind it belong to it without being part of what is
read.
-/

namespace Blockflow.Yaml

open Cursor

variable {F : Frame} {c c' cF : Cursor} {d : Char} {rest : List Char} {n m : Nat}

/-! ### One character further -/

theorem rest_skip_one (h : c.rest = d :: rest) : (c.skip 1).rest = rest := by
  rw [skip, h]
  rfl

theorem skip_one_within (h : c.rest = d :: rest) : (c.within F).skip 1 = (c.skip 1).within F :=
  skip_within (by simp [h])

theorem head?_of_rest (h : c.rest = d :: rest) : c.head? = some d := by
  rw [head?, h, List.head?_cons]

theorem head?_within_of_rest (h : c.rest = d :: rest) : (c.within F).head? = some d := by
  rw [head?, rest_within, h, List.cons_append, List.head?_cons]

/-- Behind a line end comes less than there was. -/
theorem length_readBreak_lt (h : c.rest = d :: rest) (hd : isBreak d = true) :
    c.readBreak.2.rest.length < c.rest.length := by
  unfold readBreak
  split
  · next more hmore =>
    rw [hmore]
    simp only [List.length_cons]
    omega
  · next e more _ hmore =>
    rw [h, List.cons.injEq] at hmore
    obtain ⟨rfl, rfl⟩ := hmore
    rw [if_pos hd, h]
    exact Nat.lt_succ_self _
  · next hnil =>
    rw [h] at hnil
    cases hnil

/-- A line end is not the end of a text that does not end with a gap. -/
theorem rest_readBreak_ne_nil (hs : IsSolid c.rest) (hne : c.rest ≠ []) :
    c.readBreak.2.rest ≠ [] := by
  unfold readBreak
  split
  · next more hmore =>
    rw [hmore] at hs
    exact hs.of_cons.ne_nil rfl
  · next e more _ hmore =>
    split
    · next he =>
      rw [hmore] at hs
      exact hs.ne_nil (isGap_of_isBreak he)
    · exact hne
  · exact hne

/-! ### The gap between two words -/

namespace Gap

variable {indent : Option Nat} {g g' : Gap}

theorem leads_read? (h : read? indent n g c = some (g', c')) : c.Leads c' := by
  induction n generalizing g c with
  | zero =>
    obtain ⟨-, rfl⟩ := Prod.mk.inj (Option.some.inj h)
    exact .refl c
  | succ n ih =>
    rw [read?] at h
    dsimp only at h
    split at h
    · obtain ⟨-, rfl⟩ := Prod.mk.inj (Option.some.inj h)
      exact .refl c
    split at h
    · split at h
      · cases h
      split at h
      · exact (leads_skip c 1).trans (ih h)
      · exact (leads_skip c 1).trans (ih h)
    split at h
    · split at h
      · exact (leads_readBreak c).trans (ih h)
      · exact (leads_readBreak c).trans (ih h)
    · obtain ⟨-, rfl⟩ := Prod.mk.inj (Option.some.inj h)
      exact .refl c

/-- A gap that starts with a character ends behind it. -/
theorem length_read?_lt (hrest : c.rest = d :: rest) (hd : isGap d = true)
    (h : read? indent (n + 1) g c = some (g', c')) : c'.rest.length < c.rest.length := by
  have hskip : (c.skip 1).rest.length < c.rest.length := by
    rw [rest_skip_one hrest, hrest]
    exact Nat.lt_succ_self _
  rw [read?, head?_of_rest hrest] at h
  dsimp only at h
  split at h
  · split at h
    · cases h
    split at h
    · exact ((leads_read? h).suffix.length_le).trans_lt hskip
    · exact ((leads_read? h).suffix.length_le).trans_lt hskip
  split at h
  · next hbreak =>
    have hbreak := length_readBreak_lt hrest hbreak
    split at h
    · exact ((leads_read? h).suffix.length_le).trans_lt hbreak
    · exact ((leads_read? h).suffix.length_le).trans_lt hbreak
  · next hblank hbreak => simp [isGap, hblank, hbreak] at hd

/-- A gap that ends within the shorter text is the same in the longer one. -/
theorem read?_within (hs : IsSolid c.rest) (hne : c.rest ≠ []) (hn : c.rest.length ≤ n)
    (hm : c.rest.length ≤ m) :
    read? indent n g (c.within F) = (read? indent m g c).map fun x ↦ (x.1, x.2.within F) := by
  induction n generalizing m g c with
  | zero => exact absurd (List.eq_nil_of_length_eq_zero (Nat.le_zero.mp hn)) hne
  | succ n ih =>
    obtain ⟨d, rest, hrest⟩ := List.exists_cons_of_ne_nil hne
    have hlength : c.rest.length = rest.length + 1 := by rw [hrest, List.length_cons]
    obtain ⟨m, rfl⟩ : ∃ k, m = k + 1 := Nat.exists_eq_add_one.mpr (by omega)
    rw [read?, read?, head?_of_rest hrest, head?_within_of_rest hrest]
    dsimp only
    by_cases hblank : isBlank d = true
    · have hnext {g : Gap} := ih (m := m) (g := g) (hs.of_suffix (leads_skip c 1).suffix)
        (by
          rw [rest_skip_one hrest]
          exact IsSolid.ne_nil (hrest ▸ hs) (isGap_of_isBlank hblank))
        (by rw [rest_skip_one hrest]; omega) (by rw [rest_skip_one hrest]; omega)
      rw [if_pos hblank, if_pos hblank, skip_one_within hrest, column_within, hnext, hnext]
      split
      · rfl
      · split <;> rfl
    · rw [if_neg hblank, if_neg hblank]
      by_cases hbreak : isBreak d = true
      · have hless := length_readBreak_lt hrest hbreak
        have hnext {g : Gap} := ih (m := m) (g := g) (hs.of_suffix (leads_readBreak c).suffix)
          (rest_readBreak_ne_nil hs hne) (by omega) (by omega)
        rw [if_pos hbreak, if_pos hbreak, readBreak_within hs hne]
        dsimp only
        rw [hnext, hnext]
        split <;> rfl
      · rw [if_neg hbreak, if_neg hbreak]
        rfl

end Gap

/-! ### Plain scalars -/

theorem leads_plainWord? {flow : Bool} {done word : List Char}
    (h : plainWord? flow n done c = some (word, c')) : c.Leads c' := by
  induction n generalizing done c with
  | zero =>
    obtain ⟨-, rfl⟩ := Prod.mk.inj (Option.some.inj h)
    exact .refl c
  | succ n ih =>
    rw [plainWord?] at h
    split at h
    · obtain ⟨-, rfl⟩ := Prod.mk.inj (Option.some.inj h)
      exact .refl c
    split at h
    · obtain ⟨-, rfl⟩ := Prod.mk.inj (Option.some.inj h)
      exact .refl c
    split at h
    · cases h
    split at h
    · obtain ⟨-, rfl⟩ := Prod.mk.inj (Option.some.inj h)
      exact .refl c
    · exact (leads_skip c 1).trans (ih h)

/-- Nothing is read where only gaps follow. -/
theorem plainWord?_of_gaps {flow : Bool} (hgaps : ∀ d ∈ c.rest, isGap d = true) :
    plainWord? flow n [] c = some ([], c) := by
  cases n with
  | zero => rfl
  | succ n =>
    rw [plainWord?]
    cases hrest : c.rest with
    | nil => simp [head?, hrest]
    | cons d rest => simp [head?, hrest, hgaps d (by simp [hrest])]

/-- The words of a plain scalar are the same in the longer text. -/
theorem plainWord?_within {flow : Bool} (done : List Char) (hn : c.rest.length ≤ n)
    (hm : c.rest.length ≤ m) : plainWord? flow n done (c.within F) =
      (plainWord? flow m done c).map fun x ↦ (x.1, x.2.within F) := by
  induction n generalizing m done c with
  | zero =>
    have hnil := List.eq_nil_of_length_eq_zero (Nat.le_zero.mp hn)
    cases m <;> simp [plainWord?, head?, hnil]
  | succ n ih =>
    cases hrest : c.rest with
    | nil =>
      have hstops : plainWord? flow (n + 1) done (c.within F) =
          some (done.reverse, c.within F) := by
        rw [plainWord?]
        cases htail : F.tail with
        | nil => simp [head?, hrest, htail]
        | cons d tail => simp [head?, hrest, htail, F.isGap_of_mem d]
      rw [hstops]
      cases m <;> simp [plainWord?, head?, hrest]
    | cons d rest =>
      have hlength : c.rest.length = rest.length + 1 := by rw [hrest, List.length_cons]
      obtain ⟨m, rfl⟩ : ∃ k, m = k + 1 := Nat.exists_eq_add_one.mpr (by omega)
      have hmark : (c.within F).second?.any (fun e ↦ isFlowMark e || e == '?') =
          c.second?.any fun e ↦ isFlowMark e || e == '?' :=
        any_second?_within (eq_false_of_gaps (by decide))
      have hnext := ih (m := m) (c := c.skip 1) (d :: done)
        (by rw [rest_skip_one hrest]; omega) (by rw [rest_skip_one hrest]; omega)
      rw [plainWord?, plainWord?, head?_of_rest hrest, head?_within_of_rest hrest]
      dsimp only
      rw [hmark, gapAfterNext_within, skip_one_within hrest, hnext]
      split
      · rfl
      split
      · rfl
      split <;> rfl

section Plain

variable {flow broken : Bool} {indent : Nat} {done text : List Char} {gap : Gap}

/-- A plain scalar from the end of one of its words on. -/
private def fromPlainWord? (flow : Bool) (indent n : Nat) (done : List Char) (broken : Bool)
    (c : Cursor) : Option (List Char × Bool × Cursor) :=
  if c.rest.head?.any isGap then
    match Gap.read? (some indent) (c.rest.length + 1) .empty c with
    | none => none
    | some (gap, c) =>
      if !flow && c.column < indent then some (done, gap.broken, c)
      else plainFrom? flow indent n done gap c
  else some (done, broken, c)

private theorem plainFrom?_succ : plainFrom? flow indent (n + 1) done gap c =
    if c.atDocumentMark || c.head? == some '#' then some (done, gap.broken, c)
    else
      match plainWord? flow (c.rest.length + 1) [] c with
      | none => none
      | some (word, c) =>
        let (done, broken) :=
          if word.isEmpty then (done, gap.broken) else (done ++ gap.text ++ word, false)
        fromPlainWord? flow indent n done broken c := rfl

private theorem leads_of_eq {broken' : Bool}
    (h : some (done, broken', c) = some (text, broken, c')) : c.Leads c' := by
  simp only [Option.some.injEq, Prod.mk.injEq] at h
  rw [h.2.2]
  exact .refl c'

private theorem leads_fromPlainWord? {broken' : Bool}
    (hgo : ∀ {gap : Gap} {c : Cursor},
      plainFrom? flow indent n done gap c = some (text, broken, c') → c.Leads c')
    (h : fromPlainWord? flow indent n done broken' c = some (text, broken, c')) : c.Leads c' := by
  rw [fromPlainWord?] at h
  split at h
  · split at h
    · cases h
    next hgap =>
    apply (Gap.leads_read? hgap).trans
    split at h
    · exact leads_of_eq h
    · exact hgo h
  · exact leads_of_eq h

theorem leads_plainFrom? (h : plainFrom? flow indent n done gap c = some (text, broken, c')) :
    c.Leads c' := by
  induction n generalizing done gap c with
  | zero => exact leads_of_eq h
  | succ n ih =>
    rw [plainFrom?_succ] at h
    split at h
    · exact leads_of_eq h
    split at h
    · cases h
    · next hword => exact (leads_plainWord? hword).trans (leads_fromPlainWord? ih h)

private theorem text_eq_of_eq {broken' : Bool} {cF : Cursor}
    (h : some (done, broken', c) = some (text, broken, cF)) : text = done := by
  simp only [Option.some.injEq, Prod.mk.injEq] at h
  exact h.1.symm

private theorem text_eq_of_fromPlainWord? {broken' : Bool}
    (hgo : ∀ {gap : Gap} {c : Cursor}, (∀ d ∈ c.rest, isGap d = true) →
      plainFrom? flow indent n done gap c = some (text, broken, c') → text = done)
    (hgaps : ∀ d ∈ c.rest, isGap d = true)
    (h : fromPlainWord? flow indent n done broken' c = some (text, broken, c')) : text = done := by
  rw [fromPlainWord?] at h
  split at h
  · split at h
    · cases h
    next hgap =>
    split at h
    · exact text_eq_of_eq h
    · exact hgo (fun d hd ↦ hgaps d ((Gap.leads_read? hgap).suffix.subset hd)) h
  · exact text_eq_of_eq h

/-- Gaps behind a plain scalar are not part of what is read. -/
theorem text_eq_of_plainFrom? (hgaps : ∀ d ∈ c.rest, isGap d = true)
    (h : plainFrom? flow indent n done gap c = some (text, broken, c')) : text = done := by
  induction n generalizing gap c with
  | zero => exact text_eq_of_eq h
  | succ n ih =>
    rw [plainFrom?_succ, plainWord?_of_gaps hgaps] at h
    split at h
    · exact text_eq_of_eq h
    · exact text_eq_of_fromPlainWord? ih hgaps h

/-- Whether a plain scalar of the longer text is one of the shorter text as well. It ends at the
same place, unless the shorter text ends with it. -/
def PlainAgrees (F : Frame) (o oF : Option (List Char × Bool × Cursor)) : Prop :=
  ∀ text broken cF, oF = some (text, broken, cF) → ∃ broken' c',
    o = some (text, broken', c') ∧ Reaches F c' cF ∧ (c'.rest ≠ [] → broken' = broken)

private theorem plainAgrees_within (text : List Char) (broken : Bool) (c : Cursor) :
    PlainAgrees F (some (text, broken, c)) (some (text, broken, c.within F)) := by
  intro text' broken' cF h
  simp only [Option.some.injEq, Prod.mk.injEq] at h
  obtain ⟨rfl, rfl, rfl⟩ := h
  exact ⟨broken, c, rfl, reaches_within F c, fun _ ↦ rfl⟩

/-- Where the shorter text ends with a word, the scalar ends, and the longer text goes on with
gaps. -/
private theorem plainAgrees_of_nil (hend : c.rest = []) :
    PlainAgrees F (fromPlainWord? flow indent m done broken c)
      (fromPlainWord? flow indent n done broken (c.within F)) := by
  intro text broken' cF h
  have hreaches := reaches_within F c
  obtain rfl := text_eq_of_fromPlainWord? text_eq_of_plainFrom? (hreaches.outside hend) h
  refine ⟨broken, c, by simp [fromPlainWord?, hend], ?_, fun hne ↦ absurd hend hne⟩
  exact hreaches.of_leads hend (leads_fromPlainWord? leads_plainFrom? h)

private theorem plainAgrees_fromPlainWord? (hs : IsSolid c.rest)
    (hgo : ∀ (gap : Gap) (c₁ : Cursor), c₁.rest <:+ c.rest → c₁.rest.length < c.rest.length →
      PlainAgrees F (plainFrom? flow indent m done gap c₁)
        (plainFrom? flow indent n done gap (c₁.within F))) :
    PlainAgrees F (fromPlainWord? flow indent m done broken c)
      (fromPlainWord? flow indent n done broken (c.within F)) := by
  by_cases hend : c.rest = []
  · exact plainAgrees_of_nil hend
  obtain ⟨d, rest, hrest⟩ := List.exists_cons_of_ne_nil hend
  have hhead : (c.within F).rest.head?.any isGap = c.rest.head?.any isGap := by
    rw [rest_within, hrest]
    rfl
  rw [fromPlainWord?, fromPlainWord?, hhead]
  refine rel_ite (fun hd ↦ ?_) fun _ ↦ plainAgrees_within _ _ _
  rw [Gap.read?_within (m := c.rest.length + 1) hs hend
    (by rw [rest_within, List.length_append]; omega) (Nat.le_succ _)]
  cases hgap : Gap.read? (some indent) (c.rest.length + 1) .empty c with
  | none =>
    intro text broken cF h
    cases h
  | some after =>
    obtain ⟨g, c₁⟩ := after
    have hless : c₁.rest.length < c.rest.length := by
      rw [hrest, List.head?_cons, Option.any_some] at hd
      exact Gap.length_read?_lt hrest hd hgap
    rw [Option.map_some]
    dsimp only
    rw [column_within]
    exact rel_ite (fun _ ↦ plainAgrees_within _ _ _)
      fun _ ↦ hgo g c₁ (Gap.leads_read? hgap).suffix hless

/-- A plain scalar of the longer text is one of the shorter text as well. -/
theorem plainAgrees_plainFrom? (hs : IsSolid c.rest) (hn : c.rest.length < n)
    (hm : c.rest.length < m) :
    PlainAgrees F (plainFrom? flow indent m done gap c)
      (plainFrom? flow indent n done gap (c.within F)) := by
  induction n generalizing m done gap c with
  | zero => omega
  | succ n ih =>
    obtain ⟨m, rfl⟩ : ∃ k, m = k + 1 := Nat.exists_eq_add_one.mpr (by omega)
    rw [plainFrom?_succ, plainFrom?_succ, atDocumentMark_within, beq_head?_within rfl,
      plainWord?_within [] (m := c.rest.length + 1) (by rw [rest_within, List.length_append]; omega)
        (by omega)]
    refine rel_ite (fun _ ↦ plainAgrees_within _ _ _) fun _ ↦ ?_
    cases hword : plainWord? flow (c.rest.length + 1) [] c with
    | none =>
      intro text broken cF h
      cases h
    | some found =>
      obtain ⟨word, c₁⟩ := found
      have hsuffix := (leads_plainWord? hword).suffix
      have hle := hsuffix.length_le
      rw [Option.map_some]
      refine plainAgrees_fromPlainWord? (hs.of_suffix hsuffix) fun gap c₂ hsuffix₂ hless ↦ ?_
      exact ih (hs.of_suffix (hsuffix₂.trans hsuffix)) (by omega) (by omega)

end Plain

/-- A word takes the character that it starts with. -/
theorem suffix_of_plainWord? {flow : Bool} {done word : List Char} (hrest : c.rest = d :: rest)
    (hgap : isGap d = false) (hcolon : d = ':' → c.gapAfterNext = false)
    (hflow : flow = true → isFlowMark d = false)
    (h : plainWord? flow (n + 1) done c = some (word, c')) : c'.rest <:+ rest := by
  have hends : ¬((d == ':' && c.gapAfterNext) || (flow && isFlowMark d)) = true := by
    simp only [Bool.or_eq_true, Bool.and_eq_true, beq_iff_eq]
    rintro (⟨hd, hgap⟩ | ⟨hf, hd⟩)
    · rw [hcolon hd] at hgap
      cases hgap
    · rw [hflow hf] at hd
      cases hd
  rw [plainWord?, head?_of_rest hrest] at h
  dsimp only at h
  rw [if_neg (by simp [hgap])] at h
  split at h
  · cases h
  have hsuffix := (leads_plainWord? h).suffix
  rwa [rest_skip_one hrest] at hsuffix

/-- A plain scalar takes the character that it starts with. -/
theorem suffix_of_plainFrom? {flow broken : Bool} {indent : Nat} {done text : List Char} {gap : Gap}
    (hrest : c.rest = d :: rest) (hmark : c.atDocumentMark = false) (hhash : d ≠ '#')
    (hgap : isGap d = false) (hcolon : d = ':' → c.gapAfterNext = false)
    (hflow : flow = true → isFlowMark d = false)
    (h : plainFrom? flow indent (n + 1) done gap c = some (text, broken, c')) :
    c'.rest <:+ rest := by
  have hstop : ¬(c.atDocumentMark || c.head? == some '#') = true := by
    simp [hmark, head?_of_rest hrest, hhash]
  rw [plainFrom?_succ, if_neg hstop] at h
  split at h
  · cases h
  next word c₁ hword =>
  have hleads := leads_fromPlainWord? leads_plainFrom? h
  exact hleads.suffix.trans (suffix_of_plainWord? hrest hgap hcolon hflow hword)

end Blockflow.Yaml
