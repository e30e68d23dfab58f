import Blockflow.Proofs.Yaml.Words

/-!
# Quoted scalars within a longer text

A quoted scalar ends with its closing quote. As only gaps stand behind a text, a scalar of the
longer text that starts in the shorter one has its closing quote there, with everything before it.
-/

namespace Blockflow.Text

/-- Digits are no number if one of them is none. -/
theorem digitsValue?_eq_none {base : Nat} {cs : List Char} {d : Char} (hd : d ∈ cs)
    (hdigit : digit? base d = none) : digitsValue? base cs = none := by
  have hfold : ∀ n, (cs.foldlM (fun n c ↦ (digit? base c).map (n * base + ·)) n) = none := by
    induction cs with
    | nil => cases hd
    | cons c cs ih =>
      intro n
      rw [List.foldlM_cons]
      rcases List.mem_cons.mp hd with rfl | hd
      · rw [hdigit]
        rfl
      · cases digit? base c with
        | none => rfl
        | some value => exact ih hd _
  exact hfold 0

end Blockflow.Text

namespace Blockflow.Yaml

open Cursor

variable {F : Frame} {c c' cF : Cursor} {d : Char} {rest : List Char} {n m : Nat}

/-! ### Escapes -/

/-- No gap is a digit of a number behind the digits of a text. -/
theorem hexNumber?_append {width : Nat} {cs : List Char} :
    hexNumber? width (cs ++ F.tail) = hexNumber? width cs := by
  by_cases hlength : width ≤ cs.length
  · have hlengthF : ¬(cs ++ F.tail).length < width := by
      rw [List.length_append]
      omega
    rw [hexNumber?, hexNumber?, if_neg hlengthF, if_neg (by omega),
      List.take_append_of_le_length hlength]
  · have hnone : hexNumber? width cs = none := if_pos (by omega)
    rw [hnone, hexNumber?]
    split
    · rfl
    · next hlengthF =>
      -- the first gap is among the digits
      obtain ⟨d, tail, htail⟩ : ∃ d tail, F.tail = d :: tail := by
        refine List.exists_cons_of_ne_nil fun hnil ↦ ?_
        rw [hnil, List.append_nil] at hlengthF
        omega
      have hdigit : Text.digit? 16 d = none := by
        have hnone := eq_false_of_gaps (p := fun e ↦ (Text.digit? 16 e).isSome) (by decide) d
          (F.isGap_of_mem d (by simp [htail]))
        simpa using hnone
      apply Text.digitsValue?_eq_none _ hdigit
      obtain ⟨k, rfl⟩ : ∃ k, width = cs.length + (k + 1) := ⟨width - cs.length - 1, by omega⟩
      rw [List.take_append, htail]
      simp

/-- An escape within the shorter text is the same in the longer one. -/
theorem readEscape?_within (h : 2 ≤ c.rest.length) : readEscape? (c.within F) =
    (readEscape? c).map fun x ↦ (x.1, x.2.within F) := by
  obtain ⟨letter, hletter⟩ : ∃ letter, c.second? = some letter :=
    ⟨c.rest[1], List.getElem?_eq_getElem h⟩
  have hletterF : (c.within F).second? = some letter := by
    rw [second?, rest_within, List.getElem?_append_left h]
    exact hletter
  rw [readEscape?, readEscape?, hletter, hletterF]
  dsimp only
  cases escapeWidth? letter with
  | none =>
    rw [skip_within h]
    cases escaped? letter <;> rfl
  | some width =>
    dsimp only
    rw [rest_within, List.drop_append_of_le_length h, hexNumber?_append]
    cases hnumber : hexNumber? width (c.rest.drop 2) with
    | none => rfl
    | some number =>
      have hwidth : 2 + width ≤ c.rest.length := by
        rw [hexNumber?] at hnumber
        split at hnumber
        · cases hnumber
        · next hlength =>
          rw [List.length_drop] at hlength
          omega
      dsimp only
      rw [skip_within hwidth]
      split <;> rfl

/-- An escape has at least two characters. -/
theorem exists_skip_of_readEscape? (h : readEscape? c = some (d, c')) :
    ∃ k, 2 ≤ k ∧ c' = c.skip k := by
  rw [readEscape?] at h
  split at h
  · cases h
  split at h
  · split at h
    · split at h
      · cases h
      · exact ⟨_, Nat.le_add_right 2 _, (Prod.mk.inj (Option.some.inj h)).2.symm⟩
    · cases h
  · obtain ⟨e, -, h⟩ := Option.map_eq_some_iff.mp h
    exact ⟨2, le_rfl, (Prod.mk.inj h).2.symm⟩

/-! ### The words of a quoted scalar -/

section Words

variable {quote : Char} {done word text : List Char} {broken : Bool}

theorem leads_quotedWord? (h : quotedWord? quote n done c = some (word, broken, c')) :
    c.Leads c' := by
  induction n generalizing done c with
  | zero =>
    simp only [quotedWord?, Option.some.injEq, Prod.mk.injEq] at h
    obtain ⟨-, -, rfl⟩ := h
    exact .refl c
  | succ n ih =>
    have hstop {done : List Char} {broken' : Bool} {c₁ : Cursor} (hleads : c.Leads c₁)
        (h : some (done, broken', c₁) = some (word, broken, c')) : c.Leads c' := by
      simp only [Option.some.injEq, Prod.mk.injEq] at h
      obtain ⟨-, -, rfl⟩ := h
      exact hleads
    rw [quotedWord?] at h
    split at h
    · exact hstop (.refl c) h
    split at h
    · exact hstop (.refl c) h
    split at h
    · exact (leads_skip c 2).trans (ih h)
    split at h
    · exact hstop (.refl c) h
    split at h
    · split at h
      · exact hstop ((leads_skip c 1).trans (leads_readBreak _)) h
      split at h
      · next hescape =>
        obtain ⟨k, -, rfl⟩ := exists_skip_of_readEscape? hescape
        exact (leads_skip c k).trans (ih h)
      · cases h
    · exact (leads_skip c 1).trans (ih h)

/-- Nothing is read where only gaps follow. -/
theorem quotedWord?_of_gaps (hgaps : ∀ d ∈ c.rest, isGap d = true) :
    quotedWord? quote n [] c = some ([], false, c) := by
  cases n with
  | zero => rfl
  | succ n =>
    rw [quotedWord?]
    cases hrest : c.rest with
    | nil => simp [head?, hrest]
    | cons d rest => simp [head?, hrest, hgaps d (by simp [hrest])]

/-- The rest of a word from a backslash on. -/
private def escapedWord? (quote : Char) (n : Nat) (done : List Char) (c : Cursor) :
    Option (List Char × Bool × Cursor) :=
  if (c.skip 1).atBreak then some (done.reverse, true, (c.skip 1).readBreak.2)
  else
    match readEscape? c with
    | some (e, c) => quotedWord? quote n (e :: done) c
    | none => none

private theorem quotedWord?_of_cons (hrest : c.rest = d :: rest) :
    quotedWord? quote (n + 1) done c =
      if isGap d then some (done.reverse, false, c)
      else if quote == '\'' && d == '\'' && c.second? == some '\'' then
        quotedWord? quote n ('\'' :: done) (c.skip 2)
      else if d == quote then some (done.reverse, false, c)
      else if quote == '"' && d == '\\' then escapedWord? quote n done c
      else quotedWord? quote n (d :: done) (c.skip 1) := by
  rw [quotedWord?, head?_of_rest hrest]
  rfl

/-- From a backslash on, a word leads further. -/
private theorem leads_escapedWord? (h : escapedWord? quote n done c = some (word, broken, c')) :
    (c.skip 1).Leads c' := by
  rw [escapedWord?] at h
  split at h
  · simp only [Option.some.injEq, Prod.mk.injEq] at h
    rw [← h.2.2]
    exact leads_readBreak _
  split at h
  · next hescape =>
    obtain ⟨k, hk, rfl⟩ := exists_skip_of_readEscape? hescape
    obtain ⟨k, rfl⟩ : ∃ j, k = 1 + j := ⟨k - 1, by omega⟩
    rw [skip_add] at h
    exact (leads_skip _ k).trans (leads_quotedWord? h)
  · cases h

/-- A word leads further, unless a gap or the closing quote comes next. -/
theorem stops_of_quotedWord? (h : quotedWord? quote (n + 1) done c = some (word, broken, c'))
    (hrest : c.rest = d :: rest) : c'.rest.length < c.rest.length ∨
      broken = false ∧ c' = c ∧ (isGap d = true ∨ d = quote) := by
  have hskip {k : Nat} (hk : 0 < k) : (c.skip k).rest.length < c.rest.length := by
    rw [skip, List.length_drop, hrest, List.length_cons]
    omega
  rw [quotedWord?_of_cons hrest] at h
  split at h
  · next hgap =>
    simp only [Option.some.injEq, Prod.mk.injEq] at h
    exact .inr ⟨h.2.1.symm, h.2.2.symm, .inl hgap⟩
  split at h
  · exact .inl ((leads_quotedWord? h).suffix.length_le.trans_lt (hskip Nat.two_pos))
  split at h
  · next hquote =>
    simp only [Option.some.injEq, Prod.mk.injEq] at h
    exact .inr ⟨h.2.1.symm, h.2.2.symm, .inr (beq_iff_eq.mp hquote)⟩
  split at h
  · exact .inl ((leads_escapedWord? h).suffix.length_le.trans_lt (hskip Nat.one_pos))
  · exact .inl ((leads_quotedWord? h).suffix.length_le.trans_lt (hskip Nat.one_pos))

/-- Whether a word of the longer text is one of the shorter text as well, unless only gaps
follow. -/
def WordAgrees (F : Frame) (o oF : Option (List Char × Bool × Cursor)) : Prop :=
  ∀ word broken cF, oF = some (word, broken, cF) →
    (∃ c', o = some (word, broken, c') ∧ cF = c'.within F) ∨ ∀ d ∈ cF.rest, isGap d = true

private theorem wordAgrees_within (word : List Char) (broken : Bool) (c : Cursor) :
    WordAgrees F (some (word, broken, c)) (some (word, broken, c.within F)) := by
  intro word' broken' cF h
  simp only [Option.some.injEq, Prod.mk.injEq] at h
  obtain ⟨rfl, rfl, rfl⟩ := h
  exact .inl ⟨c, rfl, rfl⟩

/-- From the end of the shorter text on, nothing has to be compared. -/
private theorem wordAgrees_of_nil {o oF : Option (List Char × Bool × Cursor)} (hend : c.rest = [])
    (hleads : ∀ word broken cF, oF = some (word, broken, cF) → (c.within F).Leads cF) :
    WordAgrees F o oF := by
  intro word broken cF h
  have hreaches := (reaches_within F c).of_leads hend (hleads word broken cF h)
  exact .inr (hreaches.outside hend)

/-- An escape in the shorter text is the same in the longer one; behind a backslash at its end, only
gaps follow. -/
private theorem wordAgrees_escapedWord? (hs : IsSolid c.rest) (hrest : c.rest = d :: rest)
    (hgo : ∀ e k, 2 ≤ k → WordAgrees F (quotedWord? quote m (e :: done) (c.skip k))
      (quotedWord? quote n (e :: done) ((c.skip k).within F))) :
    WordAgrees F (escapedWord? quote m done c) (escapedWord? quote n done (c.within F)) := by
  by_cases hend : (c.skip 1).rest = []
  · refine wordAgrees_of_nil hend fun word broken cF h ↦ ?_
    rw [← skip_one_within hrest]
    exact leads_escapedWord? h
  have htwo : 2 ≤ c.rest.length := by
    have hpos := List.length_pos_iff.mpr hend
    rw [skip, List.length_drop] at hpos
    omega
  have hbreak : ((c.skip 1).within F).atBreak = (c.skip 1).atBreak := by
    rw [atBreak, rest_within, List.head?_append_of_ne_nil _ hend, atBreak]
  rw [escapedWord?, escapedWord?, skip_one_within hrest, hbreak,
    readBreak_within (hs.of_suffix (leads_skip c 1).suffix) hend, readEscape?_within htwo]
  refine rel_ite (fun _ ↦ wordAgrees_within _ _ _) fun _ ↦ ?_
  cases hread : readEscape? c with
  | none =>
    intro word broken cF h
    cases h
  | some found =>
    obtain ⟨e, c₁⟩ := found
    obtain ⟨k, hk, rfl⟩ := exists_skip_of_readEscape? hread
    exact hgo e k hk

/-- A word of the longer text is one of the shorter text as well, unless only gaps follow. -/
theorem wordAgrees_quotedWord? (hs : IsSolid c.rest) (hn : c.rest.length ≤ n)
    (hm : c.rest.length ≤ m) :
    WordAgrees F (quotedWord? quote m done c) (quotedWord? quote n done (c.within F)) := by
  induction n generalizing m done c with
  | zero =>
    have hnil := List.eq_nil_of_length_eq_zero (Nat.le_zero.mp hn)
    exact wordAgrees_of_nil hnil fun word broken cF h ↦ leads_quotedWord? h
  | succ n ih =>
    cases hrest : c.rest with
    | nil => exact wordAgrees_of_nil hrest fun word broken cF h ↦ leads_quotedWord? h
    | cons d rest =>
      have hlength : c.rest.length = rest.length + 1 := by rw [hrest, List.length_cons]
      obtain ⟨m, rfl⟩ : ∃ k, m = k + 1 := Nat.exists_eq_add_one.mpr (by omega)
      have hgo (done : List Char) {k : Nat} (hk : 1 ≤ k) :
          WordAgrees F (quotedWord? quote m done (c.skip k))
            (quotedWord? quote n done ((c.skip k).within F)) := by
        have hskip : (c.skip k).rest.length = c.rest.length - k := List.length_drop
        exact ih (hs.of_suffix (leads_skip c k).suffix) (by omega) (by omega)
      have hrestF : (c.within F).rest = d :: (rest ++ F.tail) := by
        rw [rest_within, hrest, List.cons_append]
      rw [quotedWord?_of_cons hrest, quotedWord?_of_cons hrestF, beq_second?_within rfl,
        skip_one_within hrest]
      refine rel_ite (fun _ ↦ wordAgrees_within _ _ _) fun _ ↦ ?_
      refine rel_ite (fun hpair ↦ ?_) fun _ ↦ ?_
      · have hsecond : c.second? = some '\'' := by
          simp only [Bool.and_eq_true, beq_iff_eq] at hpair
          exact hpair.2
        obtain ⟨hle, -⟩ := List.getElem?_eq_some_iff.mp hsecond
        rw [skip_within hle]
        exact hgo _ (Nat.le_succ 1)
      refine rel_ite (fun _ ↦ wordAgrees_within _ _ _) fun _ ↦ ?_
      exact rel_ite
        (fun _ ↦ wordAgrees_escapedWord? hs hrest fun e k hk ↦ hgo _ (Nat.le_of_lt hk))
        fun _ ↦ hgo _ le_rfl

/-! ### Quoted scalars -/

theorem leads_quotedFrom? (h : quotedFrom? quote n done c = some (text, c')) : c.Leads c' := by
  induction n generalizing done c with
  | zero => cases h
  | succ n ih =>
    rw [quotedFrom?] at h
    split at h
    · cases h
    split at h
    · cases h
    · next hword =>
      have hleads := leads_quotedWord? hword
      split at h
      · obtain ⟨-, rfl⟩ := Prod.mk.inj (Option.some.inj h)
        exact hleads.trans (leads_skip _ 1)
      dsimp only at h
      split at h
      · cases h
      · next hgap => exact (hleads.trans (Gap.leads_read? hgap)).trans (ih h)

/-- A quoted scalar from the end of one of its words on. -/
private def fromWord? (quote : Char) (n : Nat) (done word : List Char) (escapedBreak : Bool)
    (c : Cursor) : Option (List Char × Cursor) :=
  if c.head? == some quote then some (done ++ word, c.skip 1)
  else
    match Gap.read? none (c.rest.length + 1) (if escapedBreak then .escaped else .empty) c with
    | none => none
    | some (gap, c) => quotedFrom? quote n (done ++ word ++ gap.text) c

private theorem quotedFrom?_succ : quotedFrom? quote (n + 1) done c =
    if c.atDocumentMark || c.atEnd then none
    else
      match quotedWord? quote (c.rest.length + 1) [] c with
      | none => none
      | some (word, escapedBreak, c) => fromWord? quote n done word escapedBreak c := rfl

private theorem fromWord?_of_gaps (hquote : isGap quote = false)
    (hgaps : ∀ d ∈ c.rest, isGap d = true)
    (hnone : ∀ done (c : Cursor), (∀ d ∈ c.rest, isGap d = true) →
      quotedFrom? quote n done c = none) : fromWord? quote n done word broken c = none := by
  have hhead : ¬(c.head? == some quote) = true := by
    intro h
    have hmem : quote ∈ c.rest := List.mem_of_mem_head? (beq_iff_eq.mp h)
    exact ne_of_isGap (hgaps quote hmem) hquote rfl
  rw [fromWord?, if_neg hhead]
  split
  · rfl
  · next hgap => exact hnone _ _ fun d hd ↦ hgaps d ((Gap.leads_read? hgap).suffix.subset hd)

/-- A quoted scalar does not end where only gaps follow. -/
theorem quotedFrom?_of_gaps (hquote : isGap quote = false) (hgaps : ∀ d ∈ c.rest, isGap d = true) :
    quotedFrom? quote n done c = none := by
  induction n generalizing done c with
  | zero => rfl
  | succ n ih =>
    rw [quotedFrom?_succ, quotedWord?_of_gaps hgaps]
    dsimp only
    split
    · rfl
    · exact fromWord?_of_gaps hquote hgaps fun done c hgaps ↦ ih hgaps

/-- Behind a word in the shorter text, a quoted scalar goes on in the same way in the longer one. -/
private theorem exists_fromWord? (hquote : isGap quote = false) (hs : IsSolid c.rest)
    (hne : c.rest ≠ []) (h : fromWord? quote n done word broken (c.within F) = some (text, cF))
    (hgo : ∀ (done : List Char) (c₁ : Cursor), c₁.rest <:+ c.rest →
      (∀ d rest, c.rest = d :: rest → d ≠ quote ∧
        (isGap d = true → c₁.rest.length < c.rest.length)) →
      quotedFrom? quote n done (c₁.within F) = some (text, cF) →
        ∃ c', quotedFrom? quote m done c₁ = some (text, c') ∧ cF = c'.within F) :
    ∃ c', fromWord? quote m done word broken c = some (text, c') ∧ cF = c'.within F := by
  rw [fromWord?, beq_head?_within hquote] at h
  rw [fromWord?]
  by_cases hclose : (c.head? == some quote) = true
  · rw [if_pos hclose, skip_within (List.length_pos_iff.mpr hne)] at h
    rw [if_pos hclose]
    obtain ⟨rfl, rfl⟩ := Prod.mk.inj (Option.some.inj h)
    exact ⟨_, rfl, rfl⟩
  rw [if_neg hclose, Gap.read?_within (m := c.rest.length + 1) hs hne
    (by rw [rest_within, List.length_append]; omega) (Nat.le_succ _)] at h
  rw [if_neg hclose]
  cases hgap : Gap.read? none (c.rest.length + 1) (if broken then .escaped else .empty) c with
  | none => simp [hgap] at h
  | some after =>
    obtain ⟨g, c₁⟩ := after
    rw [hgap, Option.map_some] at h
    refine hgo _ c₁ (Gap.leads_read? hgap).suffix (fun d rest hrest ↦ ⟨?_, fun hd ↦ ?_⟩) h
    · rintro rfl
      exact hclose (beq_iff_eq.mpr (head?_of_rest hrest))
    · exact Gap.length_read?_lt hrest hd hgap

/-- A quoted scalar of the longer text is one of the shorter text as well, and ends at the same
place. -/
theorem exists_quotedFrom? (hquote : isGap quote = false) (hs : IsSolid c.rest)
    (hn : c.rest.length < n) (hm : c.rest.length < m)
    (h : quotedFrom? quote n done (c.within F) = some (text, cF)) :
    ∃ c', quotedFrom? quote m done c = some (text, c') ∧ cF = c'.within F := by
  induction n generalizing m done c with
  | zero => cases h
  | succ n ih =>
    obtain ⟨m, rfl⟩ : ∃ k, m = k + 1 := Nat.exists_eq_add_one.mpr (by omega)
    by_cases hend : c.rest = []
    · rw [quotedFrom?_of_gaps hquote ((reaches_within F c).outside hend)] at h
      cases h
    obtain ⟨d, rest, hrest⟩ := List.exists_cons_of_ne_nil hend
    have hatEnd : ((c.within F).atDocumentMark || (c.within F).atEnd) =
        (c.atDocumentMark || c.atEnd) := by
      rw [atDocumentMark_within, atEnd, atEnd, rest_within, hrest]
      rfl
    rw [quotedFrom?_succ, hatEnd] at h
    rw [quotedFrom?_succ]
    split at h
    · cases h
    next hgoes =>
    rw [if_neg hgoes]
    split at h
    · cases h
    next word broken c₁F hwordF =>
    have hinside : ¬∀ d ∈ c₁F.rest, isGap d = true := by
      -- no quote can be among the gaps behind the shorter text
      intro hgaps
      rw [fromWord?_of_gaps hquote hgaps fun _ _ ↦ quotedFrom?_of_gaps hquote] at h
      cases h
    obtain ⟨c₁, hword, rfl⟩ := (wordAgrees_quotedWord? (m := c.rest.length + 1) hs
      (by rw [rest_within, List.length_append]; omega) (Nat.le_succ _) _ _ _ hwordF).resolve_right
        hinside
    have hne : c₁.rest ≠ [] := fun hnil ↦ hinside ((reaches_within F c₁).outside hnil)
    have hs₁ := hs.of_suffix (leads_quotedWord? hword).suffix
    rw [hword]
    refine exists_fromWord? hquote hs₁ hne h fun done c₂ hsuffix hnext hrun ↦ ?_
    have hless : c₂.rest.length < c.rest.length := by
      rcases stops_of_quotedWord? hword hrest with hless | ⟨-, rfl, hd⟩
      · exact hsuffix.length_le.trans_lt hless
      · obtain ⟨hquoted, hgap⟩ := hnext d rest hrest
        exact hgap (hd.resolve_right hquoted)
    exact ih (hs₁.of_suffix hsuffix) (by omega) (by omega) hrun

end Words

end Blockflow.Yaml
