import Blockflow.Proofs.Yaml.Scanning

/-!
# The gaps between tokens

Before each token the scanner skips blanks, comments and line ends. In a text and in a longer one it
skips the same ones, and empty lines that a text starts with only move it on.
-/

namespace Blockflow.Yaml.Token.Scan

open Cursor

variable {F : Frame} {s sF : Scan} {n m : Nat}

/-- The place behind the blanks that come next and a comment behind these. -/
private def lineGapEnd (s : Scan) : Cursor :=
  let c := s.cursor
  let c := if c.column == 0 && c.head? == some '\ufeff' then c.skip 1 else c
  let tabs := s.inFlow || !s.keyAllowed
  (c.skipWhile fun d ↦ d == ' ' || (tabs && d == '\t')).skipComment

private theorem skipGaps_succ (n : Nat) (s : Scan) : skipGaps (n + 1) s =
    if s.lineGapEnd.atBreak then
      skipGaps n { s with
        cursor := s.lineGapEnd.readBreak.2
        keyAllowed := s.keyAllowed || !s.inFlow }
    else { s with cursor := s.lineGapEnd } := rfl

private theorem leads_lineGapEnd (s : Scan) : s.cursor.Leads s.lineGapEnd := by
  refine Leads.trans ?_ ((leads_skipWhile _ _).trans (leads_skipComment _))
  split
  · exact leads_skip _ 1
  · exact .refl _

private theorem lineGapEnd_of_nil (hend : s.cursor.rest = []) : s.lineGapEnd = s.cursor := by
  have hmark : ¬(s.cursor.column == 0 && s.cursor.head? == some '\ufeff') = true := by
    simp [head?, hend]
  rw [lineGapEnd, if_neg hmark, skipWhile_of_nil hend, skipComment_of_nil hend]

private theorem reaches_lineGapEnd (F : Frame) (hne : s.cursor.rest ≠ []) :
    Reaches F s.lineGapEnd (s.within F).lineGapEnd := by
  obtain ⟨d, rest, hrest⟩ := List.exists_cons_of_ne_nil hne
  have hmark : (if s.cursor.column == 0 && (s.cursor.within F).head? == some '\ufeff' then
      (s.cursor.within F).skip 1 else s.cursor.within F) =
      (if s.cursor.column == 0 && s.cursor.head? == some '\ufeff' then s.cursor.skip 1
        else s.cursor).within F := by
    rw [beq_head?_within rfl, skip_one_within hrest]
    split <;> rfl
  rw [lineGapEnd, lineGapEnd, cursor_within, column_within, hmark, inFlow_within, keyAllowed_within]
  exact ((reaches_within F _).skipWhile _).skipComment

/-- Behind gaps only the place changes, and whether a key may start. -/
private theorem exists_skipGaps_eq (n : Nat) (s : Scan) : ∃ c allowed,
    skipGaps n s = { s with cursor := c, keyAllowed := allowed } ∧ s.cursor.Leads c := by
  induction n generalizing s with
  | zero => exact ⟨s.cursor, s.keyAllowed, rfl, .refl _⟩
  | succ n ih =>
    rw [skipGaps_succ]
    split
    · obtain ⟨c, allowed, heq, hleads⟩ := ih { s with
        cursor := s.lineGapEnd.readBreak.2
        keyAllowed := s.keyAllowed || !s.inFlow }
      refine ⟨c, allowed, heq, ?_⟩
      exact ((leads_lineGapEnd s).trans (leads_readBreak _)).trans hleads
    · exact ⟨s.lineGapEnd, s.keyAllowed, rfl, leads_lineGapEnd s⟩

theorem leads_skipGaps (n : Nat) (s : Scan) : s.cursor.Leads (skipGaps n s).cursor := by
  obtain ⟨c, allowed, heq, hleads⟩ := exists_skipGaps_eq n s
  rw [heq]
  exact hleads

private theorem atBreak_of_nil {c : Cursor} (hend : c.rest = []) : ¬c.atBreak = true := by
  simp [atBreak, hend]

private theorem skipGaps_of_nil (hend : s.cursor.rest = []) : skipGaps n s = s := by
  cases n with
  | zero => rfl
  | succ n =>
    rw [skipGaps_succ, lineGapEnd_of_nil hend, if_neg (atBreak_of_nil hend)]

/-- Behind the gaps that come next, the scanner is in the same state in the longer text, or both
have come to the end of the shorter one. -/
theorem Follows.skipGaps (h : Follows F s sF) (hs : IsSolid s.cursor.rest)
    (hn : sF.cursor.rest.length < n) (hm : s.cursor.rest.length < m) :
    Follows F (skipGaps m s) (skipGaps n sF) := by
  induction n generalizing m s sF with
  | zero => omega
  | succ n ih =>
    by_cases hend : s.cursor.rest = []
    · rw [skipGaps_of_nil hend]
      obtain ⟨c, allowed, heq, hleads⟩ := exists_skipGaps_eq (n + 1) sF
      rw [heq]
      exact ⟨h.cursor.of_leads hend hleads, h.indent, h.outer, fun hne ↦ absurd hend hne, h.keys,
        h.tokens⟩
    obtain ⟨m, rfl⟩ : ∃ k, m = k + 1 := Nat.exists_eq_add_one.mpr (by omega)
    obtain rfl := h.eq_within hend
    have hreaches := reaches_lineGapEnd F hend
    have hleads := leads_lineGapEnd s
    rw [skipGaps_succ, skipGaps_succ]
    by_cases hgaps : s.lineGapEnd.rest = []
    · rw [if_neg (atBreak_of_nil hgaps)]
      split
      · obtain ⟨c, allowed, heq, hmore⟩ := exists_skipGaps_eq n { s.within F with
          cursor := (s.within F).lineGapEnd.readBreak.2
          keyAllowed := s.keyAllowed || !s.inFlow }
        rw [inFlow_within, keyAllowed_within, heq]
        exact ⟨hreaches.of_leads hgaps ((leads_readBreak _).trans hmore), rfl, rfl,
          fun hne ↦ absurd hgaps hne, rfl, rfl⟩
      · exact ⟨hreaches, rfl, rfl, fun _ ↦ rfl, rfl, rfl⟩
    · have hsolid := hs.of_suffix hleads.suffix
      have hbreak : (s.lineGapEnd.within F).atBreak = s.lineGapEnd.atBreak := by
        rw [atBreak, rest_within, List.head?_append_of_ne_nil _ hgaps, atBreak]
      rw [hreaches.inside hgaps, hbreak]
      by_cases hnext : s.lineGapEnd.atBreak = true
      · obtain ⟨d, rest, hrest⟩ := List.exists_cons_of_ne_nil hgaps
        have hless := length_readBreak_lt hrest (by simpa [atBreak, hrest] using hnext)
        have hle := hleads.suffix.length_le
        rw [if_pos hnext, if_pos hnext, readBreak_within hsolid hgaps, inFlow_within,
          keyAllowed_within]
        refine ih (follows_within F { s with
          cursor := s.lineGapEnd.readBreak.2
          keyAllowed := s.keyAllowed || !s.inFlow })
          (hsolid.of_suffix (leads_readBreak _).suffix) ?_ ?_
        · change (s.lineGapEnd.readBreak.2.rest ++ F.tail).length < n
          rw [cursor_within, rest_within, List.length_append] at hn
          rw [List.length_append]
          omega
        · change s.lineGapEnd.readBreak.2.rest.length < m
          omega
      · rw [if_neg hnext, if_neg hnext]
        exact follows_within F { s with cursor := s.lineGapEnd }

/-! ### Lines before the first token -/

/-- The gaps are the same however many lines may be read. -/
private theorem skipGaps_congr (hn : s.cursor.rest.length < n) (hm : s.cursor.rest.length < m) :
    skipGaps n s = skipGaps m s := by
  induction n generalizing m s with
  | zero => omega
  | succ n ih =>
    obtain ⟨m, rfl⟩ : ∃ k, m = k + 1 := Nat.exists_eq_add_one.mpr (by omega)
    rw [skipGaps_succ, skipGaps_succ]
    by_cases hnext : s.lineGapEnd.atBreak = true
    · have hne : s.lineGapEnd.rest ≠ [] := fun hnil ↦ atBreak_of_nil hnil hnext
      obtain ⟨d, rest, hrest⟩ := List.exists_cons_of_ne_nil hne
      have hless := length_readBreak_lt hrest (by simpa [atBreak, hrest] using hnext)
      have hle := (leads_lineGapEnd s).suffix.length_le
      rw [if_pos hnext, if_pos hnext]
      apply ih
      · change s.lineGapEnd.readBreak.2.rest.length < n
        omega
      · change s.lineGapEnd.readBreak.2.rest.length < m
        omega
    · rw [if_neg hnext, if_neg hnext]

/-- Behind a line end a text goes on in the first column. -/
private theorem readBreak_append {c : Cursor} {d : Char} {lead cs : List Char}
    (hrest : c.rest = d :: lead ++ cs) (hd : isBreak d = true) (hcs : cs.head? ≠ some '\n') :
    ∃ more, c.readBreak.2.rest = more ++ cs ∧ more <:+ lead ∧ c.readBreak.2.column = 0 := by
  unfold readBreak
  split
  · next rest hpair =>
    rw [hrest, List.cons_append, List.cons.injEq] at hpair
    obtain ⟨-, hpair⟩ := hpair
    cases lead with
    | nil =>
      rw [List.nil_append] at hpair
      simp [hpair] at hcs
    | cons e more =>
      rw [List.cons_append, List.cons.injEq] at hpair
      exact ⟨more, hpair.2.symm, List.suffix_cons e more, rfl⟩
  · next e rest _ hcons =>
    rw [hrest, List.cons_append, List.cons.injEq] at hcons
    obtain ⟨rfl, rfl⟩ := hcons
    rw [if_pos hd]
    exact ⟨lead, rfl, List.suffix_refl _, rfl⟩
  · next hnil =>
    rw [hrest] at hnil
    cases hnil

/-- Lines of spaces start with spaces up to the end of the first one. -/
private theorem exists_dropWhile_of_lead {lead : List Char} (hne : lead ≠ [])
    (hlead : ∀ d ∈ lead, d = ' ' ∨ isBreak d = true)
    (hlast : ∀ d ∈ lead.getLast?, isBreak d = true) :
    ∃ e more, lead.dropWhile (· == ' ') = e :: more ∧ isBreak e = true := by
  obtain ⟨e, more, hline⟩ : ∃ e more, lead.dropWhile (· == ' ') = e :: more := by
    refine List.exists_cons_of_ne_nil fun hall ↦ ?_
    rw [List.dropWhile_eq_nil_iff] at hall
    have hspace := hall _ (List.getLast_mem hne)
    have hbreak := hlast _ (List.getLast?_eq_some_getLast hne)
    rw [beq_iff_eq.mp hspace] at hbreak
    cases hbreak
  refine ⟨e, more, hline, ?_⟩
  have hspace := List.head?_dropWhile_not (· == ' ') lead
  rw [hline, List.head?_cons] at hspace
  have hfirst := hlead e ((List.dropWhile_suffix _).subset (hline ▸ List.mem_cons_self))
  exact hfirst.resolve_left (beq_eq_false_iff_ne.mp hspace)

/-- Where a key may start, no tabs are skipped; spaces are, up to the end of their line. -/
private theorem rest_lineGapEnd_of_lead {lead cs more : List Char} {e : Char}
    (hallowed : s.keyAllowed = true) (hflow : s.inFlow = false) (hrest : s.cursor.rest = lead ++ cs)
    (hlead : ∀ d ∈ lead, d = ' ' ∨ isBreak d = true)
    (hline : lead.dropWhile (· == ' ') = e :: more) (hbreak : isBreak e = true) :
    s.lineGapEnd.rest = e :: more ++ cs := by
  have hmark : ¬(s.cursor.column == 0 && s.cursor.head? == some '\ufeff') = true := by
    have hne : lead ≠ [] := by
      rintro rfl
      cases hline
    obtain ⟨d, lead, rfl⟩ := List.exists_cons_of_ne_nil hne
    have hd : d ≠ '\ufeff' := by
      rintro rfl
      have hgap := hlead _ List.mem_cons_self
      revert hgap
      decide
    simp [head?, hrest, hd]
  have hblank : (fun d ↦ d == ' ' || ((s.inFlow || !s.keyAllowed) && d == '\t')) =
      fun d ↦ d == ' ' := by
    funext d
    simp [hflow, hallowed]
  have hblanks : (s.cursor.skipWhile fun d ↦ d == ' ').rest = e :: more ++ cs := by
    rw [rest_skipWhile, hrest, List.dropWhile_append, hline]
    rfl
  have hhash : e ≠ '#' := ne_of_isGap (isGap_of_isBreak hbreak) rfl
  rw [lineGapEnd, if_neg hmark, hblank, skipComment, if_neg, hblanks]
  rw [head?, hblanks]
  simpa using hhash

/-- Empty lines before a text only move it on. -/
theorem exists_skipGaps_lead {lead cs : List Char} (hallowed : s.keyAllowed = true)
    (hflow : s.inFlow = false) (hcolumn : s.cursor.column = 0) (hrest : s.cursor.rest = lead ++ cs)
    (hlead : ∀ d ∈ lead, d = ' ' ∨ isBreak d = true) (hlast : ∀ d ∈ lead.getLast?, isBreak d = true)
    (hcs : cs.head? ≠ some '\n') (hn : s.cursor.rest.length < n) :
    ∃ c : Cursor, c.rest = cs ∧ c.column = 0 ∧
      skipGaps n s = skipGaps (cs.length + 1) { s with cursor := c } := by
  induction n generalizing s lead with
  | zero => omega
  | succ n ih =>
    by_cases hnil : lead = []
    · subst hnil
      refine ⟨s.cursor, hrest, hcolumn, skipGaps_congr hn ?_⟩
      rw [hrest, List.nil_append]
      exact Nat.lt_succ_self _
    obtain ⟨e, more, hline, hbreak⟩ := exists_dropWhile_of_lead hnil hlead hlast
    have hend := rest_lineGapEnd_of_lead hallowed hflow hrest hlead hline hbreak
    obtain ⟨lines, hlines, hmore, hstart⟩ := readBreak_append hend hbreak hcs
    have hnext : s.lineGapEnd.atBreak = true := by
      simp [atBreak, hend, hbreak]
    have hsuffix : e :: more <:+ lead := hline ▸ List.dropWhile_suffix _
    have hshorter : lines <:+ lead := (hmore.trans (List.suffix_cons e more)).trans hsuffix
    have hstill : (s.keyAllowed || !s.inFlow) = s.keyAllowed := by rw [hallowed, Bool.true_or]
    rw [skipGaps_succ, if_pos hnext, hstill]
    refine ih (s := { s with cursor := s.lineGapEnd.readBreak.2 }) hallowed hflow hstart
      hlines (fun d hd ↦ hlead d (hshorter.subset hd))
      (fun d hd ↦ hlast d (mem_getLast?_of_suffix hshorter hd)) ?_
    change s.lineGapEnd.readBreak.2.rest.length < n
    have hless := length_readBreak_lt hend hbreak
    have hle := (leads_lineGapEnd s).suffix.length_le
    omega

end Blockflow.Yaml.Token.Scan
