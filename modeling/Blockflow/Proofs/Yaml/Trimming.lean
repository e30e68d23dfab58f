import Blockflow.Proofs.Yaml.Gaps
import Blockflow.Text.Blank
import Blockflow.Yaml.Reader

/-!
# YAML without the blanks at its ends

Empty lines before a YAML text and gaps behind it do not change what it stands for, unless it may
end with a block scalar, to which the line ends behind it belong.
-/

namespace Blockflow.Yaml

open Cursor

namespace Token.Scan

variable {F : Frame} {s s₁ sF sF₁ r rF : Scan} {n m : Nat}

/-! ### The end of the longer text -/

private theorem ends_ends {column : Int} (hcolumn : -1 ≤ column) (outer : List Int) (indent : Int)
    (tokens : List Token) :
    unroll.ends (-1) (unroll.ends column outer indent tokens).2.1
        (unroll.ends column outer indent tokens).1 (unroll.ends column outer indent tokens).2.2 =
      unroll.ends (-1) outer indent tokens := by
  induction outer generalizing indent tokens with
  | nil => rfl
  | cons next outer ih =>
    by_cases hindent : indent > column
    · rw [unroll.ends, if_pos hindent, ih, unroll.ends, if_pos (by omega)]
    · rw [unroll.ends, if_neg hindent]

private theorem unroll_of_inFlow {column : Int} (h : s.inFlow = true) : s.unroll column = s := by
  rw [unroll, if_pos h]

private theorem unroll_of_block (column : Int) (h : ¬s.inFlow = true) : s.unroll column = { s with
    indent := (unroll.ends column s.outer s.indent s.tokens).1
    outer := (unroll.ends column s.outer s.indent s.tokens).2.1
    tokens := (unroll.ends column s.outer s.indent s.tokens).2.2 } := by
  rw [unroll, if_neg h]

private theorem keys_unroll {column : Int} : (s.unroll column).keys = s.keys := by
  by_cases h : s.inFlow = true
  · rw [unroll_of_inFlow h]
  · rw [unroll_of_block column h]

/-- Blocks that end anyway may as well end before the end of the text. -/
private theorem unroll_unroll {column : Int} (hcolumn : -1 ≤ column) :
    (s.unroll column).unroll (-1) = s.unroll (-1) := by
  by_cases h : s.inFlow = true
  · rw [unroll_of_inFlow h]
  · have hunrolled : ¬(s.unroll column).inFlow = true := by
      rwa [inFlow, keys_unroll]
    rw [unroll_of_block (-1) hunrolled, unroll_of_block (-1) h, unroll_of_block column h]
    dsimp only
    rw [ends_ends hcolumn]

private theorem finish?_unroll {column : Int} (hcolumn : -1 ≤ column) :
    (s.unroll column).finish? = s.finish? := by
  rw [finish?, unroll_unroll hcolumn, finish?]

private theorem isSome_dropKey?_iff : s.dropKey?.isSome ↔
    ∀ k, s.keys.head? = some (some k) → k.required = false := by
  obtain ⟨cursor, indent, outer, keyAllowed, keys, tokens⟩ := s
  match keys with
  | [] => simp [dropKey?]
  | none :: keys => simp [dropKey?]
  | some k :: keys => cases hk : k.required <;> simp [dropKey?, hk]

private theorem tokens_of_dropKey? (h : s.dropKey? = some r) : r.tokens = s.tokens := by
  rw [dropKey?] at h
  split at h
  · split at h
    · cases h
    · rw [← Option.some.inj h]
  · rw [← Option.some.inj h]

/-- Where the text ends, no key may be required. -/
private theorem isSome_finish?_iff : s.finish?.isSome ↔
    ∀ k, s.keys.head? = some (some k) → k.required = false := by
  rw [finish?, Option.isSome_map, isSome_dropKey?_iff, keys_unroll]

private theorem tokens_of_finish? (h : s.finish? = some r) :
    r.tokens = .streamEnd :: (s.unroll (-1)).tokens := by
  obtain ⟨s₁, hdrop, rfl⟩ := Option.map_eq_some_iff.mp h
  rw [← tokens_of_dropKey? hdrop]
  rfl

private theorem tokens_unroll_congr {column : Int} (houter : sF.outer = s.outer)
    (hindent : sF.indent = s.indent) (hflow : sF.inFlow = s.inFlow)
    (htokens : sF.tokens = s.tokens) : (sF.unroll column).tokens = (s.unroll column).tokens := by
  by_cases h : s.inFlow = true
  · rw [unroll_of_inFlow h, unroll_of_inFlow (hflow.trans h), htokens]
  · rw [unroll_of_block column h, unroll_of_block column (by rwa [hflow]), houter, hindent, htokens]

private theorem dropStale?_eq_some_iff : s.dropStale? = some s₁ ↔
    (∀ k, some k ∈ s.keys → s.isStale k = true → k.required = false) ∧
      s₁ = { s with keys := s.keys.map fun k ↦ k.filter fun k ↦ !s.isStale k } := by
  have hany : (s.keys.any fun k ↦ k.any fun k ↦ s.isStale k && k.required) = true ↔
      ¬∀ k, some k ∈ s.keys → s.isStale k = true → k.required = false := by
    have hkey (o : Option KeyPlace) : (o.any fun k ↦ s.isStale k && k.required) = true ↔
        ∃ k, o = some k ∧ s.isStale k = true ∧ k.required = true := by
      cases o <;> simp
    simp only [List.any_eq_true, hkey]
    push Not
    simp only [Bool.not_eq_false]
    constructor
    · rintro ⟨o, ho, k, hk, hstale, hreq⟩
      exact ⟨k, hk ▸ ho, hstale, hreq⟩
    · rintro ⟨k, hk, hstale, hreq⟩
      exact ⟨some k, hk, k, rfl, hstale, hreq⟩
  rw [dropStale?]
  split
  · next h =>
    refine iff_of_false (by simp) fun hs ↦ ?_
    exact hany.mp h hs.1
  · next h =>
    rw [hany, not_not] at h
    rw [Option.some.injEq, and_iff_right h, eq_comm]

private theorem cursor_dropStale? (h : s.dropStale? = some s₁) : s₁.cursor = s.cursor := by
  rw [(dropStale?_eq_some_iff.mp h).2]

/-- A key that has become stale is stale further on in the longer text. -/
private theorem Follows.isStale {k : KeyPlace} (h : Follows F s sF) (hk : s.isStale k = true) :
    sF.isStale (k.within F) = true := by
  have hline : s.cursor.line + F.lines ≤ sF.cursor.line := h.cursor.line
  have hindex : s.cursor.index + F.bytes ≤ sF.cursor.index := h.cursor.index
  simp only [Scan.isStale, Bool.or_eq_true, decide_eq_true_eq] at hk
  apply Bool.or_eq_true_iff.mpr
  rcases hk with hk | hk
  · left
    change decide (k.place.line + F.lines < sF.cursor.line) = true
    exact decide_eq_true (by omega)
  · right
    change decide (k.place.index + F.bytes + 1024 < sF.cursor.index) = true
    exact decide_eq_true (by omega)

/-- Where both texts have come to the end, the longer one adds no token, and no key is required in
the shorter one that is not in the longer one. -/
private theorem exists_finish? (h : Follows F s sF) (hstale : sF.dropStale? = some sF₁)
    (hfinish : sF₁.finish? = some rF) :
    ∃ s₁ r, s.dropStale? = some s₁ ∧ s₁.finish? = some r ∧ r.tokens = rF.tokens := by
  have hmem {k : KeyPlace} (hk : some k ∈ s.keys) : some (k.within F) ∈ sF.keys := by
    rw [h.keys]
    exact List.mem_map_of_mem hk
  obtain ⟨hnone, rfl⟩ := dropStale?_eq_some_iff.mp hstale
  obtain ⟨s₁, hs₁⟩ : ∃ s₁, s₁ = { s with
    keys := s.keys.map fun o : Option KeyPlace ↦ o.filter fun k ↦ !s.isStale k } := ⟨_, rfl⟩
  have hdrop : s.dropStale? = some s₁ :=
    dropStale?_eq_some_iff.mpr
      ⟨fun k hk hstale ↦ hnone (k.within F) (hmem hk) (h.isStale hstale), hs₁⟩
  have hsome : s₁.finish?.isSome := by
    refine isSome_finish?_iff.mpr fun k hk ↦ ?_
    have hhead : s.keys.head? = some (some k) := by
      rw [hs₁, List.head?_map, Option.map_eq_some_iff] at hk
      obtain ⟨o, ho, hfilter⟩ := hk
      rw [ho, (Option.filter_eq_some_iff.mp hfilter).1]
    by_cases hkstale : sF.isStale (k.within F) = true
    · exact hnone (k.within F) (hmem (List.mem_of_mem_head? hhead)) hkstale
    · refine isSome_finish?_iff.mp (by rw [hfinish]; rfl) (k.within F) ?_
      rw [List.head?_map, h.keys, List.head?_map, hhead]
      simp [hkstale]
  obtain ⟨r, hr⟩ := Option.isSome_iff_exists.mp hsome
  refine ⟨s₁, r, hdrop, hr, ?_⟩
  rw [tokens_of_finish? hr, tokens_of_finish? hfinish]
  congr 1
  refine (tokens_unroll_congr ?_ ?_ ?_ ?_).symm
  · rw [hs₁]
    exact h.outer
  · rw [hs₁]
    exact h.indent
  · simp [inFlow, hs₁, h.keys]
  · rw [hs₁]
    exact h.tokens

/-! ### Every token -/

/-- Nothing but a gap may stand where no token starts. -/
private theorem next?_of_isGap {d : Char} (hgap : isGap d = true)
    (hhead : s.cursor.head? = some d) : s.next? d = none := by
  have hne {e : Char} (he : isGap e = false) : (d == e) = false :=
    beq_eq_false_iff_ne.mpr (ne_of_isGap hgap he)
  have hmark {e : Char} (he : isGap e = false) : s.cursor.atMark e = false := by
    obtain ⟨rest, hrest⟩ := List.head?_eq_some_iff.mp hhead
    rw [atMark, hrest]
    split
    · next hthree =>
      rw [(List.cons.inj hthree).1] at hne
      simp [hne he]
    · simp
  have hplain : s.startsPlain d = false := by
    rw [← Bool.not_eq_true]
    intro hstart
    have hword := (of_startsPlain hstart).1
    rw [hgap] at hword
    cases hword
  simp only [next?, hne (e := '%') rfl, hne (e := '[') rfl, hne (e := '{') rfl, hne (e := ']') rfl,
    hne (e := '}') rfl, hne (e := ',') rfl, hne (e := '-') rfl, hne (e := '?') rfl,
    hne (e := ':') rfl, hne (e := '*') rfl, hne (e := '&') rfl, hne (e := '!') rfl,
    hne (e := '|') rfl, hne (e := '>') rfl, hne (e := '\'') rfl, hne (e := '"') rfl,
    hmark (e := '-') rfl, hmark (e := '.') rfl, hplain, Bool.and_false, Bool.false_and,
    Bool.or_false, Bool.false_eq_true, if_false]

/-- What is left to do once the gaps before a token are skipped. -/
private def goOn? (n : Nat) (s : Scan) : Option Scan :=
  match s.dropStale? with
  | none => none
  | some s =>
    let s := s.unroll s.cursor.column
    match s.cursor.head? with
    | none => s.finish?
    | some d =>
      match s.next? d with
      | some s => run? n s
      | none => none

private theorem run?_succ (n : Nat) (s : Scan) :
    s.run? (n + 1) = goOn? n (skipGaps (s.cursor.rest.length + 1) s) := rfl

/-- At the end of the shorter text, the longer one has no token left. -/
private theorem exists_goOn?_of_nil (h : Follows F s sF) (hend : s.cursor.rest = [])
    (hrun : goOn? n sF = some rF) : ∃ r, goOn? m s = some r ∧ r.tokens = rF.tokens := by
  rw [goOn?] at hrun
  cases hstaleF : sF.dropStale? with
  | none => simp [hstaleF] at hrun
  | some s₁F =>
    rw [hstaleF] at hrun
    dsimp only at hrun
    have hfinishF : s₁F.finish? = some rF := by
      split at hrun
      · rwa [finish?_unroll (by omega)] at hrun
      · next d hd =>
        have hgap : isGap d = true := by
          rw [cursor_unroll, cursor_dropStale? hstaleF] at hd
          exact h.cursor.outside hend d (List.mem_of_mem_head? hd)
        rw [next?_of_isGap hgap hd] at hrun
        cases hrun
    obtain ⟨s₁, r, hstale, hfinish, htokens⟩ := exists_finish? h hstaleF hfinishF
    have hhead : (s₁.unroll s₁.cursor.column).cursor.head? = none := by
      rw [cursor_unroll, cursor_dropStale? hstale, head?, hend]
      rfl
    refine ⟨r, ?_, htokens⟩
    rw [goOn?, hstale]
    dsimp only
    rw [hhead, finish?_unroll (by omega)]
    exact hfinish

/-- Before the end of the shorter text, the next token is the same in both. -/
private theorem exists_goOn?_of_cons {d : Char} {rest : List Char}
    (hrest : s.cursor.rest = d :: rest) (hs : IsSolid s.cursor.rest)
    (hcalm : IsCalm s.cursor.rest) (hrun : goOn? n (s.within F) = some rF) :
    ∃ s₁ s₁F, Follows F s₁ s₁F ∧ s₁.cursor.rest <:+ rest ∧ s₁F.run? n = some rF ∧
      goOn? m s = s₁.run? m := by
  rw [goOn?, dropStale?_within] at hrun
  rw [goOn?]
  cases hstale : s.dropStale? with
  | none => simp [hstale] at hrun
  | some s₁ =>
    obtain ⟨s₂, hs₂⟩ : ∃ s₂, s₂ = s₁.unroll s₁.cursor.column := ⟨_, rfl⟩
    have hplace : s₂.cursor = s.cursor := by
      rw [hs₂, cursor_unroll, cursor_dropStale? hstale]
    rw [← hplace] at hrest hs hcalm
    rw [hstale, Option.map_some] at hrun
    dsimp only at hrun ⊢
    rw [cursor_within, column_within, unroll_within, ← hs₂, cursor_within,
      head?_within_of_rest hrest] at hrun
    rw [← hs₂, head?_of_rest hrest]
    cases hnext : (s₂.within F).next? d with
    | none => simp [hnext] at hrun
    | some s₃F =>
      obtain ⟨s₃, hs₃, hfollows, hsuffix⟩ := agrees_next? hrest hs hcalm _ hnext
      refine ⟨s₃, s₃F, hfollows, hsuffix, ?_, ?_⟩
      · simpa [hnext] using hrun
      · simp [hs₃]

/-- The scanner makes the same tokens of the shorter text as of the longer one. -/
theorem exists_run? (hs : IsSolid s.cursor.rest) (hcalm : IsCalm s.cursor.rest)
    (h : Follows F s sF) (hm : s.cursor.rest.length < m) (hrun : sF.run? n = some rF) :
    ∃ r, s.run? m = some r ∧ r.tokens = rF.tokens := by
  induction n generalizing m s sF with
  | zero => cases hrun
  | succ n ih =>
    obtain ⟨m, rfl⟩ : ∃ k, m = k + 1 := Nat.exists_eq_add_one.mpr (by omega)
    have hgaps := h.skipGaps hs (Nat.lt_succ_self _) (Nat.lt_succ_self _)
    have hsuffix := (leads_skipGaps (s.cursor.rest.length + 1) s).suffix
    rw [run?_succ] at hrun ⊢
    generalize skipGaps (sF.cursor.rest.length + 1) sF = s₁F at hgaps hrun
    generalize skipGaps (s.cursor.rest.length + 1) s = s₁ at hsuffix hgaps ⊢
    by_cases hend : s₁.cursor.rest = []
    · exact exists_goOn?_of_nil hgaps hend hrun
    · obtain ⟨d, rest, hrest⟩ := List.exists_cons_of_ne_nil hend
      obtain rfl := hgaps.eq_within hend
      obtain ⟨s₂, s₂F, hfollows, hsuffix₂, hrunF, hsame⟩ := exists_goOn?_of_cons (m := m) hrest
        (hs.of_suffix hsuffix) (hcalm.of_suffix hsuffix) hrun
      have hrest₂ := (hsuffix₂.trans (hrest ▸ List.suffix_cons d rest)).trans hsuffix
      have hless : s₂.cursor.rest.length < s₁.cursor.rest.length := by
        rw [hrest]
        exact Nat.lt_succ_of_le hsuffix₂.length_le
      have hle := hsuffix.length_le
      rw [hsame]
      exact ih (hs.of_suffix hrest₂) (hcalm.of_suffix hrest₂) hfollows (by omega) hrunF

private theorem run?_congr (h : skipGaps (s.cursor.rest.length + 1) s =
    skipGaps (sF.cursor.rest.length + 1) sF) : s.run? n = sF.run? n := by
  cases n with
  | zero => rfl
  | succ n => rw [run?_succ, run?_succ, h]

end Token.Scan

/-! ### The whole text -/

open Token

variable {s : String}

/-- The blanks that a text starts with. -/
def blanksBefore (s : String) : List Char := s.toList.takeWhile Text.isBlank

/-- The blanks that a text ends with. -/
def blanksBehind (s : String) : List Char := (s.toList.reverse.takeWhile Text.isBlank).reverse

/-- Whether a YAML text is known to stand for the same without the blanks at its ends: before it
are empty lines, behind it are gaps, and no block scalar can start in it, to which these would
belong. -/
structure TrimsCleanly (s : String) : Prop where
  /-- Before the text are spaces and line ends. -/
  before : ∀ d ∈ blanksBefore s, d = ' ' ∨ isBreak d = true
  /-- The text starts on a line of its own. -/
  starts : ∀ d ∈ (blanksBefore s).getLast?, isBreak d = true
  /-- Behind the text are gaps. -/
  behind : ∀ d ∈ blanksBehind s, isGap d = true
  /-- No block scalar starts in the text. -/
  calm : IsCalm (Text.trimBoth s.toList)

instance (s : String) : Decidable (TrimsCleanly s) :=
  decidable_of_iff ((blanksBefore s).all (fun d ↦ d == ' ' || isBreak d) = true ∧
    (blanksBefore s).getLast?.all isBreak = true ∧ (blanksBehind s).all isGap = true ∧
    IsCalm (Text.trimBoth s.toList)) <| by
  have hlast : (blanksBefore s).getLast?.all isBreak = true ↔
      ∀ d ∈ (blanksBefore s).getLast?, isBreak d = true := by
    cases (blanksBefore s).getLast? <;> simp
  rw [hlast]
  simp only [List.all_eq_true, Bool.or_eq_true, beq_iff_eq]
  exact ⟨fun ⟨hbefore, hstarts, hbehind, hcalm⟩ ↦ ⟨hbefore, hstarts, hbehind, hcalm⟩,
    fun h ↦ ⟨h.before, h.starts, h.behind, h.calm⟩⟩

/-- A text is the blanks before it and what is left of it without these. -/
private theorem toList_eq (s : String) : s.toList = blanksBefore s ++ Text.trimLeft s.toList :=
  List.takeWhile_append_dropWhile.symm

/-- Behind the front of a text that is not blank, blanks follow what is left of it at the end. -/
private theorem trimLeft_eq (h : Text.allBlank s = false) :
    Text.trimLeft s.toList = Text.trimBoth s.toList ++ blanksBehind s := by
  have hbehind : blanksBehind s =
      ((Text.trimLeft s.toList).reverse.takeWhile Text.isBlank).reverse := by
    have hstops : ¬∀ d ∈ (Text.trimLeft s.toList).reverse, Text.isBlank d = true := by
      intro hall
      have hnil : Text.trimBoth s.toList = [] := by
        rw [Text.trimBoth, Text.trimRight, List.dropWhile_eq_nil_iff.mpr hall]
        rfl
      rw [Text.trimBoth_eq_nil, ← List.all_eq_true] at hnil
      rw [Text.allBlank, hnil] at h
      cases h
    have hreverse : s.toList.reverse =
        (Text.trimLeft s.toList).reverse ++ (blanksBefore s).reverse := by
      rw [← List.reverse_append, ← toList_eq]
    rw [blanksBehind, hreverse, takeWhile_append_of_stops fun hall ↦ absurd hall hstops]
  rw [hbehind, Text.trimBoth, Text.trimRight, ← List.reverse_append,
    List.takeWhile_append_dropWhile, List.reverse_reverse]

private theorem isBlank_of_isGap {d : Char} (h : isGap d = true) : Text.isBlank d = true := by
  have hgaps := eq_false_of_gaps (p := fun d ↦ !Text.isBlank d) (by decide +kernel) d h
  simpa using hgaps

private theorem isSolid_trimBoth (cs : List Char) : IsSolid (Text.trimBoth cs) := by
  intro d hd
  rw [Text.trimBoth, Text.trimRight, List.getLast?_reverse] at hd
  have hblank := Text.head?_trimLeft_not_blank _ d hd
  rw [← Bool.not_eq_true]
  intro hgap
  rw [isBlank_of_isGap hgap] at hblank
  cases hblank

/-- The tokens of such a text are those of the text without the blanks at its ends. -/
theorem ofText?_trim {tokens : List Token} (hs : TrimsCleanly s) (hblank : Text.allBlank s = false)
    (h : ofText? s = some tokens) : ofText? (Text.trim s) = some tokens := by
  obtain ⟨body, hbody⟩ : ∃ body, body = Text.trimBoth s.toList := ⟨_, rfl⟩
  have hlist : s.toList = blanksBefore s ++ (body ++ blanksBehind s) := by
    rw [hbody, ← trimLeft_eq hblank]
    exact toList_eq s
  have hhead : (body ++ blanksBehind s).head? ≠ some '\n' := by
    intro hbreak
    rw [hbody, ← trimLeft_eq hblank] at hbreak
    exact absurd (Text.head?_trimLeft_not_blank _ _ hbreak) (by decide)
  simp only [ofText?] at h ⊢
  rw [Text.trim, String.toList_ofList, ← hbody]
  split at h
  · next hallowed =>
    obtain ⟨rF, hrun, rfl⟩ := Option.map_eq_some_iff.mp h
    obtain ⟨c, hrest, hcolumn, hgaps⟩ := Scan.exists_skipGaps_lead
      (s := .start s.toList) rfl rfl rfl hlist hs.before hs.starts hhead (Nat.lt_succ_self _)
    -- behind the empty lines the scanner is at the start of the trimmed text, within the whole one
    obtain ⟨F, hF⟩ : ∃ F : Frame, F = ⟨c.index, c.line, blanksBehind s, hs.behind⟩ := ⟨_, rfl⟩
    have hplace : { Scan.start s.toList with cursor := c } = (Scan.start body).within F := by
      obtain ⟨rest, index, line, column⟩ := c
      obtain rfl : rest = body ++ blanksBehind s := hrest
      obtain rfl : column = 0 := hcolumn
      simp [Scan.start, Scan.within, Cursor.within, Cursor.start, hF]
    rw [← hrest] at hgaps
    have hsame (n : Nat) : (Scan.start s.toList).run? n =
        ({ Scan.start s.toList with cursor := c } : Scan).run? n := Scan.run?_congr hgaps
    rw [hsame, hplace] at hrun
    obtain ⟨r, hr, htokens⟩ := Scan.exists_run? (hbody ▸ isSolid_trimBoth s.toList)
      (hbody ▸ hs.calm) (Scan.follows_within F (.start body)) (Nat.lt_succ_self _) hrun
    have hall : body.all isAllowed = true := by
      rw [List.all_eq_true] at hallowed ⊢
      intro d hd
      refine hallowed d ?_
      rw [hlist]
      exact List.mem_append_right _ (List.mem_append_left _ hd)
    have hrun' : (Scan.start body).run? (body.length + 1) = some r := hr
    rw [if_pos hall, hrun', Option.map_some, htokens]
  · cases h

/-- A YAML text in which no block scalar starts stands for the same without the empty lines before
it and the gaps behind it. -/
theorem read?_trim {v : Yaml} (hs : TrimsCleanly s) (hblank : Text.allBlank s = false)
    (h : read? s = some v) : read? (Text.trim s) = some v := by
  obtain ⟨tokens, htokens, hv⟩ := Option.bind_eq_some_iff.mp h
  rw [read?, ofText?_trim hs hblank htokens]
  exact hv

end Blockflow.Yaml
