import Blockflow.Yaml.Folded
import Mathlib.Data.List.Basic
import Mathlib.Data.List.TakeWhile

/-!
# A text within a longer one

Lines before a text and gaps behind it make no difference to what is read at a place of the text, as
long as the reader does not come to its end. Where it does, the longer text has only gaps left.
-/

namespace Blockflow.Text.Utf8

theorem size_append (cs ds : List Char) : size (cs ++ ds) = size cs + size ds := by
  have hfold (ds : List Char) : ∀ n, ds.foldl (fun n c ↦ n + c.utf8Size) n = n + size ds := by
    induction ds with
    | nil => exact fun _ ↦ rfl
    | cons d ds ih =>
      intro n
      rw [size, List.foldl_cons, List.foldl_cons, ih, ih]
      omega
  rw [size, List.foldl_append, hfold ds, ← size]

end Blockflow.Text.Utf8

namespace Blockflow.Yaml

/-- What stands around a text that starts on a line of its own. -/
structure Frame where
  /-- How many bytes stand before it. -/
  bytes : Nat
  /-- How many lines end before it. -/
  lines : Nat
  /-- What stands behind it. -/
  tail : List Char
  /-- Nothing but gaps stands behind it. -/
  isGap_of_mem : ∀ d ∈ tail, isGap d = true

/-- Whether a text does not end with a gap. -/
def IsSolid (cs : List Char) : Prop := ∀ d ∈ cs.getLast?, isGap d = false

/-- Where two choices depend on the same, their outcomes may be looked at in pairs. -/
theorem rel_ite {α β : Type} {R : α → β → Prop} {p : Prop} [Decidable p] {x x' : α} {y y' : β}
    (hyes : p → R x y) (hno : ¬p → R x' y') :
    R (if p then x else x') (if p then y else y') := by
  by_cases h : p
  · rw [if_pos h, if_pos h]
    exact hyes h
  · rw [if_neg h, if_neg h]
    exact hno h

variable {F : Frame} {cs ds : List Char} {d e : Char}

theorem ne_of_isGap (hd : isGap d = true) (he : isGap e = false) : d ≠ e := by
  rintro rfl
  rw [hd] at he
  cases he

/-- The characters that are gaps. -/
def gaps : List Char := [' ', '\t', '\n', '\r', '\u0085', '\u2028', '\u2029']

theorem mem_gaps_of_isGap (hd : isGap d = true) : d ∈ gaps := by
  have hnat : ∀ e ∈ gaps, d.toNat = e.toNat → d ∈ gaps := by
    intro e he heq
    rwa [Char.toNat_inj.mp heq]
  simp only [isGap, isBlank, isBreak, Bool.or_eq_true, beq_iff_eq] at hd
  rcases hd with (rfl | rfl) | (((rfl | rfl) | h) | h) | h
  · decide
  · decide
  · decide
  · decide
  · exact hnat '\u0085' (by decide) h
  · exact hnat '\u2028' (by decide) h
  · exact hnat '\u2029' (by decide) h

/-- What is not true of the seven gaps is true of no gap. -/
theorem eq_false_of_gaps {p : Char → Bool} (hp : gaps.all (fun d ↦ !p d) = true) :
    ∀ d, isGap d = true → p d = false := by
  intro d hd
  rw [List.all_eq_true] at hp
  simpa using hp d (mem_gaps_of_isGap hd)

theorem isGap_of_isBlank (h : isBlank d = true) : isGap d = true := by
  rw [isGap, h, Bool.true_or]

theorem isGap_of_isBreak (h : isBreak d = true) : isGap d = true := by
  rw [isGap, h, Bool.or_true]

/-! ### Texts that do not end with a gap -/

/-- What a text ends with, a longer text that ends with it ends with, too. -/
theorem mem_getLast?_of_suffix (hsuffix : ds <:+ cs) (hd : d ∈ ds.getLast?) : d ∈ cs.getLast? := by
  obtain ⟨before, rfl⟩ := hsuffix
  have hne : ds ≠ [] := by
    rintro rfl
    simp at hd
  rwa [List.getLast?_append_of_ne_nil _ hne]

theorem IsSolid.of_suffix (h : IsSolid cs) (hsuffix : ds <:+ cs) : IsSolid ds :=
  fun d hd ↦ h d (mem_getLast?_of_suffix hsuffix hd)

theorem IsSolid.of_cons (h : IsSolid (d :: cs)) : IsSolid cs := h.of_suffix (List.suffix_cons d cs)

/-- A gap is not the last character of such a text. -/
theorem IsSolid.ne_nil (h : IsSolid (d :: cs)) (hd : isGap d = true) : cs ≠ [] := by
  rintro rfl
  exact ne_of_isGap hd (h d rfl) rfl

/-- A run that ends within a text or right behind it does not depend on what comes then. -/
theorem takeWhile_append_of_stops {p : Char → Bool}
    (h : (∀ d ∈ cs, p d = true) → ∀ d ∈ ds.head?, p d = false) :
    (cs ++ ds).takeWhile p = cs.takeWhile p := by
  induction cs with
  | nil =>
    cases ds with
    | nil => rfl
    | cons d ds =>
      have hd : p d = false := h (by simp) d rfl
      simp [hd]
  | cons c cs ih =>
    rw [List.cons_append, List.takeWhile_cons, List.takeWhile_cons]
    split
    · next hc =>
      rw [ih]
      intro hcs
      exact h (List.forall_mem_cons.mpr ⟨hc, hcs⟩)
    · rfl

namespace Cursor

variable {c c' cF : Cursor} {p : Char → Bool} {n m : Nat}

/-! ### Places further on -/

/-- Whether a place comes behind another one in the same text, or is the same place. -/
structure Leads (c c' : Cursor) : Prop where
  /-- What follows there follows here. -/
  suffix : c'.rest <:+ c.rest
  /-- No fewer lines have ended. -/
  line : c.line ≤ c'.line
  /-- No fewer bytes stand before it. -/
  index : c.index ≤ c'.index

theorem Leads.refl (c : Cursor) : c.Leads c := ⟨List.suffix_refl _, le_rfl, le_rfl⟩

theorem Leads.trans {c₁ c₂ c₃ : Cursor} (h : c₁.Leads c₂) (h' : c₂.Leads c₃) : c₁.Leads c₃ :=
  ⟨h'.suffix.trans h.suffix, h.line.trans h'.line, h.index.trans h'.index⟩

theorem leads_skip (c : Cursor) (n : Nat) : c.Leads (c.skip n) :=
  ⟨List.drop_suffix n c.rest, le_rfl, Nat.le_add_right _ _⟩

theorem leads_skipWhile (c : Cursor) (p : Char → Bool) : c.Leads (c.skipWhile p) := leads_skip c _

theorem rest_skipWhile (c : Cursor) (p : Char → Bool) :
    (c.skipWhile p).rest = c.rest.dropWhile p := by
  have hsplit := List.takeWhile_append_dropWhile (p := p) (l := c.rest)
  calc (c.skipWhile p).rest
      = (c.rest.takeWhile p ++ c.rest.dropWhile p).drop (c.rest.takeWhile p).length := by
        rw [hsplit]
        rfl
    _ = c.rest.dropWhile p := List.drop_left

theorem leads_takeWhile (c : Cursor) (p : Char → Bool) : c.Leads (c.takeWhile p).2 := leads_skip c _

theorem leads_readBreak (c : Cursor) : c.Leads c.readBreak.2 := by
  unfold readBreak
  split
  · next rest hrest =>
    refine ⟨?_, Nat.le_succ _, Nat.le_add_right _ _⟩
    rw [hrest]
    exact List.suffix_append ['\r', '\n'] rest
  · next d rest _ hrest =>
    split
    · refine ⟨?_, Nat.le_succ _, Nat.le_add_right _ _⟩
      rw [hrest]
      exact List.suffix_cons d rest
    · exact .refl c
  · exact .refl c

/-! ### The end of a text -/

theorem skipWhile_of_nil (h : c.rest = []) : c.skipWhile p = c := by
  obtain ⟨rest, index, line, column⟩ := c
  obtain rfl : rest = [] := h
  rfl

theorem readBreak_of_nil (h : c.rest = []) : c.readBreak = ([], c) := by
  obtain ⟨rest, index, line, column⟩ := c
  obtain rfl : rest = [] := h
  rfl

/-! ### Places within the longer text -/

/-- The same place in the longer text. -/
def within (c : Cursor) (F : Frame) : Cursor :=
  ⟨c.rest ++ F.tail, c.index + F.bytes, c.line + F.lines, c.column⟩

/-- What is known of a place in the longer text when the reader of the shorter one is at a given
place: as long as that is not at the end, the two are the same. -/
structure Reaches (F : Frame) (c cF : Cursor) : Prop where
  /-- Before the end of the shorter text, the place is the same. -/
  inside : c.rest ≠ [] → cF = c.within F
  /-- At its end, only gaps follow. -/
  outside : c.rest = [] → ∀ d ∈ cF.rest, isGap d = true
  /-- No fewer lines have ended. -/
  line : (c.within F).line ≤ cF.line
  /-- No fewer bytes stand before the place. -/
  index : (c.within F).index ≤ cF.index

@[simp]
theorem rest_within : (c.within F).rest = c.rest ++ F.tail := rfl

@[simp]
theorem column_within : (c.within F).column = c.column := rfl

theorem reaches_within (F : Frame) (c : Cursor) : Reaches F c (c.within F) where
  inside _ := rfl
  outside h d hd := by
    rw [rest_within, h, List.nil_append] at hd
    exact F.isGap_of_mem d hd
  line := le_rfl
  index := le_rfl

/-- From the end of the shorter text on, the reader of the longer one comes only to gaps. -/
theorem Reaches.of_leads {cF' : Cursor} (h : Reaches F c cF) (hend : c.rest = [])
    (hleads : cF.Leads cF') : Reaches F c cF' where
  inside hne := absurd hend hne
  outside _ d hd := h.outside hend d (hleads.suffix.subset hd)
  line := h.line.trans hleads.line
  index := h.index.trans hleads.index

theorem skip_within (h : n ≤ c.rest.length) : (c.within F).skip n = (c.skip n).within F := by
  simp only [skip, within, List.drop_append_of_le_length h, List.take_append_of_le_length h]
  congr 1
  omega

theorem skip_add (c : Cursor) (n m : Nat) : c.skip (n + m) = (c.skip n).skip m := by
  simp only [skip, List.drop_drop, List.take_add, Text.Utf8.size_append]
  congr 1
  · omega
  · omega

/-- What is asked of the next character, if the answer for gaps is the one for the end. -/
theorem any_head?_within (hp : ∀ d, isGap d = true → p d = false) :
    (c.within F).rest.head?.any p = c.rest.head?.any p := by
  obtain ⟨rest, index, line, column⟩ := c
  cases rest with
  | cons d rest => rfl
  | nil =>
    cases htail : F.tail with
    | nil => simp [within, htail]
    | cons d tail =>
      have hd := F.isGap_of_mem d (by simp [htail])
      simp [within, htail, hp d hd]

theorem head?_within_eq_some_iff (hd : isGap d = false) :
    (c.within F).head? = some d ↔ c.head? = some d := by
  have hany := any_head?_within (F := F) (c := c) (p := (· == d))
    fun e he ↦ beq_eq_false_iff_ne.mpr (ne_of_isGap he hd)
  have hiff {o : Option Char} : o.any (· == d) = true ↔ o = some d := by cases o <;> simp
  rw [head?, head?, ← hiff, hany, hiff]

theorem beq_head?_within (hd : isGap d = false) :
    ((c.within F).head? == some d) = (c.head? == some d) := by
  rw [Bool.eq_iff_iff, beq_iff_eq, beq_iff_eq, head?_within_eq_some_iff hd]

/-- What is asked of the character after the next one, if the answer for gaps is the one for the
end. -/
theorem any_second?_within (hp : ∀ d, isGap d = true → p d = false) :
    (c.within F).second?.any p = c.second?.any p := by
  have htail : ∀ (n : Nat), (F.tail[n]?).any p = false := by
    intro n
    cases hd : F.tail[n]? with
    | none => rfl
    | some d => exact hp d (F.isGap_of_mem d (List.mem_of_getElem? hd))
  obtain ⟨rest, index, line, column⟩ := c
  match rest with
  | _ :: _ :: _ => rfl
  | [d] => exact htail 0
  | [] => exact htail 1

theorem beq_second?_within (hd : isGap d = false) :
    ((c.within F).second? == some d) = (c.second? == some d) := by
  have hany := any_second?_within (F := F) (c := c) (p := (· == d))
    fun e he ↦ beq_eq_false_iff_ne.mpr (ne_of_isGap he hd)
  have hsome {o : Option Char} : o.any (· == d) = (o == some d) := by cases o <;> simp
  rw [← hsome, hany, hsome]

/-- What is asked of the next character, if the answer for gaps is the one for the end. -/
theorem all_head?_within (hp : ∀ d, isGap d = true → p d = true) :
    (c.within F).rest.head?.all p = c.rest.head?.all p := by
  obtain ⟨rest, index, line, column⟩ := c
  cases rest with
  | cons d rest => rfl
  | nil =>
    cases htail : F.tail with
    | nil => simp [within, htail]
    | cons d tail =>
      have hd := F.isGap_of_mem d (by simp [htail])
      simp [within, htail, hp d hd]

theorem atGap_within : (c.within F).atGap = c.atGap := all_head?_within fun _ hd ↦ hd

theorem gapAfterNext_within : (c.within F).gapAfterNext = c.gapAfterNext := by
  obtain ⟨rest, index, line, column⟩ := c
  match rest with
  | _ :: _ :: _ => rfl
  | [d] => exact atGap_within (c := ⟨[], 0, 0, 0⟩)
  | [] =>
    match htail : F.tail with
    | [] => simp [within, gapAfterNext, htail]
    | [_] => simp [within, gapAfterNext, htail]
    | _ :: d :: _ => simp [within, gapAfterNext, htail, F.isGap_of_mem d]

theorem atMark_within (hd : isGap d = false) : (c.within F).atMark d = c.atMark d := by
  have hne : ∀ e ∈ F.tail, (e == d) = false := fun e he ↦
    beq_eq_false_iff_ne.mpr (ne_of_isGap (F.isGap_of_mem e he) hd)
  have hfirst : ∀ e tail, F.tail = e :: tail → (e == d) = false := fun e tail h ↦
    hne e (by simp [h])
  obtain ⟨rest, index, line, column⟩ := c
  unfold atMark
  rw [column_within]
  congr 1
  match rest with
  | x :: y :: z :: rest =>
    have hgap := atGap_within (F := F) (c := ⟨rest, 0, 0, 0⟩)
    rw [atGap, atGap] at hgap
    exact congrArg (_ && ·) hgap
  | [x, y] =>
    cases htail : F.tail with
    | nil => simp [within, htail]
    | cons e tail => simp [within, htail, hfirst e tail htail]
  | [x] =>
    match htail : F.tail with
    | [] => simp [within, htail]
    | [e] => simp [within, htail]
    | e :: e' :: tail => simp [within, htail, hfirst e _ htail]
  | [] =>
    match htail : F.tail with
    | [] => simp [within, htail]
    | [e] => simp [within, htail]
    | [e, e'] => simp [within, htail]
    | e :: e' :: e'' :: tail => simp [within, htail, hfirst e _ htail]

theorem atDocumentMark_within : (c.within F).atDocumentMark = c.atDocumentMark := by
  rw [atDocumentMark, atDocumentMark, atMark_within rfl, atMark_within rfl]

/-- A run that ends within the shorter text or right behind it is the same in the longer one. -/
theorem takeWhile_within
    (h : (∀ d ∈ c.rest, p d = true) → ∀ d ∈ F.tail.head?, p d = false) :
    (c.within F).takeWhile p = ((c.takeWhile p).1, (c.takeWhile p).2.within F) := by
  have htaken : (c.within F).rest.takeWhile p = c.rest.takeWhile p := takeWhile_append_of_stops h
  rw [takeWhile, htaken, skip_within (List.takeWhile_prefix p).length_le, takeWhile]

/-- A run without gaps is the same in the longer text. -/
theorem takeWhile_within_of_gap (hp : ∀ d, isGap d = true → p d = false) :
    (c.within F).takeWhile p = ((c.takeWhile p).1, (c.takeWhile p).2.within F) :=
  takeWhile_within fun _ d hd ↦ hp d (F.isGap_of_mem d (List.mem_of_mem_head? hd))

/-- Whatever is skipped, the reader of the longer text comes to the same place, or both have come
to the end of the shorter one. -/
theorem Reaches.skipWhile (h : Reaches F c cF) (p : Char → Bool) :
    Reaches F (c.skipWhile p) (cF.skipWhile p) := by
  by_cases hend : c.rest = []
  · rw [skipWhile_of_nil hend]
    exact h.of_leads hend (leads_skipWhile cF p)
  rw [h.inside hend]
  by_cases hall : ∀ d ∈ c.rest, p d = true
  · have htaken : c.rest.takeWhile p = c.rest := List.takeWhile_eq_self_iff.mpr hall
    have htakenF : (c.within F).rest.takeWhile p = c.rest ++ F.tail.takeWhile p :=
      List.takeWhile_append_of_pos hall
    have hover : (c.skip c.rest.length).rest = [] := List.drop_length
    rw [Cursor.skipWhile, takeWhile, htaken, Cursor.skipWhile, takeWhile, htakenF,
      List.length_append, skip_add, skip_within le_rfl]
    exact (reaches_within F _).of_leads hover (leads_skip _ _)
  · rw [Cursor.skipWhile, Cursor.skipWhile, takeWhile_within fun htrue ↦ absurd htrue hall]
    exact reaches_within F _

/-- The place behind a comment that comes next, if one does. -/
def skipComment (c : Cursor) : Cursor :=
  if c.head? == some '#' then c.skipWhile fun d ↦ !isBreak d else c

theorem skipComment_of_nil (h : c.rest = []) : c.skipComment = c := by
  rw [skipComment, head?, h, if_neg (by decide)]

theorem leads_skipComment (c : Cursor) : c.Leads c.skipComment := by
  unfold skipComment
  split
  · exact leads_skipWhile c _
  · exact .refl c

/-- No comment starts behind the shorter text. -/
theorem Reaches.skipComment (h : Reaches F c cF) : Reaches F c.skipComment cF.skipComment := by
  have hhead : (cF.head? == some '#') = (c.head? == some '#') := by
    by_cases hend : c.rest = []
    · have hF : cF.head? ≠ some '#' := by
        intro hhash
        exact ne_of_isGap (h.outside hend '#' (List.mem_of_mem_head? hhash)) rfl rfl
      rw [beq_eq_false_iff_ne.mpr hF, head?, hend]
      rfl
    · rw [h.inside hend, beq_head?_within rfl]
  rw [Cursor.skipComment, Cursor.skipComment, hhead]
  split
  · exact h.skipWhile _
  · exact h

private theorem readBreak_of_cons {rest : List Char} (hrest : c.rest = d :: rest)
    (hpair : ∀ more, c.rest ≠ '\r' :: '\n' :: more) :
    c.readBreak = if isBreak d then
      ([if d.toNat == 0x2028 || d.toNat == 0x2029 then d else '\n'],
        ⟨rest, c.index + d.utf8Size, c.line + 1, 0⟩)
      else ([], c) := by
  unfold readBreak
  split
  · next more hmore => exact absurd hmore (hpair more)
  · next heq =>
    rw [hrest, List.cons.injEq] at heq
    obtain ⟨rfl, rfl⟩ := heq
    rfl
  · next hnil =>
    rw [hrest] at hnil
    cases hnil

/-- A line ends the same way in the longer text. -/
theorem readBreak_within (hs : IsSolid c.rest) (hne : c.rest ≠ []) :
    (c.within F).readBreak = (c.readBreak.1, c.readBreak.2.within F) := by
  obtain ⟨rest, index, line, column⟩ := c
  obtain ⟨d, rest, rfl⟩ := List.exists_cons_of_ne_nil hne
  by_cases hpair : ∃ more, d :: rest = '\r' :: '\n' :: more
  · obtain ⟨more, heq⟩ := hpair
    obtain ⟨rfl, rfl⟩ := List.cons.inj heq
    simp [within, readBreak, Nat.add_right_comm]
  · -- a return at the very end would be a gap, so the pair does not come about behind the text
    have hpairF : ∀ more, d :: rest ++ F.tail ≠ '\r' :: '\n' :: more := by
      intro more heq
      cases rest with
      | nil =>
        obtain ⟨rfl, -⟩ := List.cons.inj heq
        exact absurd rfl (hs.ne_nil rfl)
      | cons e rest =>
        simp only [List.cons_append, List.cons.injEq] at heq
        obtain ⟨rfl, rfl, -⟩ := heq
        exact hpair ⟨rest, rfl⟩
    rw [readBreak_of_cons rfl hpairF, readBreak_of_cons rfl (not_exists.mp hpair)]
    split
    · simp [within, Nat.add_right_comm]
    · rfl

theorem Reaches.readBreak (h : Reaches F c cF) (hs : IsSolid c.rest) :
    Reaches F c.readBreak.2 cF.readBreak.2 := by
  by_cases hend : c.rest = []
  · rw [readBreak_of_nil hend]
    exact h.of_leads hend (leads_readBreak cF)
  · rw [h.inside hend, readBreak_within hs hend]
    exact reaches_within F _

/-- Where a line of the longer text ends, one of the shorter text does. -/
theorem Reaches.atLineEnd (h : Reaches F c cF) (hF : cF.atLineEnd = true) : c.atLineEnd = true := by
  by_cases hend : c.rest = []
  · rw [Cursor.atLineEnd, hend]
    rfl
  · rwa [h.inside hend, Cursor.atLineEnd, rest_within, List.head?_append_of_ne_nil _ hend] at hF

end Cursor

end Blockflow.Yaml
