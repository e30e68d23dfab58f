import Blockflow.Proofs.Yaml.Headers
import Blockflow.Proofs.Yaml.Quotes
import Blockflow.Proofs.Yaml.Tags

/-!
# Scanning a text within a longer one

The scanner makes the same tokens of a text and of a longer one with lines before it and gaps behind
it. Step by step its states are the same but for the bytes and lines before the text, until the
shorter text ends; from there on the longer one adds nothing.
-/

namespace Blockflow.Yaml.Token

open Cursor

/-- The same place of a key in a longer text. -/
def KeyPlace.within (k : KeyPlace) (F : Frame) : KeyPlace := { k with place := k.place.within F }

namespace Scan

variable {F : Frame} {s s' sF sF' : Scan} {t : Token} {d : Char} {rest : List Char} {n m : Nat}

/-- The same state in a longer text. -/
def within (s : Scan) (F : Frame) : Scan :=
  { s with
    cursor := s.cursor.within F
    keys := s.keys.map (Option.map fun k ↦ k.within F) }

@[simp]
theorem cursor_within : (s.within F).cursor = s.cursor.within F := rfl

@[simp]
theorem inFlow_within : (s.within F).inFlow = s.inFlow := by
  rw [inFlow, within, List.length_map, inFlow]

@[simp]
theorem indent_within : (s.within F).indent = s.indent := rfl

@[simp]
theorem keyAllowed_within : (s.within F).keyAllowed = s.keyAllowed := rfl

@[simp]
theorem tokens_within : (s.within F).tokens = s.tokens := rfl

theorem insertAt_within : (s.within F).insertAt n t = (s.insertAt n t).within F := rfl

theorem take_within (h : n ≤ s.cursor.rest.length) :
    (s.within F).take n t = (s.take n t).within F := by
  rw [take, cursor_within, skip_within h]
  rfl

theorem dropKey?_within : (s.within F).dropKey? = s.dropKey?.map (·.within F) := by
  obtain ⟨cursor, indent, outer, keyAllowed, keys, tokens⟩ := s
  match keys with
  | [] => rfl
  | none :: keys => rfl
  | some k :: keys =>
    cases hk : k.required <;> simp [dropKey?, within, KeyPlace.within, hk]

theorem saveKey?_within : (s.within F).saveKey? = s.saveKey?.map (·.within F) := by
  rw [saveKey?, saveKey?, keyAllowed_within]
  by_cases hkey : s.keyAllowed = true
  · rw [if_pos hkey, if_pos hkey, dropKey?_within]
    cases s.dropKey? with
    | none => rfl
    | some s₁ => simp [within, KeyPlace.within, inFlow]
  · rw [if_neg hkey, if_neg hkey]
    rfl

theorem unroll_within {column : Int} :
    (s.within F).unroll column = (s.unroll column).within F := by
  rw [unroll, unroll, inFlow_within]
  split <;> rfl

theorem roll_within {column : Nat} :
    (s.within F).roll column n t = (s.roll column n t).within F := by
  rw [roll, roll, inFlow_within, indent_within]
  split <;> rfl

theorem isStale_within (k : KeyPlace) : (s.within F).isStale (k.within F) = s.isStale k := by
  have hline : (k.place.line + F.lines < s.cursor.line + F.lines) =
      (k.place.line < s.cursor.line) := propext (Nat.add_lt_add_iff_right)
  have hindex : (k.place.index + F.bytes + 1024 < s.cursor.index + F.bytes) =
      (k.place.index + 1024 < s.cursor.index) := by
    apply propext
    omega
  simp only [isStale, within, KeyPlace.within, Cursor.within, hline, hindex]

theorem dropStale?_within : (s.within F).dropStale? = s.dropStale?.map (·.within F) := by
  have hany : (s.within F).keys.any (fun k ↦ k.any fun k ↦ (s.within F).isStale k && k.required) =
      s.keys.any fun k ↦ k.any fun k ↦ s.isStale k && k.required := by
    rw [within, List.any_map]
    congr 1
    funext k
    cases k with
    | none => rfl
    | some k => exact congrArg (· && k.required) (isStale_within k)
  have hmap : ((s.within F).keys.map fun k ↦ k.filter fun k ↦ !(s.within F).isStale k) =
      (s.keys.map fun k ↦ k.filter fun k ↦ !s.isStale k).map (Option.map fun k ↦ k.within F) := by
    rw [within, List.map_map, List.map_map]
    congr 1
    funext k
    cases k with
    | none => rfl
    | some k =>
      have hstale := isStale_within (F := F) (s := s) k
      rw [within] at hstale
      simp only [Function.comp_apply, Option.map_some, Option.filter_some, hstale]
      split <;> rfl
  rw [dropStale?, dropStale?, hany, hmap]
  split <;> rfl

/-! ### What stays the same -/

/-- What a state of the scanner in the longer text has to do with one in the shorter text. -/
structure Follows (F : Frame) (s sF : Scan) : Prop where
  /-- The places are the same, or both behind the shorter text. -/
  cursor : Reaches F s.cursor sF.cursor
  /-- The indentation is the same. -/
  indent : sF.indent = s.indent
  /-- So are the outer indentations. -/
  outer : sF.outer = s.outer
  /-- As long as the shorter text goes on, a key may start in both or in neither. -/
  keyAllowed : s.cursor.rest ≠ [] → sF.keyAllowed = s.keyAllowed
  /-- Keys may have started at the same places. -/
  keys : sF.keys = s.keys.map (Option.map fun k ↦ k.within F)
  /-- The tokens are the same. -/
  tokens : sF.tokens = s.tokens

theorem follows_within (F : Frame) (s : Scan) : Follows F s (s.within F) :=
  ⟨reaches_within F s.cursor, rfl, rfl, fun _ ↦ rfl, rfl, rfl⟩

theorem Follows.eq_within (h : Follows F s sF) (hne : s.cursor.rest ≠ []) : sF = s.within F := by
  obtain ⟨cursor, indent, outer, keyAllowed, keys, tokens⟩ := sF
  obtain ⟨hcursor, rfl, rfl, hallowed, rfl, rfl⟩ := h
  obtain rfl := hallowed hne
  obtain rfl := hcursor.inside hne
  rfl

/-- Whether what the scanner may make of the longer text it makes of the shorter one, too, where no
more than a given rest is left of that. -/
def Agrees (F : Frame) (rest : List Char) (o oF : Option Scan) : Prop :=
  ∀ sF, oF = some sF → ∃ s, o = some s ∧ Follows F s sF ∧ s.cursor.rest <:+ rest

/-- The same state in both texts is one of these. -/
theorem agrees_within (s : Scan) (h : s.cursor.rest <:+ rest) :
    Agrees F rest (some s) (some (s.within F)) := by
  intro sF hsF
  obtain rfl := Option.some.inj hsF
  exact ⟨s, rfl, follows_within F s, h⟩

/-- What is not made of the longer text need not be looked at. -/
theorem agrees_none {o oF : Option Scan} (h : oF = none) : Agrees F rest o oF := by
  intro sF hsF
  rw [h] at hsF
  cases hsF

/-- Whether a step is the same in the longer text and stays at its place. -/
structure Keeps (F : Frame) (s : Scan) (step : Scan → Option Scan) : Prop where
  /-- The step is the same. -/
  within : step (s.within F) = (step s).map (·.within F)
  /-- The place is the same afterwards. -/
  cursor : ∀ s', step s = some s' → s'.cursor = s.cursor

theorem Keeps.bind {f g : Scan → Option Scan} (hf : Keeps F s f)
    (hg : ∀ s', s'.cursor = s.cursor → Keeps F s' g) : Keeps F s fun s ↦ (f s).bind g where
  within := by
    rw [hf.within]
    cases hs : f s with
    | none => rfl
    | some s₁ => exact (hg s₁ (hf.cursor s₁ hs)).within
  cursor s' h := by
    obtain ⟨s₁, h₁, h₂⟩ := Option.bind_eq_some_iff.mp h
    rw [(hg s₁ (hf.cursor s₁ h₁)).cursor s' h₂, hf.cursor s₁ h₁]

theorem keeps_dropKey? : Keeps F s dropKey? where
  within := dropKey?_within
  cursor s' h := by
    rw [dropKey?] at h
    split at h
    · split at h
      · cases h
      · rw [← Option.some.inj h]
    · rw [← Option.some.inj h]

theorem keeps_saveKey? : Keeps F s saveKey? where
  within := saveKey?_within
  cursor s' h := by
    rw [saveKey?] at h
    dsimp only at h
    split at h
    · split at h
      · cases h
      · next s₁ hdrop =>
        rw [← Option.some.inj h]
        exact (keeps_dropKey? (F := F)).cursor s₁ hdrop
    · rw [← Option.some.inj h]

theorem cursor_roll {column : Nat} : (s.roll column n t).cursor = s.cursor := by
  rw [roll]
  split <;> rfl

theorem keeps_openBlock? : Keeps F s (·.openBlock? t) where
  within := by
    rw [openBlock?, openBlock?, inFlow_within, keyAllowed_within, cursor_within, column_within,
      tokens_within, roll_within]
    split
    · rfl
    split <;> rfl
  cursor s' h := by
    rw [openBlock?] at h
    split at h
    · rw [← Option.some.inj h]
    split at h
    · rw [← Option.some.inj h, cursor_roll]
    · cases h

theorem inFlow_of_saveKey? (h : s.saveKey? = some s') : s'.inFlow = s.inFlow := by
  obtain ⟨cursor, indent, outer, keyAllowed, keys, tokens⟩ := s
  rw [saveKey?] at h
  split at h
  · match keys with
    | [] =>
      obtain rfl := Option.some.inj h
      rfl
    | none :: keys =>
      obtain rfl := Option.some.inj h
      rfl
    | some k :: keys =>
      cases hk : k.required with
      | true => simp [dropKey?, hk] at h
      | false =>
        simp only [dropKey?, hk, Bool.false_eq_true, if_false, Option.some.injEq] at h
        obtain rfl := h
        rfl
  · rw [← Option.some.inj h]

/-- What is known of a character that a plain scalar may start with. -/
theorem of_startsPlain (h : s.startsPlain d = true) : isGap d = false ∧ d ≠ '#' ∧
    (d = ':' → s.cursor.gapAfterNext = false) ∧ (s.inFlow = true → isFlowMark d = false) := by
  simp only [startsPlain, Bool.or_eq_true, Bool.and_eq_true, Bool.not_eq_true', beq_iff_eq,
    Bool.or_eq_false_iff] at h
  rcases h with (⟨⟨hgap, hsign⟩, -⟩ | ⟨rfl, -⟩) | ⟨⟨hflow, rfl | rfl⟩, hnext⟩
  · have hne : ∀ e ∈ "-?:,[]\x7b\x7d#&*!|>'\"%@".toList, d ≠ e := by
      rintro e he rfl
      rw [List.contains_eq_mem, decide_eq_false_iff_not] at hsign
      exact hsign he
    refine ⟨hgap, hne '#' (by decide), fun hd ↦ absurd hd (hne ':' (by decide)), fun _ ↦ ?_⟩
    simp only [isFlowMark, Bool.or_eq_false_iff, beq_eq_false_iff_ne]
    exact ⟨⟨⟨⟨hne ',' (by decide), hne '[' (by decide)⟩, hne ']' (by decide)⟩,
      hne '{' (by decide)⟩, hne '}' (by decide)⟩
  · exact ⟨rfl, by decide, by simp, fun _ ↦ rfl⟩
  · exact ⟨rfl, by decide, by simp, by simp [hflow]⟩
  · exact ⟨rfl, by decide, fun _ ↦ hnext, by simp [hflow]⟩

theorem cursor_unroll {column : Int} : (s.unroll column).cursor = s.cursor := by
  rw [unroll]
  split <;> rfl

/-- The token of a sign is the same in the longer text. -/
theorem Keeps.agrees_take {f : Scan → Option Scan} {u : Scan → Scan} (hf : Keeps F s f)
    (hu : ∀ s, u (s.within F) = (u s).within F) (hcursor : ∀ s, (u s).cursor = s.cursor)
    (hrest : s.cursor.rest = d :: rest) (hn : n + 1 ≤ s.cursor.rest.length) :
    Agrees F rest ((f s).map fun s ↦ (u s).take (n + 1) t)
      ((f (s.within F)).map fun s ↦ (u s).take (n + 1) t) := by
  intro sF' h
  rw [hf.within, Option.map_map] at h
  obtain ⟨s₁, hs₁, rfl⟩ := Option.map_eq_some_iff.mp h
  have hplace : (u s₁).cursor = s.cursor := (hcursor s₁).trans (hf.cursor s₁ hs₁)
  refine ⟨(u s₁).take (n + 1) t, by rw [hs₁]; rfl, ?_, ?_⟩
  · rw [Function.comp_apply, hu, take_within (by rw [hplace]; exact hn)]
    exact follows_within F _
  · change ((u s₁).cursor.skip (n + 1)).rest <:+ rest
    rw [hplace, skip, hrest]
    exact List.drop_suffix n rest

/-! ### One token -/

private theorem blockEntry?_eq (s : Scan) : s.blockEntry? =
    ((s.openBlock? .blockSequenceStart).bind dropKey?).map
      fun s ↦ { s with keyAllowed := true }.take 1 .blockEntry := by
  rw [ blockEntry?]
  cases s.openBlock? .blockSequenceStart with
  | none => rfl
  | some s₁ => exact (Option.map_eq_bind ..).symm

private theorem explicitKey?_eq (s : Scan) : s.explicitKey? =
    ((s.openBlock? .blockMappingStart).bind dropKey?).map
      fun s ↦ { s with keyAllowed := !s.inFlow }.take 1 .key := by
  rw [explicitKey?]
  cases s.openBlock? .blockMappingStart with
  | none => rfl
  | some s₁ => exact (Option.map_eq_bind ..).symm

private theorem value?_of_no_key (h : ¬∃ k more, s.keys = some k :: more) :
    s.value? = (s.openBlock? .blockMappingStart).map fun s ↦
      { s with keyAllowed := !s.inFlow }.take 1 .value := by
  unfold value?
  split
  · next k more hkeys => exact absurd ⟨k, more, hkeys⟩ h
  · rfl

/-- A token that may start a key is the same in the longer text if what it reads is. -/
private theorem agrees_keyed? {read? : Cursor → Option (Token × Cursor)}
    (hread : ∀ t cF, read? (s.cursor.within F) = some (t, cF) →
      ∃ c', read? s.cursor = some (t, c') ∧ cF = c'.within F ∧ c'.rest <:+ rest) :
    Agrees F rest (s.keyed? read?) ((s.within F).keyed? read?) := by
  intro sF' h
  rw [keyed?, saveKey?_within] at h
  rw [keyed?]
  cases hsave : s.saveKey? with
  | none => simp [hsave] at h
  | some s₁ =>
    have hplace := (keeps_saveKey? (F := F)).cursor s₁ hsave
    simp only [hsave, Option.map_some, Option.bind_eq_bind, Option.bind_some, Option.pure_def,
      cursor_within, hplace] at h ⊢
    obtain ⟨⟨t, cF⟩, hreadF, h⟩ := Option.bind_eq_some_iff.mp h
    obtain ⟨c', hread', rfl, hsuffix⟩ := hread t cF hreadF
    obtain rfl := Option.some.inj h
    refine ⟨_, by rw [hread']; rfl, follows_within F _, hsuffix⟩

section Next

variable (hrest : s.cursor.rest = d :: rest)
include hrest

private theorem one_le : 0 + 1 ≤ s.cursor.rest.length := by
  rw [hrest, List.length_cons]
  omega

omit hrest in
private theorem three_le {mark : Char} (h : s.cursor.atMark mark = true) :
    3 ≤ s.cursor.rest.length := by
  rw [atMark, Bool.and_eq_true] at h
  have hchars := h.2
  split at hchars
  · next hthree =>
    rw [hthree]
    simp only [List.length_cons]
    omega
  · cases hchars

private theorem agrees_openFlow? :
    Agrees F rest (s.openFlow? t) ((s.within F).openFlow? t) :=
  keeps_saveKey?.agrees_take (u := fun s ↦ { s with keys := none :: s.keys, keyAllowed := true })
    (fun _ ↦ rfl) (fun _ ↦ rfl) hrest (one_le hrest)

private theorem agrees_closeFlow? :
    Agrees F rest (s.closeFlow? t) ((s.within F).closeFlow? t) := by
  refine keeps_dropKey?.agrees_take
    (u := fun s ↦ { s with
      keys := if s.inFlow then s.keys.drop 1 else s.keys
      keyAllowed := false })
    (fun s ↦ ?_) (fun _ ↦ rfl) hrest (one_le hrest)
  rw [inFlow_within]
  split
  · simp [within]
  · rfl

private theorem agrees_flowEntry : Agrees F rest
    (s.dropKey?.map fun s ↦ { s with keyAllowed := true }.take 1 .flowEntry)
    ((s.within F).dropKey?.map fun s ↦ { s with keyAllowed := true }.take 1 .flowEntry) :=
  keeps_dropKey?.agrees_take (u := fun s ↦ { s with keyAllowed := true })
    (fun _ ↦ rfl) (fun _ ↦ rfl) hrest (one_le hrest)

private theorem agrees_blockEntry? :
    Agrees F rest s.blockEntry? ( blockEntry? (s.within F)) := by
  rw [blockEntry?_eq, blockEntry?_eq]
  exact (keeps_openBlock?.bind fun _ _ ↦ keeps_dropKey?).agrees_take
    (u := fun s ↦ { s with keyAllowed := true }) (fun _ ↦ rfl) (fun _ ↦ rfl) hrest (one_le hrest)

private theorem agrees_explicitKey? :
    Agrees F rest s.explicitKey? (s.within F).explicitKey? := by
  rw [explicitKey?_eq, explicitKey?_eq]
  refine (keeps_openBlock?.bind fun _ _ ↦ keeps_dropKey?).agrees_take
    (u := fun s ↦ { s with keyAllowed := !s.inFlow }) (fun s ↦ ?_) (fun _ ↦ rfl) hrest
    (one_le hrest)
  rw [inFlow_within]
  rfl

private theorem agrees_value? : Agrees F rest s.value? (s.within F).value? := by
  by_cases hkey : ∃ k more, s.keys = some k :: more
  · obtain ⟨k, more, hkeys⟩ := hkey
    obtain ⟨s₁, hs₁⟩ : ∃ s₁, s₁ = { (s.insertAt k.number .key).roll k.place.column k.number
      .blockMappingStart with keys := none :: more, keyAllowed := false } := ⟨_, rfl⟩
    have hplace : s₁.cursor = s.cursor := by
      rw [hs₁]
      exact cursor_roll
    have hvalue : s.value? = some (s₁.take 1 .value) := by
      simp only [value?, hkeys, hs₁]
    have hvalueF : (s.within F).value? = some ((s₁.within F).take 1 .value) := by
      have hkeysF : (s.within F).keys =
          some (k.within F) :: more.map (Option.map fun k ↦ k.within F) := by
        rw [within, hkeys]
        rfl
      have hnumber : (k.within F).number = k.number := rfl
      have hcolumn : (k.within F).place.column = k.place.column := rfl
      simp only [value?, hkeysF, insertAt_within, roll_within, hnumber, hcolumn, hs₁]
      rfl
    have hlength : 1 ≤ s₁.cursor.rest.length := by
      rw [hplace]
      exact one_le hrest
    rw [hvalue, hvalueF, take_within hlength]
    refine agrees_within _ ?_
    change (s₁.cursor.skip 1).rest <:+ rest
    rw [hplace, rest_skip_one hrest]
  · -- without a key that has started, a value opens a mapping of its own
    have hvalue : s.value? = (s.openBlock? .blockMappingStart).map fun s ↦
        { s with keyAllowed := !s.inFlow }.take 1 .value := value?_of_no_key hkey
    have hvalueF : (s.within F).value? =
        ((s.within F).openBlock? .blockMappingStart).map fun s ↦
          { s with keyAllowed := !s.inFlow }.take 1 .value := by
      refine value?_of_no_key ?_
      rintro ⟨k, more, hkeysF⟩
      obtain ⟨o, keys, hkeys, ho, -⟩ := List.map_eq_cons_iff.mp hkeysF
      obtain ⟨k', rfl, -⟩ := Option.map_eq_some_iff.mp ho
      exact hkey ⟨k', keys, hkeys⟩
    rw [hvalue, hvalueF]
    refine keeps_openBlock?.agrees_take (u := fun s ↦ { s with keyAllowed := !s.inFlow })
      (fun s ↦ ?_) (fun _ ↦ rfl) hrest (one_le hrest)
    rw [inFlow_within]
    rfl

private theorem agrees_documentMark? (hlength : 3 ≤ s.cursor.rest.length) :
    Agrees F rest (s.documentMark? t) ((s.within F).documentMark? t) := by
  have hkeeps : Keeps F s fun s ↦ (s.unroll (-1)).dropKey? := by
    refine ⟨?_, fun s' h ↦ ?_⟩
    · rw [unroll_within, dropKey?_within]
    · rw [(keeps_dropKey? (F := F)).cursor s' h, cursor_unroll]
  exact hkeeps.agrees_take (u := fun s ↦ { s with keyAllowed := false })
    (fun _ ↦ rfl) (fun _ ↦ rfl) hrest hlength

private theorem agrees_quoted? (hs : IsSolid s.cursor.rest) (hd : isGap d = false) :
    Agrees F rest (s.quoted? d) ((s.within F).quoted? d) := by
  refine agrees_keyed? fun t cF hread ↦ ?_
  rw [skip_one_within hrest] at hread
  obtain ⟨⟨text, c₁F⟩, hquoted, heq⟩ := Option.map_eq_some_iff.mp hread
  obtain ⟨rfl, rfl⟩ := Prod.mk.inj heq
  have hlength : (s.cursor.skip 1).rest.length < s.cursor.rest.length := by
    rw [rest_skip_one hrest, hrest]
    exact Nat.lt_succ_self _
  obtain ⟨c', hc', rfl⟩ := exists_quotedFrom? (m := s.cursor.rest.length + 1) hd
    (hs.of_suffix (leads_skip _ 1).suffix)
    (by rw [rest_within, List.length_append]; omega) (by omega) hquoted
  have hsuffix := (leads_quotedFrom? hc').suffix
  rw [rest_skip_one hrest] at hsuffix
  exact ⟨c', by rw [hc']; rfl, rfl, hsuffix⟩

private theorem agrees_directive (hs : IsSolid s.cursor.rest) : Agrees F rest
    ((s.unroll (-1)).dropKey?.bind fun s₁ ↦ (directive? s.cursor).bind fun x ↦
      some ({ s₁ with keyAllowed := false, cursor := x.2 }.push x.1))
    (((s.within F).unroll (-1)).dropKey?.bind fun s₁ ↦
      (directive? (s.cursor.within F)).bind fun x ↦
        some ({ s₁ with keyAllowed := false, cursor := x.2 }.push x.1)) := by
  intro sF' h
  rw [unroll_within, dropKey?_within] at h
  obtain ⟨s₁F, hdrop, h⟩ := Option.bind_eq_some_iff.mp h
  obtain ⟨s₁, hs₁, rfl⟩ := Option.map_eq_some_iff.mp hdrop
  obtain ⟨⟨t, cF⟩, hread, h⟩ := Option.bind_eq_some_iff.mp h
  obtain ⟨c', hc', hreaches, hsuffix⟩ := exists_directive? hs hrest hread
  obtain rfl := Option.some.inj h
  refine ⟨{ s₁ with keyAllowed := false, cursor := c' }.push t, ?_, ?_, hsuffix⟩
  · rw [hs₁, Option.bind_some, hc']
    rfl
  · exact ⟨hreaches, rfl, rfl, fun _ ↦ rfl, rfl, rfl⟩

private theorem startsPlain_within (hdash : d = '-' → s.cursor.gapAfterNext = false) :
    (s.within F).startsPlain d = s.startsPlain d := by
  have hsecond : (d == '-' && !(s.cursor.within F).second?.any isBlank) =
      (d == '-' && !s.cursor.second?.any isBlank) := by
    by_cases hd : d = '-'
    · -- the dash is not the last character, as it would come before a gap then
      have hnext := hdash hd
      have hne : rest ≠ [] := by
        rintro rfl
        simp [gapAfterNext, hrest] at hnext
      have htwo : 1 < s.cursor.rest.length := by
        rw [hrest, List.length_cons]
        have hpos := List.length_pos_iff.mpr hne
        omega
      rw [second?, rest_within, List.getElem?_append_left htwo, second?]
    · rw [beq_eq_false_iff_ne.mpr hd, Bool.false_and, Bool.false_and]
  simp only [startsPlain, cursor_within, inFlow_within, gapAfterNext_within, hsecond]

private theorem agrees_plain? (hs : IsSolid s.cursor.rest)
    (hmark : s.cursor.atDocumentMark = false) (hstart : s.startsPlain d = true) :
    Agrees F rest s.plain? (s.within F).plain? := by
  intro sF' h
  rw [plain?, saveKey?_within] at h
  rw [plain?]
  cases hsave : s.saveKey? with
  | none => simp [hsave] at h
  | some s₁ =>
    have hplace := (keeps_saveKey? (F := F)).cursor s₁ hsave
    simp only [hsave, Option.map_some, Option.bind_eq_bind, Option.bind_some, Option.pure_def,
      cursor_within, inFlow_within, indent_within, hplace] at h ⊢
    obtain ⟨⟨text, broken, cF⟩, hreadF, h⟩ := Option.bind_eq_some_iff.mp h
    obtain ⟨broken', c', hread, hreaches, hbroken⟩ := plainAgrees_plainFrom? hs
      (by rw [rest_within, List.length_append]; omega) (Nat.lt_succ_self _) _ _ _ hreadF
    obtain rfl := Option.some.inj h
    refine ⟨{ s₁ with keyAllowed := broken', cursor := c' }.push
      (.scalar (String.ofList text) true), ?_, ?_, ?_⟩
    · rw [hread]
      rfl
    · exact ⟨hreaches, rfl, rfl, fun hne ↦ (hbroken hne).symm, rfl, rfl⟩
    · obtain ⟨hgap, hhash, hcolon, hflow⟩ := of_startsPlain hstart
      rw [← inFlow_of_saveKey? hsave] at hflow
      exact suffix_of_plainFrom? hrest hmark hhash hgap hcolon hflow hread

private theorem agrees_anchorName? (token : String → Token) :
    Agrees F rest (s.keyed? fun c ↦ (anchorName? c).map fun x ↦ (token x.1, x.2))
      ((s.within F).keyed? fun c ↦ (anchorName? c).map fun x ↦ (token x.1, x.2)) := by
  refine agrees_keyed? fun t cF hread ↦ ?_
  rw [anchorName?_within hrest, Option.map_map] at hread
  obtain ⟨⟨name, c'⟩, hc', heq⟩ := Option.map_eq_some_iff.mp hread
  obtain ⟨rfl, rfl⟩ := Prod.mk.inj heq
  exact ⟨c', by rw [hc']; rfl, rfl, suffix_of_anchorName? hrest hc'⟩

private theorem agrees_tag? (flow : Bool) :
    Agrees F rest (s.keyed? (tag? flow)) ((s.within F).keyed? (tag? flow)) := by
  refine agrees_keyed? fun t cF hread ↦ ?_
  rw [tag?_within] at hread
  obtain ⟨⟨t', c'⟩, hc', heq⟩ := Option.map_eq_some_iff.mp hread
  obtain ⟨rfl, rfl⟩ := Prod.mk.inj heq
  exact ⟨c', hc', rfl, suffix_of_tag? hrest hc'⟩

private theorem block?_within_eq_none {folded : Bool} (hcalm : IsCalm s.cursor.rest)
    (hd : d = '|' ∨ d = '>') : (s.within F).block? folded = none := by
  rw [block?]
  cases hdrop : (s.within F).dropKey? with
  | none => rfl
  | some s₁ =>
    have hplace := (keeps_dropKey? (F := F)).cursor s₁ hdrop
    simp only [Option.bind_eq_bind, Option.bind_some, hplace, cursor_within]
    rw [blockScalar?_eq_none hcalm hrest hd, Option.bind_none]

/-- The next token of the longer text is one of the shorter text, too, where no block scalar can
start. -/
theorem agrees_next? (hs : IsSolid s.cursor.rest) (hcalm : IsCalm s.cursor.rest) :
    Agrees F rest (s.next? d) ((s.within F).next? d) := by
  unfold next?
  dsimp only
  rw [cursor_within, column_within, inFlow_within, gapAfterNext_within, atMark_within rfl,
    atMark_within rfl]
  -- one case for each sign that a token starts with, in the order in which they are tried
  refine rel_ite (fun _ ↦ agrees_directive hrest hs) fun _ ↦ ?_
  refine rel_ite (fun hmark ↦ agrees_documentMark? hrest (three_le hmark)) fun hdashes ↦ ?_
  refine rel_ite (fun hmark ↦ agrees_documentMark? hrest (three_le hmark)) fun hdots ↦ ?_
  refine rel_ite (fun _ ↦ agrees_openFlow? hrest) fun _ ↦ ?_
  refine rel_ite (fun _ ↦ agrees_openFlow? hrest) fun _ ↦ ?_
  refine rel_ite (fun _ ↦ agrees_closeFlow? hrest) fun _ ↦ ?_
  refine rel_ite (fun _ ↦ agrees_closeFlow? hrest) fun _ ↦ ?_
  refine rel_ite (fun _ ↦ agrees_flowEntry hrest) fun _ ↦ ?_
  refine rel_ite (fun _ ↦ agrees_blockEntry? hrest) fun hdash ↦ ?_
  refine rel_ite (fun _ ↦ agrees_explicitKey? hrest) fun _ ↦ ?_
  refine rel_ite (fun _ ↦ agrees_value? hrest) fun _ ↦ ?_
  refine rel_ite (fun _ ↦ agrees_anchorName? hrest .alias) fun _ ↦ ?_
  refine rel_ite (fun _ ↦ agrees_anchorName? hrest .anchor) fun _ ↦ ?_
  refine rel_ite (fun _ ↦ agrees_tag? hrest s.inFlow) fun _ ↦ ?_
  refine rel_ite (fun hd ↦ agrees_none (block?_within_eq_none hrest hcalm ?_)) fun _ ↦ ?_
  · exact .inl (beq_iff_eq.mp (Bool.and_eq_true_iff.mp hd).1)
  refine rel_ite (fun hd ↦ agrees_none (block?_within_eq_none hrest hcalm ?_)) fun _ ↦ ?_
  · exact .inr (beq_iff_eq.mp (Bool.and_eq_true_iff.mp hd).1)
  refine rel_ite (fun hd ↦ agrees_quoted? hrest hs ?_) fun _ ↦ ?_
  · rw [Bool.or_eq_true, beq_iff_eq, beq_iff_eq] at hd
    rcases hd with rfl | rfl <;> rfl
  rw [startsPlain_within hrest]
  · exact rel_ite (agrees_plain? hrest hs (by simp [atDocumentMark, hdashes, hdots]))
      fun _ ↦ agrees_none rfl
  · rintro rfl
    simpa using hdash

end Next

end Scan

end Blockflow.Yaml.Token
