import Blockflow.Pipeline.Steps
import Blockflow.Proofs.Ids

/-!
# Which block a step name comes from

A step is named after its block: a label or a tag, and the id. If ids hold no dollar sign and no
opening parenthesis, the id can be read off the name again, whatever the label says: it stands
behind the last opening parenthesis, or behind the tag. The name of a further step ends with its
purpose instead of an id, so it is mistaken for the step of a block with such an id, and for no
other one.
-/

namespace Blockflow

/-! ### Texts that end in parentheses -/

/-- The last place of a character splits a text in one way only. -/
theorem append_cons_inj_of_notMem {α : Type} {a : α} {xs ys as bs : List α} (ha : a ∉ as)
    (hb : a ∉ bs) (h : xs ++ a :: as = ys ++ a :: bs) : xs = ys ∧ as = bs := by
  rcases List.append_eq_append_iff.mp h with ⟨l, rfl, hl⟩ | ⟨l, rfl, hl⟩
  · cases l with
    | nil => simpa using hl
    | cons c l =>
      rw [List.cons_append, List.cons.injEq] at hl
      exact absurd (hl.2 ▸ List.mem_append_right _ List.mem_cons_self) ha
  · cases l with
    | nil => simpa [eq_comm] using hl
    | cons c l =>
      rw [List.cons_append, List.cons.injEq] at hl
      exact absurd (hl.2 ▸ List.mem_append_right _ List.mem_cons_self) hb

/-- A text with something in parentheses behind it. -/
def inParentheses (start inner : List Char) : List Char := start ++ ' ' :: '(' :: (inner ++ [')'])

theorem inParentheses_inj {xs ys as bs : List Char} (ha : '(' ∉ as) (hb : '(' ∉ bs)
    (h : inParentheses xs as = inParentheses ys bs) : xs = ys ∧ as = bs := by
  have hclose {cs : List Char} (hc : '(' ∉ cs) : '(' ∉ cs ++ [')'] := by simpa using hc
  have hsplit : (xs ++ [' ']) ++ '(' :: (as ++ [')']) = (ys ++ [' ']) ++ '(' :: (bs ++ [')']) := by
    simpa [inParentheses] using h
  obtain ⟨hstart, hinner⟩ := append_cons_inj_of_notMem (hclose ha) (hclose hb) hsplit
  exact ⟨List.append_cancel_right hstart, List.append_cancel_right hinner⟩

/-! ### Markers -/

theorem withoutMarkers_of_notMem {cs : List Char} (h : '$' ∉ cs) : withoutMarkers cs = cs := by
  induction cs with
  | nil => rfl
  | cons c cs ih =>
    rw [List.mem_cons, not_or] at h
    rw [withoutMarkers, ih h.2]
    simp [Ne.symm h.1]

/-- No marker reaches over a blank into a text without dollar signs. -/
theorem withoutMarkers_append {cs ds : List Char} (h : '$' ∉ ds) :
    withoutMarkers (cs ++ ' ' :: ds) = withoutMarkers cs ++ ' ' :: ds := by
  induction cs with
  | nil =>
    have hblank : '$' ∉ ' ' :: ds := by simpa using h
    exact withoutMarkers_of_notMem hblank
  | cons c cs ih =>
    have hopens (rest : List Char) : ['{', '{'].isPrefixOf (rest ++ ' ' :: ds) =
        ['{', '{'].isPrefixOf rest := by
      match rest with
      | [] => rfl
      | [d] => simp [List.isPrefixOf]
      | d :: e :: rest => simp [List.isPrefixOf]
    rw [List.cons_append, withoutMarkers, withoutMarkers, ih]
    simp only [hopens]
    split <;> rfl

/-! ### Tags -/

namespace Kind

private theorem tag_prefix_free : ∀ k ∈ all, ∀ l ∈ all,
    (k.tag.toList ++ ['-']).isPrefixOf (l.tag.toList ++ ['-']) = true → k = l := by
  decide +kernel

/-- What stands behind a tag and a dash can be read off. -/
theorem tag_append_inj {k l : Kind} {as bs : List Char}
    (h : k.tag.toList ++ '-' :: as = l.tag.toList ++ '-' :: bs) : as = bs := by
  have hsplit : (k.tag.toList ++ ['-']) ++ as = (l.tag.toList ++ ['-']) ++ bs := by simpa using h
  have hk : (k.tag.toList ++ ['-']) <+: (l.tag.toList ++ ['-']) ++ bs := ⟨as, hsplit⟩
  have heq : k = l := by
    rcases List.prefix_or_prefix_of_prefix hk (List.prefix_append _ bs) with hkl | hlk
    · exact tag_prefix_free k k.mem_all l l.mem_all (List.isPrefixOf_iff_prefix.mpr hkl)
    · exact (tag_prefix_free l l.mem_all k k.mem_all (List.isPrefixOf_iff_prefix.mpr hlk)).symm
  subst heq
  exact List.append_cancel_left hsplit

private theorem plain_tag : ∀ k ∈ all, '$' ∉ k.tag.toList ∧ '(' ∉ k.tag.toList := by decide +kernel

end Kind

/-! ### Names of steps -/

namespace Block

variable {b c : Block} {k : Kind} {n : String}

/-- The names of the steps of a block. -/
def stepNames (b : Block) : List String := (b.steps?.getD []).map (·.name)

/-- Steps are named after their block; only the building of an image takes a further one. -/
theorem of_mem_stepNames (h : n ∈ b.stepNames) : ∃ k, Kind.ofTag? b.tag = some k ∧
    (n = b.stepName ∨ k = .integrationDockerBuild ∧ n = b.auxiliaryStepName "login") := by
  rw [stepNames, steps?] at h
  cases hk : Kind.ofTag? b.tag with
  | none => simp [hk] at h
  | some k =>
    refine ⟨k, rfl, ?_⟩
    simp only [hk] at h
    cases k
    case integrationDockerBuild => simpa [stepsOfKind?, Step.use, or_comm] using h
    case utilityEnv =>
      simp only [stepsOfKind?] at h
      cases hscript : b.exportScript? with
      | none => simp [hscript] at h
      | some script => simpa [hscript, Step.run] using h
    case triggerPush | triggerPr | triggerSchedule | triggerManual | triggerRelease |
        controlCondition | controlMatrix | controlParallel | controlWait =>
      simp [stepsOfKind?] at h
    all_goals simpa [stepsOfKind?, Step.use, Step.run, Step.withEnv] using h

/-- Whether an id can be told from what stands around it in a name. -/
def HasPlainId (b : Block) : Prop := '$' ∉ b.id.toList ∧ '(' ∉ b.id.toList

instance (b : Block) : Decidable b.HasPlainId := inferInstanceAs (Decidable (_ ∧ _))

theorem toList_auxiliaryStepName (b : Block) (purpose : String) :
    (b.auxiliaryStepName purpose).toList = inParentheses b.stepName.toList purpose.toList := by
  simp [auxiliaryStepName, inParentheses]

/-- The step of a block has the id behind a label, in parentheses, or behind the tag. -/
theorem toList_stepName (hk : Kind.ofTag? b.tag = some k) (hb : b.HasPlainId) :
    (∃ start, b.stepName.toList = inParentheses start b.id.toList) ∨
      b.stepName.toList = k.tag.toList ++ '-' :: b.id.toList := by
  rw [stepName, String.toList_ofList]
  cases b.ownLabel? with
  | some label =>
    left
    have hinner : '$' ∉ '(' :: (b.id.toList ++ [')']) := by simpa using hb.1
    have htext : (label ++ " (" ++ b.id ++ ")").toList =
        label.toList ++ ' ' :: '(' :: (b.id.toList ++ [')']) := by simp
    exact ⟨withoutMarkers label.toList, by rw [htext, withoutMarkers_append hinner]; rfl⟩
  | none =>
    right
    have htext : (b.tag ++ "-" ++ b.id).toList = k.tag.toList ++ '-' :: b.id.toList := by
      rw [Kind.tag_of_ofTag? hk]
      simp
    have hplain : '$' ∉ k.tag.toList ++ '-' :: b.id.toList := by
      simpa using ⟨(Kind.plain_tag k k.mem_all).1, hb.1⟩
    rw [htext, withoutMarkers_of_notMem hplain]

private theorem inParentheses_ne_tag {start inner id : List Char} (hid : '(' ∉ id) :
    inParentheses start inner ≠ k.tag.toList ++ '-' :: id := by
  intro h
  have hmem : '(' ∈ k.tag.toList ++ '-' :: id := by
    rw [← h, inParentheses]
    simp
  simp [(Kind.plain_tag k k.mem_all).2, hid] at hmem

/-- Two blocks whose steps have the same name have the same id. -/
theorem id_eq_of_stepName_eq {l : Kind} (hk : Kind.ofTag? b.tag = some k)
    (hl : Kind.ofTag? c.tag = some l) (hb : b.HasPlainId) (hc : c.HasPlainId)
    (h : b.stepName = c.stepName) : b.id = c.id := by
  have hlist : b.stepName.toList = c.stepName.toList := congrArg String.toList h
  apply String.toList_injective
  rcases toList_stepName hk hb with ⟨xs, hx⟩ | hx <;>
    rcases toList_stepName hl hc with ⟨ys, hy⟩ | hy <;> rw [hx, hy] at hlist
  · exact (inParentheses_inj hb.2 hc.2 hlist).2
  · exact absurd hlist (inParentheses_ne_tag hc.2)
  · exact absurd hlist.symm (inParentheses_ne_tag hb.2)
  · exact Kind.tag_append_inj hlist

/-- What is named as a further step of another block has the purpose of that step for its id. -/
theorem id_eq_of_auxiliaryStepName_eq {purpose : String} (hk : Kind.ofTag? c.tag = some k)
    (hc : c.HasPlainId) (hp : '(' ∉ purpose.toList)
    (h : b.auxiliaryStepName purpose = c.stepName) : c.id = purpose := by
  have hlist := congrArg String.toList h
  rw [toList_auxiliaryStepName] at hlist
  apply String.toList_injective
  rcases toList_stepName hk hc with ⟨ys, hy⟩ | hy <;> rw [hy] at hlist
  · exact (inParentheses_inj hp hc.2 hlist).2.symm
  · exact absurd hlist (inParentheses_ne_tag hc.2)

theorem stepName_eq_of_auxiliaryStepName_eq {purpose : String}
    (h : b.auxiliaryStepName purpose = c.auxiliaryStepName purpose) : b.stepName = c.stepName := by
  have hlist := congrArg String.toList h
  simp only [toList_auxiliaryStepName] at hlist
  exact String.toList_injective (List.append_cancel_right hlist)

/-- Whether a name is one that a block may give to its step or to its login. -/
def MayName (b : Block) (n : String) : Prop := n = b.stepName ∨ n = b.auxiliaryStepName "login"

theorem mayName_of_mem_stepNames (h : n ∈ b.stepNames) : b.MayName n := by
  obtain ⟨k, -, hname⟩ := of_mem_stepNames h
  exact hname.imp_right And.right

/-- Two blocks with a common name have the same id, or one of them is named as the login of the
other one and has the purpose of the login for its id. -/
theorem MayName.id_eq_or {l : Kind} (hbn : b.MayName n) (hcn : c.MayName n)
    (hk : Kind.ofTag? b.tag = some k) (hl : Kind.ofTag? c.tag = some l) (hb : b.HasPlainId)
    (hc : c.HasPlainId) :
    b.id = c.id ∨ (n = b.auxiliaryStepName "login" ∧ n = c.stepName ∧ c.id = "login") ∨
      (n = c.auxiliaryStepName "login" ∧ n = b.stepName ∧ b.id = "login") := by
  have hlogin : '(' ∉ "login".toList := by decide
  rcases hbn with hbn | hbn <;> rcases hcn with hcn | hcn
  · exact .inl (id_eq_of_stepName_eq hk hl hb hc (hbn.symm.trans hcn))
  · have hid := id_eq_of_auxiliaryStepName_eq hk hb hlogin (hcn.symm.trans hbn)
    exact .inr (.inr ⟨hcn, hbn, hid⟩)
  · have hid := id_eq_of_auxiliaryStepName_eq hl hc hlogin (hbn.symm.trans hcn)
    exact .inr (.inl ⟨hbn, hcn, hid⟩)
  · have hname := stepName_eq_of_auxiliaryStepName_eq (hbn.symm.trans hcn)
    exact .inl (id_eq_of_stepName_eq hk hl hb hc hname)

/-- A block has no further step that is named as its own one. -/
theorem auxiliaryStepName_ne (b : Block) (purpose : String) :
    b.auxiliaryStepName purpose ≠ b.stepName := by
  intro h
  have hlist := congrArg (List.length ∘ String.toList) h
  rw [Function.comp_apply, toList_auxiliaryStepName] at hlist
  simp [inParentheses] at hlist

end Block

end Blockflow
