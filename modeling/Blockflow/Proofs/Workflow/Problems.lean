import Blockflow.Proofs.Block.Catalog
import Blockflow.Proofs.Workflow.Editing
import Blockflow.Workflow.Validation

/-!
# What editing leaves to validation

Validation looks for more than editing lets happen. Of a workflow that has been made by changes
alone it finds three kinds of problems: a required setting without a value, a block that no run
comes to, and no trigger at all.
-/

namespace Blockflow

open Blockflow.Graph

namespace Workflow

variable {r : Registry} {w v : Workflow} {b : Block} {c : Connection} {f : Finding}

/-! ### Settings -/

/-- Whether every block has a known type whose definition accepts its settings. -/
def Settled (w : Workflow) (r : Registry) : Prop :=
  ∀ b ∈ w.blocks, ∃ d, r.get? b.tag = some d ∧ d.Accepts b.config

private theorem mem_changeFirst {α : Type} {q : α → Bool} {g : α → α} {l : List α} {a : α}
    (h : a ∈ changeFirst q g l) : a ∈ l ∨ ∃ x, l.find? q = some x ∧ g x = a := by
  induction l with
  | nil => cases h
  | cons x l ih =>
    rw [changeFirst] at h
    split at h
    · next hq =>
      rcases List.mem_cons.mp h with rfl | h
      · exact .inr ⟨x, by rw [List.find?_cons_of_pos hq], rfl⟩
      · exact .inl (List.mem_cons_of_mem _ h)
    · next hq =>
      rcases List.mem_cons.mp h with rfl | h
      · exact .inl List.mem_cons_self
      · rcases ih h with h | ⟨y, hy, rfl⟩
        · exact .inl (List.mem_cons_of_mem _ h)
        · exact .inr ⟨y, by rw [List.find?_cons_of_neg hq, hy], rfl⟩

/-- After a change, every block has settings that come from where settings may come from. -/
theorem Changes.configured (h : w.Changes r v) (hb : b ∈ v.blocks) :
    w.Configured r b.tag b.config := by
  cases h with
  | append c _ hconfig =>
    rcases List.mem_append.mp hb with hb | hb
    · exact .kept b hb rfl
    · rw [List.mem_singleton.mp hb]
      exact hconfig
  | removeBlock id => exact .kept b (List.mem_of_mem_eraseP hb) rfl
  | changeBlock id f _ htag hconfig =>
    rcases mem_changeFirst hb with hb | ⟨x, hx, rfl⟩
    · exact .kept b hb rfl
    · rw [htag]
      exact hconfig x hx
  | connect c _ _ _ _ => exact .kept b hb rfl
  | removeConnection id => exact .kept b hb rfl

/-- Such settings are accepted if those of the blocks were. -/
private theorem accepts_of_configured (h : w.Settled r)
    (hr : ∀ tag d, r.get? tag = some d → d.IsSound) {tag : String} {config : Settings}
    (hc : w.Configured r tag config) : ∃ d, r.get? tag = some d ∧ d.Accepts config := by
  cases hc with
  | kept b hb htag => exact htag ▸ h b hb
  | added hd hpatched =>
    have hsound := hr tag _ hd
    exact ⟨_, hd, hsound.accepts_defaultConfig.patched hsound hpatched⟩
  | patched b hb htag hd hpatched =>
    obtain ⟨d, hd', haccepts⟩ := h b hb
    rw [htag] at hd'
    obtain rfl := Option.some.inj (hd.symm.trans hd')
    exact ⟨_, hd, haccepts.patched (hr tag _ hd) hpatched⟩

/-- A change that is made keeps all settings accepted. -/
theorem Settled.changes (h : w.Settled r) (hr : ∀ tag d, r.get? tag = some d → d.IsSound)
    (hc : w.Changes r v) : v.Settled r :=
  fun _ hb ↦ accepts_of_configured h hr (hc.configured hb)

end Workflow

namespace Validation

open Workflow

variable {r : Registry} {w : Workflow} {b : Block} {c : Connection} {d : Definition} {f : Finding}

/-- A value that passes the check of its field is refused only if it is required and empty. -/
private theorem checkPresent_eq_ok {field : Field} {value : Option Json}
    (hpresent : field.required = true → value.all Field.isEmptyValue = false)
    (hcheck : ∀ v, value = some v → field.check v = .ok ()) :
    field.checkPresent value = .ok () := by
  rw [Field.checkPresent]
  split
  · next hnone =>
    split
    · next hreq =>
      -- `null` is a value, but an empty one
      have hfull := hpresent hreq
      cases value with
      | none => cases hfull
      | some v => cases v <;> simp [Json.isNull, Field.isEmptyValue] at hnone hfull
    · rfl
  · next v hsome =>
    obtain ⟨hv, -⟩ := Option.filter_eq_some_iff.mp hsome
    subst hv
    split
    · next hempty =>
      simp only [Bool.and_eq_true] at hempty
      have hfull := hpresent hempty.1
      rw [Option.all_some, hempty.2] at hfull
      cases hfull
    · exact hcheck v rfl

/-- Of settings that are accepted, the only problem is a required one that has no value. -/
theorem kind_of_mem_configFindings (hd : r.get? b.tag = some d) (hs : d.IsSound)
    (ha : d.Accepts b.config) (hf : f ∈ configFindings r b) : f.kind = .missingRequiredField := by
  simp only [configFindings, hd, List.mem_append, List.mem_flatMap, List.mem_map, List.mem_filter,
    Option.isNone_iff_eq_none] at hf
  rcases hf with ⟨field, hfield, hf⟩ | ⟨key, ⟨hkey, hnone⟩, -⟩
  · rw [fieldFindings] at hf
    split at hf
    · rw [List.mem_singleton.mp hf]
      rfl
    · next hpresent =>
      have hok : field.checkPresent (b.config.get? field.key) = .ok () := by
        refine checkPresent_eq_ok (fun hreq ↦ by simpa [hreq] using hpresent) fun v hv ↦ ?_
        obtain ⟨g, hg, hcheck⟩ := ha field.key v hv
        obtain rfl := Option.some.inj ((hs.field?_eq_some hfield).symm.trans hg)
        exact hcheck
      rw [hok] at hf
      cases hf
  · obtain ⟨v, hv⟩ := Option.isSome_iff_exists.mp (Dict.mem_keys_iff.mp hkey)
    obtain ⟨field, hfield, -⟩ := ha key v hv
    rw [hnone] at hfield
    cases hfield

/-! ### Connections -/

/-- How many of some connections count for the limit of an input. -/
def countInto (w : Workflow) (r : Registry) (cs : List Connection) (input : String × String) :
    Nat :=
  cs.countP fun c ↦ (c.target, c.targetPort) == input && !Editor.isTriggerId r w c.source

private theorem length_counted (target port : String) :
    (w.counted r target port).length = countInto w r w.connections (target, port) := by
  rw [countInto, List.countP_eq_length_filter]
  simp only [counted, Editor.connectionsInto, incoming, List.filter_filter]
  congr 1
  apply List.filter_congr
  intro c _
  rw [Bool.eq_iff_iff]
  simp [and_assoc, and_comm]

/-- What a connection links that joins ports that fit. -/
private theorem exists_link (h : w.Coherent r) (hc : c ∈ w.connections) :
    ∃ link, linkOf w r c = .inr (some link) ∧
      link.output.type.feeds link.input.type = true ∧
      (link.target.id, link.input.id) = (c.target, c.targetPort) ∧
      link.source.isTrigger = Editor.isTriggerId r w c.source ∧
      ∀ limit ∈ link.input.limit?,
        countInto w r w.connections (c.target, c.targetPort) ≤ limit := by
  obtain ⟨⟨sid, stag⟩, hs, ⟨tid, ttag⟩, ht, rfl, rfl, hfeeds⟩ := h.wired c hc
  obtain ⟨source, hsource, t, htarget, o, ho, i, hi, htypes⟩ := Registry.feeds_iff.mp hfeeds
  have htrigger := h.blockIds.isTriggerId_eq (r := r) hs
  obtain ⟨sb, hsb, hsid, rfl⟩ := mem_types.mp hs
  obtain ⟨tb, htb, htid, rfl⟩ := mem_types.mp ht
  have hinput : i.id = c.targetPort := by simpa using List.find?_some hi
  have hlink : linkOf w r c = .inr (some ⟨source, o, tb, i⟩) := by
    simp only [linkOf, h.blockIds.block?_eq_some.mpr ⟨hsb, hsid⟩,
      h.blockIds.block?_eq_some.mpr ⟨htb, htid⟩, hsource, htarget, ho, hi]
  refine ⟨_, hlink, htypes, by rw [htid, hinput], ?_, fun limit hlimit ↦ ?_⟩
  · rw [htrigger, Registry.isTrigger_of_get? hsource]
  · have hwithin := h.limits _ ht t htarget i (List.mem_of_find?_eq_some hi) (hinput ▸ hi) limit
      hlimit
    rwa [hinput, length_counted] at hwithin

/-- Nothing is wrong with the rest of the connections, if those before have taken of each input what
the rest leaves of it. -/
private theorem connectionFindings_eq_nil_of_suffix (h : w.Coherent r) {cs : List Connection}
    {taken : List (String × String)} (hcs : ∀ c ∈ cs, c ∈ w.connections)
    (htaken : ∀ input, taken.count input + countInto w r cs input =
      countInto w r w.connections input) :
    connectionFindings w r taken cs = [] := by
  induction cs generalizing taken with
  | nil => rfl
  | cons c cs ih =>
    rw [List.forall_mem_cons] at hcs
    obtain ⟨link, hlink, hfeeds, hinput, htrigger, hlimit⟩ := exists_link h hcs.1
    simp only [connectionFindings, hlink, hfeeds, if_true, List.nil_append, hinput]
    split
    · next hsource =>
      refine ih hcs.2 fun input ↦ ?_
      rw [← htaken input, countInto, countInto, List.countP_cons]
      simp [← htrigger, hsource]
    · next hsource =>
      have hcount (input : String × String) : countInto w r (c :: cs) input =
          countInto w r cs input + if (c.target, c.targetPort) = input then 1 else 0 := by
        rw [countInto, countInto, List.countP_cons]
        simp [← htrigger, hsource]
      have hrest : connectionFindings w r ((c.target, c.targetPort) :: taken) cs = [] := by
        refine ih hcs.2 fun input ↦ ?_
        rw [← htaken input, hcount, List.count_cons]
        simp only [beq_iff_eq]
        omega
      rw [hrest, List.append_nil]
      split
      · next limit hl =>
        have hle := hlimit limit hl
        rw [← htaken, hcount, if_pos rfl] at hle
        rw [if_neg (by omega)]
      · rfl

/-- Nothing is wrong with the connections of a coherent workflow. -/
theorem connectionFindings_eq_nil (h : w.Coherent r) :
    connectionFindings w r [] w.connections = [] :=
  connectionFindings_eq_nil_of_suffix h (fun _ hc ↦ hc) (by simp)

/-! ### Cycles -/

/-- No step of a coherent workflow is found to come before itself. -/
theorem cycleFindings_eq_nil (h : w.Coherent r) : cycleFindings w r = [] := by
  simp only [cycleFindings, List.map_eq_nil_iff, List.filter_eq_nil_iff, isOnCycle_iff]
  exact fun id _ ↦ h.acyclic id

end Validation

namespace Workflow

variable {r : Registry} {w : Workflow} {f : Finding}

/-- What may still be wrong with a workflow that is made by changes alone. -/
theorem kind_of_mem_findings (h : w.Coherent r) (hs : w.Settled r)
    (hr : ∀ tag d, r.get? tag = some d → d.IsSound) (hf : f ∈ w.findings r) :
    f.kind = .missingRequiredField ∨ f.kind = .unreachable ∨ f.kind = .missingTrigger := by
  simp only [findings, Validation.connectionFindings_eq_nil h, Validation.cycleFindings_eq_nil h,
    List.append_nil, List.mem_append, List.mem_flatMap] at hf
  rcases hf with ((⟨b, hb, hf⟩ | ⟨b, hb, hf⟩) | hf) | hf
  · obtain ⟨d, hd, -⟩ := hs b hb
    rw [Validation.typeFindings, Registry.contains, hd, Option.isSome_some, if_pos rfl] at hf
    cases hf
  · obtain ⟨d, hd, ha⟩ := hs b hb
    exact .inl (Validation.kind_of_mem_configFindings hd (hr _ d hd) ha hf)
  · obtain ⟨id, -, rfl⟩ := List.mem_map.mp hf
    exact .inr (.inl rfl)
  · rw [Validation.triggerFindings] at hf
    split at hf
    · rw [List.mem_singleton.mp hf]
      exact .inr (.inr rfl)
    · cases hf

/-- Whatever changes have been asked for from an empty workflow on, made or refused, validation
finds only required settings without a value, blocks that no run comes to, and that there is no
trigger. -/
theorem kinds_edited (id name description : String) (calls : List (EditCall × Nat)) :
    ((Workflow.edited ⟨id, name, description, [], []⟩ .builtin calls).problems .builtin).map
      (·.kind) ⊆ [.missingRequiredField, .unreachable, .missingTrigger] := by
  have hr (tag : String) (d : Definition) (hd : Registry.builtin.get? tag = some d) : d.IsSound :=
    Catalog.isSound_of_mem (List.mem_of_find?_eq_some hd)
  obtain ⟨hcoherent, hsettled⟩ :
      (Workflow.edited ⟨id, name, description, [], []⟩ .builtin calls).Coherent .builtin ∧
        (Workflow.edited ⟨id, name, description, [], []⟩ .builtin calls).Settled .builtin := by
    refine edited_induction (p := fun v ↦ v.Coherent .builtin ∧ v.Settled .builtin) ⟨?_, ?_⟩
      (fun _ _ hv hc ↦ ⟨hv.1.changes hc, hv.2.changes hr hc⟩) calls
    · exact coherent_of_empty rfl rfl
    · exact fun b hb ↦ absurd hb List.not_mem_nil
  intro kind hkind
  obtain ⟨p, hp, rfl⟩ := List.mem_map.mp hkind
  obtain ⟨f, hf, rfl⟩ := List.mem_map.mp hp
  have hthree := kind_of_mem_findings hcoherent hsettled hr hf
  simpa [Finding.problem] using hthree

end Workflow

end Blockflow
