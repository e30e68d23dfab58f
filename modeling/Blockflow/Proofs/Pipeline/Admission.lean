import Blockflow.Proofs.Pipeline.Events

/-!
# Which events a filter lets through

An empty list of a filter lets every event through, any other list those that one of its items
fits. Filters are put together list by list. So a list that one block leaves empty is as narrow as
the others make it: an event that one block lets through may be kept out by all blocks together.
-/

namespace Blockflow

namespace EventFilter

variable {α : Type} {fits : Part → String → α → Prop} {event : α}

/-- A filter lets an event through if each of its lists is empty or has an item that fits. -/
def Accepts (fits : Part → String → α → Prop) (f : EventFilter) (event : α) : Prop :=
  ∀ p, f.part p = [] ∨ ∃ item ∈ f.part p, fits p item event

theorem part_joined_eq_nil_iff {fs : List EventFilter} {p : Part} :
    (joined fs).part p = [] ↔ ∀ f ∈ fs, f.part p = [] := by
  simp only [List.eq_nil_iff_forall_not_mem, mem_part_joined, not_exists, not_and]
  exact ⟨fun h f hf item ↦ h item f hf, fun h item f hf ↦ h f hf item⟩

/-- Some filters together let an event through if each list is empty in all of them or has an item
in one of them that fits. -/
theorem accepts_joined_iff {fs : List EventFilter} : (joined fs).Accepts fits event ↔
    ∀ p, (∀ f ∈ fs, f.part p = []) ∨ ∃ f ∈ fs, ∃ item ∈ f.part p, fits p item event := by
  refine forall_congr' fun p ↦ or_congr part_joined_eq_nil_iff ?_
  constructor
  · rintro ⟨item, hitem, hfits⟩
    obtain ⟨f, hf, hmem⟩ := mem_part_joined.mp hitem
    exact ⟨f, hf, item, hmem, hfits⟩
  · rintro ⟨f, hf, item, hmem, hfits⟩
    exact ⟨item, mem_part_joined.mpr ⟨f, hf, hmem⟩, hfits⟩

/-- Where one of some filters lets an event through, all of them together do so unless a list that
this one leaves empty has items in others, none of which fits. -/
theorem accepts_joined_iff_of_accepts {fs : List EventFilter} {f : EventFilter} (hf : f ∈ fs)
    (h : f.Accepts fits event) : (joined fs).Accepts fits event ↔
      ∀ p, f.part p = [] →
        (∀ g ∈ fs, g.part p = []) ∨ ∃ g ∈ fs, ∃ item ∈ g.part p, fits p item event := by
  rw [accepts_joined_iff]
  refine forall_congr' fun p ↦ ⟨fun hp _ ↦ hp, fun hp ↦ ?_⟩
  obtain hempty | hfits := h p
  · exact hp hempty
  · exact .inr ⟨f, hf, hfits⟩

end EventFilter

namespace Workflow

open EventFilter

variable {w : Workflow} {r : Registry}

/-- A filter of a document is that of all blocks of its kind together. -/
private theorem exists_filter?_eq {e : Events} (h : w.events? r = some e) (x : FilteredEvent) :
    ∃ blocks : List Block, e.filter? x = joined? (blocks.map x.filterOf) ∧
      ∀ {b}, b ∈ blocks ↔ b ∈ w.triggersOf r x.kind :=
  ⟨_, filter?_of_events? h x, by simp [triggersOf, sortedTriggers]⟩

/-- Where there is a trigger block for events of a sort, the document has a filter for them, and an
event that the block's own filter lets through is let through exactly if each list that is empty in
this block is empty in every other one for such events too, or has an item in one of them that
fits. -/
theorem accepts_iff_of_compile (w : Workflow) (r : Registry) (p : Pipeline)
    (h : w.compile r = .ok p) :
    ∃ d, w.document? r = some (d, p.names) ∧ d.toYaml.text? = some p.text ∧
      ∀ x : FilteredEvent, ∀ b ∈ w.triggersOf r x.kind, ∃ f, d.events.filter? x = some f ∧
        ∀ (α : Type) (fits : Part → String → α → Prop) (event : α),
          (x.filterOf b).Accepts fits event →
            (f.Accepts fits event ↔ ∀ p, (x.filterOf b).part p = [] →
              (∀ c ∈ w.triggersOf r x.kind, (x.filterOf c).part p = []) ∨
                ∃ c ∈ w.triggersOf r x.kind, ∃ item ∈ (x.filterOf c).part p,
                  fits p item event) := by
  obtain ⟨-, d, hd, htext⟩ := compile_eq_ok_iff.mp h
  refine ⟨d, hd, htext, fun x b hb ↦ ?_⟩
  obtain ⟨blocks, hblocks, hmem⟩ := exists_filter?_eq (document?_events hd) x
  have hf : x.filterOf b ∈ blocks.map x.filterOf := List.mem_map_of_mem (hmem.mpr hb)
  refine ⟨joined (blocks.map x.filterOf), ?_, fun α fits event haccepts ↦ ?_⟩
  · rw [hblocks, joined?, if_neg (by simpa using List.ne_nil_of_mem hf)]
  · rw [accepts_joined_iff_of_accepts hf haccepts]
    simp only [List.mem_map, forall_exists_index, and_imp, forall_apply_eq_imp_iff₂,
      exists_exists_and_eq_and, hmem]

/-- A workflow with a trigger for commits on one branch and one for all commits. -/
private def widened : Workflow where
  id := "wf"
  name := "CI"
  description := ""
  blocks :=
    [⟨"a", Kind.triggerPush.tag, .origin, .ofList [("branches", .str "main")], none⟩,
      ⟨"b", Kind.triggerPush.tag, .origin, .empty, none⟩,
      ⟨"c", Kind.jobCheckout.tag, .origin, .empty, none⟩]
  connections := [⟨"e", "a", "out", "c", "in"⟩]

/-- Every item fits exactly the events that have it at its place. -/
private def Same (p : Part) (item : String) (event : Part → String) : Prop := item = event p

/-- A push to a branch other than `main`. -/
private def pushed : Part → String
  | .types => ""
  | .branches => "dev"
  | .paths => "README.md"

private theorem sortedTriggers_widened :
    widened.sortedTriggers .builtin = widened.triggers .builtin :=
  List.mergeSort_of_pairwise (by decide +kernel)

private theorem compile_widened : ∃ p d, widened.compile .builtin = .ok p ∧
    widened.document? .builtin = some (d, p.names) ∧
    d.events.push = some ⟨[], ["main"], []⟩ := by
  have hok : (widened.compile .builtin).isOk = true := by
    rw [compile, document?, events?, sortedTriggers_widened]
    decide +kernel
  have hevents : (widened.events? .builtin).map (·.push) = some (some ⟨[], ["main"], []⟩) := by
    rw [events?, sortedTriggers_widened]
    decide +kernel
  obtain ⟨p, hp⟩ := exists_compile_eq_ok hok
  obtain ⟨-, d, hd, -⟩ := compile_eq_ok_iff.mp hp
  rw [document?_events hd, Option.map_some, Option.some.injEq] at hevents
  exact ⟨p, d, hp, hd, hevents⟩

private theorem exists_free_widened : ∃ b ∈ widened.triggersOf .builtin .triggerPush,
    FilteredEvent.push.filterOf b = .free := by
  simp only [mem_triggersOf, and_assoc]
  decide +kernel

/-- One of the triggers lets all commits through, the document only those to one branch. -/
theorem not_accepts_widened : ∃ p d f, widened.compile .builtin = .ok p ∧
    widened.document? .builtin = some (d, p.names) ∧ d.events.filter? .push = some f ∧
    (∃ b ∈ widened.triggersOf .builtin .triggerPush,
      (FilteredEvent.push.filterOf b).Accepts Same pushed) ∧ ¬ f.Accepts Same pushed := by
  obtain ⟨p, d, hp, hd, hpush⟩ := compile_widened
  obtain ⟨b, hb, hfree⟩ := exists_free_widened
  refine ⟨p, d, _, hp, hd, hpush, ⟨b, hb, hfree ▸ fun part ↦ .inl ?_⟩, fun h ↦ ?_⟩
  · cases part <;> rfl
  · obtain hempty | ⟨item, hitem, hsame⟩ := h .branches
    · cases hempty
    · obtain rfl := List.mem_singleton.mp hitem
      exact (by decide : "main" ≠ "dev") hsame

/-- A commit to the branch that one of the triggers names is let through. -/
theorem accepts_iff_of_compile_widened : ∃ p d f, widened.compile .builtin = .ok p ∧
    widened.document? .builtin = some (d, p.names) ∧ d.events.filter? .push = some f ∧
    f.Accepts Same fun _ ↦ "main" := by
  obtain ⟨p, -, hp, -⟩ := compile_widened
  obtain ⟨d, hd, -, haccepts⟩ := accepts_iff_of_compile widened .builtin p hp
  obtain ⟨b, hb, hfree⟩ := exists_free_widened
  obtain ⟨f, hf, hiff⟩ := haccepts .push b hb
  refine ⟨p, d, f, hp, hd, hf, (hiff _ Same (fun _ ↦ "main") ?_).mpr fun part _ ↦ ?_⟩
  · rw [hfree]
    exact fun part ↦ .inl (by cases part <;> rfl)
  · cases part with
    | branches =>
      refine .inr ?_
      simp only [mem_triggersOf, and_assoc, Same]
      decide +kernel
    | types | paths =>
      refine .inl ?_
      simp only [mem_triggersOf, and_imp]
      decide +kernel

end Workflow

end Blockflow
