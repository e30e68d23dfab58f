import Blockflow.Proofs.Ids
import Blockflow.Workflow.Editor

/-!
# What a change does

A change that is made does one of five things: there is one more block, one block is gone, one
block has changed without its id and its type, there is one more connection, or one connection is
gone. What holds after each of the five holds after every change.
-/

namespace Blockflow

/-- Two computations one after the other give a result exactly if both do. -/
theorem except_bind_eq_ok {ε α β : Type} {x : Except ε α} {f : α → Except ε β} {b : β} :
    x >>= f = .ok b ↔ ∃ a, x = .ok a ∧ f a = .ok b := by
  cases x <;> simp [bind, Except.bind]

theorem except_forM_eq_ok {ε α : Type} {check : α → Except ε Unit} {l : List α} :
    l.forM check = .ok () ↔ ∀ a ∈ l, check a = .ok () := by
  induction l with
  | nil => simp [pure, Except.pure]
  | cons a l ih =>
    rw [List.forall_mem_cons, ← ih]
    refine except_bind_eq_ok.trans ⟨?_, fun ⟨ha, hl⟩ ↦ ⟨(), ha, hl⟩⟩
    rintro ⟨⟨⟩, ha, hl⟩
    exact ⟨ha, hl⟩

theorem except_isOk_iff {ε α : Type} {x : Except ε α} : x.isOk = true ↔ ∃ a, x = .ok a := by
  cases x <;> simp [Except.isOk, Except.toBool]

namespace Editing

variable {α β : Type} {x : Editing α} {n m : Nat}

/-- Whether a change is made that takes its ids from the first number on and leaves the second
one. -/
def Gives (x : Editing α) (n : Nat) (a : α) (m : Nat) : Prop := x.runFrom n = some (.ok a, m)

@[simp] theorem gives_pure {a b : α} : (pure a : Editing α).Gives n b m ↔ a = b ∧ n = m := by
  change some (Except.ok a, n) = some (.ok b, m) ↔ a = b ∧ n = m
  simp

/-- A change goes on from the number that the one before has left, unless that one was refused. -/
theorem runFrom_bind (x : Editing α) (f : α → Editing β) (n : Nat) :
    (x >>= f).runFrom n = (x.runFrom n).bind fun
      | (.ok a, k) => (f a).runFrom k
      | (.error e, k) => some (.error e, k) := by
  simp only [runFrom, ExceptT.run_bind, StateT.run_bind, Option.bind_eq_bind]
  congr
  funext ⟨result, k⟩
  cases result <;> rfl

@[simp] theorem gives_bind {f : α → Editing β} {b : β} :
    (x >>= f).Gives n b m ↔ ∃ a k, x.Gives n a k ∧ (f a).Gives k b m := by
  simp only [Gives, runFrom_bind, Option.bind_eq_some_iff]
  constructor
  · rintro ⟨⟨a | a, k⟩, hx, hf⟩
    · simp at hf
    · exact ⟨a, k, hx, hf⟩
  · rintro ⟨a, k, hx, hf⟩
    exact ⟨(.ok a, k), hx, hf⟩

@[simp] theorem gives_map {f : α → β} {b : β} :
    (f <$> x).Gives n b m ↔ ∃ a, x.Gives n a m ∧ f a = b := by
  rw [← bind_pure_comp, gives_bind]
  simp [and_comm]

@[simp] theorem gives_ofExcept {x : Except EditError α} {a : α} :
    (ofExcept x).Gives n a m ↔ x = .ok a ∧ n = m := by
  change some (x, n) = some (.ok a, m) ↔ x = .ok a ∧ n = m
  simp

theorem gives_ofExcept_bind {x : Except EditError α} {f : α → Editing β} {b : β} :
    (ofExcept x >>= f).Gives n b m ↔ ∃ a, x = .ok a ∧ (f a).Gives n b m := by
  simp [and_assoc]

/-- A change takes the id that the search finds. -/
theorem gives_freshId {idOf : Nat → String} {taken : List String} {id : String} :
    (freshId idOf taken).Gives n id m ↔
      Ids.fresh? idOf taken (taken.length + 1) n = some (id, m) := by
  change ((Ids.fresh? idOf taken (taken.length + 1) n).bind fun (found : String × Nat) ↦
    some (Except.ok found.1, found.2)) = some (.ok id, m) ↔ _
  simp [Option.bind_eq_some_iff]

/-- The id that a change takes is a new one. -/
theorem not_mem_of_gives_freshId {idOf : Nat → String} {taken : List String} {id : String}
    (h : (freshId idOf taken).Gives n id m) : id ∉ taken :=
  (Ids.of_fresh?_eq_some (gives_freshId.mp h)).1

end Editing

namespace Workflow

variable {r : Registry} {w v : Workflow} {b : Block} {id tag : String}

/-- Where the settings of a block come from when a workflow changes. -/
inductive Configured (r : Registry) (w : Workflow) (tag : String) : Settings → Prop where
  /-- They are those of a block of the same type. -/
  | kept (b : Block) (hb : b ∈ w.blocks) (htag : b.tag = tag) : Configured r w tag b.config
  /-- They are the defaults, with settings that the definition accepts. -/
  | added {d : Definition} (hd : r.get? tag = some d) {block : String} {patch config : Settings}
      (h : Editor.patched block d d.defaultConfig patch = .ok config) : Configured r w tag config
  /-- They are those of a block of the same type, with settings that the definition accepts. -/
  | patched (b : Block) (hb : b ∈ w.blocks) (htag : b.tag = tag) {d : Definition}
      (hd : r.get? tag = some d) {block : String} {patch config : Settings}
      (h : Editor.patched block d b.config patch = .ok config) : Configured r w tag config

/-- The workflow with one more block. -/
def append (w : Workflow) (b : Block) : Workflow := { w with blocks := w.blocks ++ [b] }

/-- The workflow without the first block of an id, and without the connections at it. -/
def removeBlock (w : Workflow) (id : String) : Workflow :=
  { w with
    blocks := w.blocks.eraseP fun b ↦ b.id == id
    connections := w.connections.filter fun c ↦ !c.touches id }

/-- The workflow with one more connection. -/
def connect (w : Workflow) (c : Connection) : Workflow :=
  { w with connections := w.connections ++ [c] }

/-- The workflow without the first connection of an id. -/
def removeConnection (w : Workflow) (id : String) : Workflow :=
  { w with connections := w.connections.eraseP fun c ↦ c.id == id }

/-- What a change that is made does to a workflow. -/
inductive Changes (r : Registry) (w : Workflow) : Workflow → Prop where
  /-- There is one more block, with a new id. -/
  | append (b : Block) (hid : b.id ∉ w.blocks.map (·.id))
      (hconfig : Configured r w b.tag b.config) : Changes r w (w.append b)
  /-- A block is gone, and every connection at it. -/
  | removeBlock (id : String) : Changes r w (w.removeBlock id)
  /-- A block has changed, but neither its id nor its type. -/
  | changeBlock (id : String) (f : Block → Block) (hid : ∀ b, (f b).id = b.id)
      (htag : ∀ b, (f b).tag = b.tag)
      (hconfig : ∀ b, w.block? id = some b → Configured r w b.tag (f b).config) :
      Changes r w (w.changeBlock id f)
  /-- There is one more connection, with a new id, that has passed every check. -/
  | connect (c : Connection) (e : Editor.Ends) (hid : c.id ∉ w.connections.map (·.id))
      (hends : Editor.ends r w c.source c.sourcePort c.target c.targetPort = .ok e)
      (hcheck : Editor.checkConnection r w e c.source c.sourcePort c.target c.targetPort = .ok ()) :
      Changes r w (w.connect c)
  /-- A connection is gone. -/
  | removeConnection (id : String) : Changes r w (w.removeConnection id)

end Workflow

namespace Editor

open Workflow

variable {r : Registry} {w : Workflow} {id tag : String} {n m : Nat} {e : Edit Block}

@[simp] theorem block_eq_ok {b : Block} : block w id = .ok b ↔ w.block? id = some b := by
  rw [block]
  split <;> simp_all

@[simp] theorem definition_eq_ok {d : Definition} :
    definition r tag = .ok d ↔ r.get? tag = some d := by
  rw [definition]
  split <;> simp_all

private theorem changes_addBlock {position : Position} {config : Settings}
    (h : (addBlock r w tag position config).Gives n e m) : Changes r w e.workflow := by
  obtain ⟨d, hd, h⟩ := Editing.gives_ofExcept_bind.mp h
  obtain ⟨fresh, k, hfresh, h⟩ := Editing.gives_bind.mp h
  obtain ⟨config, hpatched, h⟩ := Editing.gives_ofExcept_bind.mp h
  obtain ⟨rfl, -⟩ := Editing.gives_pure.mp h
  exact .append _ (Editing.not_mem_of_gives_freshId hfresh)
    (.added (definition_eq_ok.mp hd) hpatched)

private theorem changes_duplicateBlock (h : (duplicateBlock r w id).Gives n e m) :
    Changes r w e.workflow := by
  obtain ⟨b, hb, h⟩ := Editing.gives_ofExcept_bind.mp h
  obtain ⟨d, -, h⟩ := Editing.gives_ofExcept_bind.mp h
  obtain ⟨fresh, k, hfresh, h⟩ := Editing.gives_bind.mp h
  obtain ⟨rfl, -⟩ := Editing.gives_pure.mp h
  exact .append _ (Editing.not_mem_of_gives_freshId hfresh)
    (.kept b (List.mem_of_find?_eq_some (block_eq_ok.mp hb)) rfl)

private theorem changes_removeBlock (h : removeBlock w id = .ok e) : Changes r w e.workflow := by
  obtain ⟨b, -, hb⟩ := except_bind_eq_ok.mp h
  obtain rfl := Except.ok.inj hb
  exact .removeBlock id

private theorem changes_updateBlock {f : Block → Block} (h : updateBlock w id f = .ok e)
    (hid : ∀ b, (f b).id = b.id) (htag : ∀ b, (f b).tag = b.tag)
    (hconfig : ∀ b, w.block? id = some b → Configured r w b.tag (f b).config) :
    Changes r w e.workflow := by
  obtain ⟨b, -, hb⟩ := except_bind_eq_ok.mp h
  obtain rfl := Except.ok.inj hb
  exact .changeBlock id f hid htag hconfig

private theorem changes_updateConfig {patch : Settings} (h : updateConfig r w id patch = .ok e) :
    Changes r w e.workflow := by
  obtain ⟨b, hb, h⟩ := except_bind_eq_ok.mp h
  obtain ⟨d, hd, h⟩ := except_bind_eq_ok.mp h
  obtain ⟨config, hpatched, h⟩ := except_bind_eq_ok.mp h
  rw [block_eq_ok] at hb
  rw [definition_eq_ok] at hd
  refine changes_updateBlock h (fun _ ↦ rfl) (fun _ ↦ rfl) fun b' hb' ↦ ?_
  obtain rfl := Option.some.inj (hb.symm.trans hb')
  exact .patched b (List.mem_of_find?_eq_some hb) rfl hd hpatched

/-- A change that leaves the settings alone takes them from the block itself. -/
private theorem changes_updateBlock_of_config {f : Block → Block} (h : updateBlock w id f = .ok e)
    (hid : ∀ b, (f b).id = b.id) (htag : ∀ b, (f b).tag = b.tag)
    (hconfig : ∀ b, (f b).config = b.config) : Changes r w e.workflow :=
  changes_updateBlock h hid htag fun b hb ↦
    hconfig b ▸ .kept b (List.mem_of_find?_eq_some hb) rfl

private theorem changes_addConnection {source sourcePort target targetPort : String}
    {e : Edit Connection}
    (h : (addConnection r w source sourcePort target targetPort).Gives n e m) :
    Changes r w e.workflow := by
  obtain ⟨ends, hends, h⟩ := Editing.gives_ofExcept_bind.mp h
  obtain ⟨_, hcheck, h⟩ := Editing.gives_ofExcept_bind.mp h
  obtain ⟨fresh, k, hfresh, h⟩ := Editing.gives_bind.mp h
  obtain ⟨rfl, -⟩ := Editing.gives_pure.mp h
  exact .connect ⟨fresh, source, sourcePort, target, targetPort⟩ ends
    (Editing.not_mem_of_gives_freshId hfresh) hends hcheck

private theorem changes_removeConnection {e : Edit Connection}
    (h : removeConnection w id = .ok e) : Changes r w e.workflow := by
  rw [removeConnection] at h
  split at h
  · cases h
  · obtain rfl := Except.ok.inj h
    exact .removeConnection id

end Editor

/-- A change that is made does one of the five things. -/
theorem EditCall.changes_of_gives {r : Registry} {w : Workflow} {call : EditCall} {n m : Nat}
    {e : Edit EditAnswer} (h : (call.run r w).Gives n e m) : w.Changes r e.workflow := by
  cases call with
  | addBlock tag position config =>
    obtain ⟨e, he, rfl⟩ := Editing.gives_map.mp h
    exact Editor.changes_addBlock he
  | removeBlock id =>
    obtain ⟨e, he, rfl⟩ := Editing.gives_map.mp h
    exact Editor.changes_removeBlock (Editing.gives_ofExcept.mp he).1
  | updateConfig id patch =>
    obtain ⟨e, he, rfl⟩ := Editing.gives_map.mp h
    exact Editor.changes_updateConfig (Editing.gives_ofExcept.mp he).1
  | updateLabel id label =>
    obtain ⟨e, he, rfl⟩ := Editing.gives_map.mp h
    exact Editor.changes_updateBlock_of_config (Editing.gives_ofExcept.mp he).1
      (fun _ ↦ rfl) (fun _ ↦ rfl) (fun _ ↦ rfl)
  | updatePosition id position =>
    obtain ⟨e, he, rfl⟩ := Editing.gives_map.mp h
    exact Editor.changes_updateBlock_of_config (Editing.gives_ofExcept.mp he).1
      (fun _ ↦ rfl) (fun _ ↦ rfl) (fun _ ↦ rfl)
  | duplicateBlock id =>
    obtain ⟨e, he, rfl⟩ := Editing.gives_map.mp h
    exact Editor.changes_duplicateBlock he
  | addConnection source sourcePort target targetPort =>
    obtain ⟨e, he, rfl⟩ := Editing.gives_map.mp h
    exact Editor.changes_addConnection he
  | removeConnection id =>
    obtain ⟨e, he, rfl⟩ := Editing.gives_map.mp h
    exact Editor.changes_removeConnection (Editing.gives_ofExcept.mp he).1

/-! ### A session of changes -/

/-- The workflow after a change that is asked for, with ids that count from a number on. It is as
before if the change is refused, and if the change has no result. -/
def EditCall.after (r : Registry) (w : Workflow) (call : EditCall) (n : Nat) : Workflow :=
  match (call.run r w).runFrom n with
  | some (.ok e, _) => e.workflow
  | _ => w

/-- The workflow after changes that are asked for one after the other, each with the number that its
ids count from. -/
def Workflow.edited (w : Workflow) (r : Registry) (calls : List (EditCall × Nat)) : Workflow :=
  calls.foldl (fun w call ↦ call.1.after r w call.2) w

theorem EditCall.after_eq_or_changes (r : Registry) (w : Workflow) (call : EditCall) (n : Nat) :
    call.after r w n = w ∨ w.Changes r (call.after r w n) := by
  rw [after]
  split
  · next e m h => exact .inr (changes_of_gives h)
  · exact .inl rfl

/-- What every change keeps is kept by all of them together. -/
theorem Workflow.edited_induction {r : Registry} {w : Workflow} {p : Workflow → Prop}
    (hstart : p w) (hstep : ∀ v u, p v → v.Changes r u → p u) (calls : List (EditCall × Nat)) :
    p (w.edited r calls) := by
  induction calls generalizing w with
  | nil => exact hstart
  | cons call calls ih =>
    have hafter : p (call.1.after r w call.2) := by
      rcases call.1.after_eq_or_changes r w call.2 with hsame | hchanges
      · rwa [hsame]
      · exact hstep w _ hstart hchanges
    exact ih hafter

end Blockflow
