import Blockflow.Block.Catalog
import Blockflow.Proofs.Graph.Order
import Blockflow.Proofs.Remote.Session
import Blockflow.Proofs.Workflow.First
import Blockflow.Remote.Scene

/-!
# What is told of changes is all of them

A listener that starts from a workflow and takes up every event that is told has the same blocks and
the same connections as the workflow itself, in the same order, whatever changes are asked for. The
ids have to be distinct, since an event tells a block or a connection by its id. A refused change
tells nothing.
-/

namespace Blockflow

/-- What a listener makes of an event: a new block and a new connection go to the end, and a block
or a connection that has changed or is gone is found by its id. -/
def Event.applyTo (w : Workflow) : Event → Workflow
  | .blockAdded _ b => { w with blocks := w.blocks ++ [b] }
  | .blockRemoved _ id => { w with blocks := w.blocks.filter fun b ↦ b.id != id }
  | .blockUpdated _ b => { w with blocks := w.blocks.map fun c ↦ if c.id = b.id then b else c }
  | .connectionAdded _ c => { w with connections := w.connections ++ [c] }
  | .connectionRemoved _ id => { w with connections := w.connections.filter fun c ↦ c.id != id }
  | .problemsChanged .. | .blockMoved .. | .runMoved .. | .healthChanged .. => w

/-- What is told of a change that is asked for, with ids that count from a number on: nothing if it
is refused, and nothing if it has no result. -/
def EditCall.told (r : Registry) (w : Workflow) (call : EditCall) (n : Nat) : List Event :=
  match (call.run r w).runFrom n with
  | some (.ok e, _) => e.events
  | _ => []

namespace Workflow

/-- The workflow that a listener has after some events. -/
def replay (w : Workflow) (events : List Event) : Workflow := events.foldl Event.applyTo w

/-- What is told of changes that are asked for one after the other, each with the number that its
ids count from. -/
def told (r : Registry) : Workflow → List (EditCall × Nat) → List Event
  | _, [] => []
  | w, (call, n) :: calls => call.told r w n ++ told r (call.after r w n) calls

/-- No two blocks have the same id, and no two connections. -/
structure Distinct (w : Workflow) : Prop where
  /-- No two blocks have the same id. -/
  blockIds : w.DistinctIds
  /-- No two connections have the same id. -/
  connectionIds : (w.connections.map (·.id)).Nodup

instance (w : Workflow) : Decidable w.Distinct :=
  decidable_of_iff (w.DistinctIds ∧ (w.connections.map (·.id)).Nodup)
    ⟨fun ⟨hb, hc⟩ ↦ ⟨hb, hc⟩, fun ⟨hb, hc⟩ ↦ ⟨hb, hc⟩⟩

/-- What each change tells. -/
inductive Tells (w : Workflow) : Workflow → List Event → Prop where
  /-- The new block. -/
  | append (b : Block) : Tells w (w.append b) [.blockAdded w.id b]
  /-- Each connection at the block that is gone, and then the block. -/
  | removeBlock (b : Block) (hb : b ∈ w.blocks) :
      Tells w (w.removeBlock b.id)
        ((w.touching b.id).map (fun c ↦ .connectionRemoved w.id c.id) ++ [.blockRemoved w.id b.id])
  /-- The block as it is now. -/
  | changeBlock (b : Block) (hb : b ∈ w.blocks) (f : Block → Block) (hid : (f b).id = b.id) :
      Tells w (w.changeBlock b.id f) [.blockUpdated w.id (f b)]
  /-- The new connection. -/
  | connect (c : Connection) : Tells w (w.connect c) [.connectionAdded w.id c]
  /-- The connection that is gone. -/
  | removeConnection (c : Connection) :
      Tells w (w.removeConnection c.id) [.connectionRemoved w.id c.id]

end Workflow

/-! ### Every change tells what it does -/

namespace Editor

open Workflow

variable {r : Registry} {w : Workflow} {id tag : String} {n m : Nat} {e : Edit Block}

private theorem of_block_eq_ok {b : Block} (h : block w id = .ok b) : b ∈ w.blocks ∧ b.id = id := by
  rw [block_eq_ok] at h
  exact ⟨List.mem_of_find?_eq_some h, by simpa using List.find?_some h⟩

private theorem tells_addBlock {position : Position} {config : Settings}
    (h : (addBlock r w tag position config).Gives n e m) : w.Tells e.workflow e.events := by
  obtain ⟨d, -, h⟩ := Editing.gives_ofExcept_bind.mp h
  obtain ⟨fresh, k, -, h⟩ := Editing.gives_bind.mp h
  obtain ⟨config, -, h⟩ := Editing.gives_ofExcept_bind.mp h
  obtain ⟨rfl, -⟩ := Editing.gives_pure.mp h
  exact .append _

private theorem tells_duplicateBlock (h : (duplicateBlock r w id).Gives n e m) :
    w.Tells e.workflow e.events := by
  obtain ⟨b, -, h⟩ := Editing.gives_ofExcept_bind.mp h
  obtain ⟨d, -, h⟩ := Editing.gives_ofExcept_bind.mp h
  obtain ⟨fresh, k, -, h⟩ := Editing.gives_bind.mp h
  obtain ⟨rfl, -⟩ := Editing.gives_pure.mp h
  exact .append _

private theorem tells_removeBlock (h : removeBlock w id = .ok e) :
    w.Tells e.workflow e.events := by
  obtain ⟨b, hb, h⟩ := except_bind_eq_ok.mp h
  obtain ⟨hmem, rfl⟩ := of_block_eq_ok hb
  obtain rfl := Except.ok.inj h
  exact .removeBlock b hmem

private theorem tells_updateBlock {f : Block → Block} (h : updateBlock w id f = .ok e)
    (hid : ∀ b, (f b).id = b.id) : w.Tells e.workflow e.events := by
  obtain ⟨b, hb, h⟩ := except_bind_eq_ok.mp h
  obtain ⟨hmem, rfl⟩ := of_block_eq_ok hb
  obtain rfl := Except.ok.inj h
  exact .changeBlock b hmem f (hid b)

private theorem tells_updateConfig {patch : Settings} (h : updateConfig r w id patch = .ok e) :
    w.Tells e.workflow e.events := by
  obtain ⟨b, -, h⟩ := except_bind_eq_ok.mp h
  obtain ⟨d, -, h⟩ := except_bind_eq_ok.mp h
  obtain ⟨config, -, h⟩ := except_bind_eq_ok.mp h
  exact tells_updateBlock h fun _ ↦ rfl

private theorem tells_addConnection {source sourcePort target targetPort : String}
    {e : Edit Connection}
    (h : (addConnection r w source sourcePort target targetPort).Gives n e m) :
    w.Tells e.workflow e.events := by
  obtain ⟨ends, -, h⟩ := Editing.gives_ofExcept_bind.mp h
  obtain ⟨_, -, h⟩ := Editing.gives_ofExcept_bind.mp h
  obtain ⟨fresh, k, -, h⟩ := Editing.gives_bind.mp h
  obtain ⟨rfl, -⟩ := Editing.gives_pure.mp h
  exact .connect _

private theorem tells_removeConnection {e : Edit Connection}
    (h : removeConnection w id = .ok e) : w.Tells e.workflow e.events := by
  rw [removeConnection] at h
  split at h
  · cases h
  · next c hc =>
    obtain rfl : c.id = id := by simpa using List.find?_some hc
    obtain rfl := Except.ok.inj h
    exact .removeConnection c

end Editor

/-- A change that is made tells what it does. -/
theorem EditCall.tells_of_gives {r : Registry} {w : Workflow} {call : EditCall} {n m : Nat}
    {e : Edit EditAnswer} (h : (call.run r w).Gives n e m) : w.Tells e.workflow e.events := by
  cases call with
  | addBlock tag position config =>
    obtain ⟨e, he, rfl⟩ := Editing.gives_map.mp h
    exact Editor.tells_addBlock he
  | removeBlock id =>
    obtain ⟨e, he, rfl⟩ := Editing.gives_map.mp h
    exact Editor.tells_removeBlock (Editing.gives_ofExcept.mp he).1
  | updateConfig id patch =>
    obtain ⟨e, he, rfl⟩ := Editing.gives_map.mp h
    exact Editor.tells_updateConfig (Editing.gives_ofExcept.mp he).1
  | updateLabel id label =>
    obtain ⟨e, he, rfl⟩ := Editing.gives_map.mp h
    exact Editor.tells_updateBlock (Editing.gives_ofExcept.mp he).1 fun _ ↦ rfl
  | updatePosition id position =>
    obtain ⟨e, he, rfl⟩ := Editing.gives_map.mp h
    exact Editor.tells_updateBlock (Editing.gives_ofExcept.mp he).1 fun _ ↦ rfl
  | duplicateBlock id =>
    obtain ⟨e, he, rfl⟩ := Editing.gives_map.mp h
    exact Editor.tells_duplicateBlock he
  | addConnection source sourcePort target targetPort =>
    obtain ⟨e, he, rfl⟩ := Editing.gives_map.mp h
    exact Editor.tells_addConnection he
  | removeConnection id =>
    obtain ⟨e, he, rfl⟩ := Editing.gives_map.mp h
    exact Editor.tells_removeConnection (Editing.gives_ofExcept.mp he).1

namespace Workflow

variable {r : Registry} {w v : Workflow} {events : List Event}

/-! ### Ids stay distinct -/

private theorem nodup_append_new {ids : List String} {id : String} (h : ids.Nodup)
    (hid : id ∉ ids) : (ids ++ [id]).Nodup := by
  simpa using h.concat hid

/-- A change that is made keeps the ids distinct. -/
theorem Distinct.changes (hd : w.Distinct) (h : w.Changes r v) : v.Distinct := by
  cases h with
  | append b hid _ =>
    refine ⟨?_, hd.connectionIds⟩
    rw [DistinctIds, append, List.map_append]
    exact nodup_append_new hd.blockIds hid
  | removeBlock id =>
    exact ⟨hd.blockIds.sublist (List.eraseP_sublist.map _),
      hd.connectionIds.sublist (List.filter_sublist.map _)⟩
  | changeBlock id f hid _ _ =>
    refine ⟨?_, hd.connectionIds⟩
    rw [DistinctIds, changeBlock, map_changeFirst hid]
    exact hd.blockIds
  | connect c _ hid _ _ =>
    refine ⟨hd.blockIds, ?_⟩
    rw [connect, List.map_append]
    exact nodup_append_new hd.connectionIds hid
  | removeConnection id =>
    exact ⟨hd.blockIds, hd.connectionIds.sublist (List.eraseP_sublist.map _)⟩

theorem Distinct.after (hd : w.Distinct) (r : Registry) (call : EditCall) (n : Nat) :
    (call.after r w n).Distinct := by
  rcases call.after_eq_or_changes r w n with hsame | hchanges
  · rwa [hsame]
  · exact hd.changes hchanges

/-! ### Every change is found in what it tells -/

@[simp] theorem replay_append (w : Workflow) (events more : List Event) :
    w.replay (events ++ more) = (w.replay events).replay more :=
  List.foldl_append

/-- Connections that are told to be gone one after the other are all gone. -/
private theorem replay_connectionRemoved (w : Workflow) (id : String) (gone : List Connection) :
    w.replay (gone.map fun c ↦ .connectionRemoved id c.id) =
      { w with connections := w.connections.filter fun c ↦ c.id ∉ gone.map (·.id) } := by
  induction gone generalizing w with
  | nil => simp [replay]
  | cons d gone ih =>
    rw [List.map_cons, replay, List.foldl_cons, ← replay, ih]
    simp only [Event.applyTo, List.filter_filter, List.map_cons, List.mem_cons, not_or]
    congr 2
    funext c
    rw [Bool.and_comm]
    simp [bne, beq_eq_decide]

/-- To drop the connections that share an id with one at a block is to drop those at the block. -/
private theorem filter_touching (hd : w.Distinct) (id : String) :
    (w.connections.filter fun c ↦ c.id ∉ (w.touching id).map (·.id)) =
      w.connections.filter fun c ↦ !c.touches id := by
  refine List.filter_congr fun c hc ↦ ?_
  have hmem : c.id ∈ (w.touching id).map (·.id) ↔ c.touches id = true := by
    constructor
    · intro hid
      obtain ⟨d, hd', heq⟩ := List.mem_map.mp hid
      obtain ⟨hmem, htouches⟩ := List.mem_filter.mp hd'
      obtain rfl := List.inj_on_of_nodup_map hd.connectionIds hmem hc heq
      exact htouches
    · exact fun htouches ↦ List.mem_map_of_mem (List.mem_filter.mpr ⟨hc, htouches⟩)
  simp [hmem]

/-- A listener that takes up what a change tells has the workflow after it. -/
theorem Distinct.replay_of_tells (hd : w.Distinct) (h : w.Tells v events) :
    w.replay events = v := by
  cases h with
  | append b => rfl
  | removeBlock b hb =>
    rw [replay_append, replay_connectionRemoved, filter_touching hd, removeBlock,
      eraseP_eq_filter (pairwise_of_nodup_map hd.blockIds b.id)]
    rfl
  | changeBlock b hb f hid =>
    rw [changeBlock, changeFirst_eq_map (pairwise_of_nodup_map hd.blockIds b.id)]
    have hmap : (w.blocks.map fun c ↦ if c.id = (f b).id then f b else c) =
        w.blocks.map fun c ↦ if (c.id == b.id) = true then f c else c := by
      refine List.map_congr_left fun c hc ↦ ?_
      by_cases hcb : c.id = b.id
      · obtain rfl := hd.blockIds.eq_of_id_eq hc hb hcb
        simp [hid]
      · simp [hid, hcb]
    exact congrArg (fun blocks ↦ { w with blocks }) hmap
  | connect c => rfl
  | removeConnection c =>
    rw [removeConnection, eraseP_eq_filter (pairwise_of_nodup_map hd.connectionIds c.id)]
    rfl

/-- A listener that takes up what is told of a change that is asked for has the workflow after it,
whether it is made or not. -/
private theorem replay_told_call (hd : w.Distinct) (r : Registry) (call : EditCall) (n : Nat) :
    w.replay (call.told r w n) = call.after r w n := by
  rcases hrun : (call.run r w).runFrom n with _ | ⟨error | e, m⟩
  · simp [EditCall.told, EditCall.after, hrun, replay]
  · simp [EditCall.told, EditCall.after, hrun, replay]
  · simpa [EditCall.told, EditCall.after, hrun] using
      hd.replay_of_tells (EditCall.tells_of_gives hrun)

/-- Whatever changes are asked for, a listener that starts from the same workflow and takes up what
is told of them has the blocks and the connections that there are in the end; and a change that is
refused tells nothing and changes nothing. -/
theorem replay_told (r : Registry) (w : Workflow) (hd : w.Distinct)
    (calls : List (EditCall × Nat)) :
    w.replay (w.told r calls) = w.edited r calls ∧
      ∀ v call n error m, (EditCall.run r v call).runFrom n = some (.error error, m) →
        call.told r v n = [] ∧ call.after r v n = v := by
  constructor
  · induction calls generalizing w with
    | nil => rfl
    | cons call calls ih =>
      rw [told, replay_append, replay_told_call hd, ih _ (hd.after r call.1 call.2)]
      rfl
  · intro v call n error m h
    simp [EditCall.told, EditCall.after, h]

/-- A workflow of a trigger and two steps one after the other. -/
private def relayed : Workflow :=
  let block (id : String) (kind : Kind) : Block := ⟨id, kind.tag, .origin, .empty, none⟩
  { id := "wf", name := "CI", description := ""
    blocks := [block "t" .triggerPush, block "a" .jobCheckout, block "b" .jobLint]
    connections := [⟨"1", "t", "out", "a", "in"⟩, ⟨"2", "a", "out", "b", "in"⟩] }

/-- A copy, a label, a connection that would lead back, and the end of a block with two
connections. -/
private def revisions : List (EditCall × Nat) :=
  [(.duplicateBlock "b", 7), (.updateLabel "b" (some "Lint"), 0),
    (.addConnection "b" "out" "a" "in", 0), (.removeBlock "a", 0)]

theorem replay_told_relayed : relayed.Distinct ∧
    (relayed.told .builtin revisions).length = 5 ∧
    relayed.replay (relayed.told .builtin revisions) = relayed.edited .builtin revisions :=
  have hd : relayed.Distinct := by decide +kernel
  ⟨hd, by decide +kernel, (replay_told .builtin relayed hd revisions).1⟩

end Workflow

/-! ### In a session -/

namespace Session

/-- The problems that are told change nothing of what a listener has. -/
theorem replay_revalidate (s : Session) (w : Workflow) : w.replay s.revalidate.2 = w := by
  rw [revalidate]
  split <;> rfl

/-- A listener that takes up what a session tells of a change has the workflow of the session. -/
theorem replay_edit {s t : Session} {call : EditCall} {n m : Nat} {answer : EditAnswer}
    {events : List Event} (hd : s.workflow.Distinct)
    (h : (s.edit call).Gives n (answer, t, events) m) :
    s.workflow.replay events = t.workflow ∧ t.workflow.Distinct := by
  obtain ⟨e, he, -, rfl, rfl⟩ := gives_edit.mp h
  rw [Workflow.replay_append, hd.replay_of_tells (EditCall.tells_of_gives he), workflow_commit]
  exact ⟨replay_revalidate _ _, hd.changes (EditCall.changes_of_gives he)⟩

end Session

/-- A change that is refused uses up ids at most: the session is as before, and nothing is told. -/
theorem Scene.edit_refused {s t : Scene} {call : EditCall} {e : EditError}
    (h : s.edit call = some (.error e, t)) : t = { s with nextId := t.nextId } := by
  obtain ⟨⟨_ | ⟨answer, session, events⟩, nextId⟩, -, h⟩ := Option.bind_eq_some_iff.mp h
  · obtain ⟨-, rfl⟩ := Prod.mk.inj (Option.some.inj h)
    rfl
  · cases h

end Blockflow
