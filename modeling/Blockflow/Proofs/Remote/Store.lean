import Blockflow.Proofs.Dict
import Blockflow.Proofs.Pipeline.Keys
import Blockflow.Remote.Store

/-!
# Versions tell writes apart

Every file in a store is as one of the writes before has left it, and its version is the name of
that write alone. So a version means one content at one path, whatever has been written, overwritten
and deleted meanwhile.
-/

namespace Blockflow.Store

variable {s t : Store} {path content other version : String} {f g : RemoteFile}
  {log more : List RemoteFile}

theorem versionName_injective : Function.Injective versionName := fun _ _ h ↦
  Plan.toString_injective ((String.append_right_inj _).mp h)

theorem path_of_file? (h : s.file? path = some f) : f.path = path := by
  obtain ⟨_, -, rfl⟩ := Option.map_eq_some_iff.mp h
  rfl

theorem version?_eq (s : Store) (path : String) :
    s.version? path = (s.file? path).map (·.version) := by
  rw [version?, file?, Option.map_map]
  rfl

theorem file?_write (s : Store) (path content other : String) :
    (s.write path content).file? other =
      if other = path then some ⟨path, s.nextVersion, content⟩ else s.file? other := by
  simp only [file?, write, Dict.get?_insert]
  split
  · next h => rw [h, Option.map_some]
  · rfl

/-- The store without a file. -/
def erase (s : Store) (path : String) : Store := { s with files := s.files.erase path }

theorem file?_erase (s : Store) (path other : String) :
    (s.erase path).file? other = if other = path then none else s.file? other := by
  simp only [file?, erase, Dict.get?_erase]
  split <;> rfl

/-- A put writes the file and answers its new version, if the version that it knows is the one that
there is. -/
theorem put_eq_ok {w : FileWrite} : s.put w = .ok (version, t) ↔
    s.version? w.path = w.version ∧ s.nextVersion = version ∧ s.write w.path w.content = t := by
  rw [put]
  split
  · next h => simp [h]
  · next h => simp [h]

/-- A deletion takes the file away, if the version that it knows is the one that there is. -/
theorem delete_eq_ok : s.delete path version = .ok t ↔
    s.version? path = some version ∧ s.erase path = t := by
  rw [delete]
  split
  · next h => simp [h]
  · next v h =>
    split
    · next hv => simp [h, hv, erase]
    · next hv => simp [h, hv]

/-! ### The writes behind the files -/

/-- Whether a file is as one of the writes has left it, and has its version from it. -/
def Logged (log : List RemoteFile) (f : RemoteFile) : Prop :=
  ∃ n, log[n]? = some f ∧ f.version = versionName n

theorem Logged.append (h : Logged log f) (more : List RemoteFile) : Logged (log ++ more) f := by
  obtain ⟨n, hn, hversion⟩ := h
  exact ⟨n, List.getElem?_append_left (List.getElem?_eq_some_iff.mp hn).1 ▸ hn, hversion⟩

/-- A version belongs to one write. -/
theorem Logged.eq_of_version_eq (hf : Logged log f) (hg : Logged log g)
    (h : f.version = g.version) : f = g := by
  obtain ⟨m, hm, hfm⟩ := hf
  obtain ⟨n, hn, hgn⟩ := hg
  obtain rfl := versionName_injective (hfm.symm.trans (h.trans hgn))
  exact Option.some.inj (hm.symm.trans hn)

/-- Whether a list holds what the writes to a store have written, in their order. -/
structure WrittenAs (s : Store) (log : List RemoteFile) : Prop where
  /-- There is an entry for each write. -/
  length_eq : log.length = s.writes
  /-- Every file comes from one of them. -/
  logged : ∀ path f, s.file? path = some f → Logged log f

theorem writtenAs_empty : empty.WrittenAs [] where
  length_eq := rfl
  logged path f h := by cases h

theorem WrittenAs.logged_nextVersion (h : s.WrittenAs log) :
    Logged (log ++ [⟨path, s.nextVersion, content⟩]) ⟨path, s.nextVersion, content⟩ :=
  ⟨log.length, by simp, by rw [h.length_eq]; rfl⟩

theorem WrittenAs.write (h : s.WrittenAs log) (path content : String) :
    (s.write path content).WrittenAs (log ++ [⟨path, s.nextVersion, content⟩]) where
  length_eq := by simp [Store.write, h.length_eq]
  logged other f hf := by
    rw [file?_write] at hf
    split at hf
    · obtain rfl := Option.some.inj hf
      exact h.logged_nextVersion
    · exact (h.logged other f hf).append _

theorem WrittenAs.erase (h : s.WrittenAs log) (path : String) : (s.erase path).WrittenAs log where
  length_eq := h.length_eq
  logged other f hf := by
    rw [file?_erase] at hf
    split at hf
    · cases hf
    · exact h.logged other f hf

/-- Behind the files that a store starts with there are writes too. -/
theorem exists_writtenAs_ofDict (files : Dict String) : ∃ log, (ofDict files).WrittenAs log := by
  suffices ∀ (l : List (String × String)) s log, WrittenAs s log →
      ∃ log, (l.foldl (fun s e ↦ s.write e.1 e.2) s).WrittenAs log from
    this files.entries empty [] writtenAs_empty
  intro l
  induction l with
  | nil => exact fun s log h ↦ ⟨log, h⟩
  | cons e l ih => exact fun s log h ↦ ih _ _ (h.write e.1 e.2)

end Blockflow.Store
