import Blockflow.Remote.Call

/-!
# A store of files

Files that several people write. Every write gives a version that no other write gives, and whoever
writes or deletes a file says which version of it they know: a file that has got another version
meanwhile stays as it is.

Component `testing` of `workflow-sync`; specification §6 and B.4.
-/

namespace Blockflow

/-- A file in a store. -/
structure StoredFile where
  /-- Its version. -/
  version : String
  /-- What it holds. -/
  content : String
deriving DecidableEq, Inhabited

/-- Files with versions. The files of `FakeRemote`. -/
structure Store where
  /-- The files by their paths. -/
  files : Dict StoredFile
  /-- How many writes there have been. -/
  writes : Nat
deriving DecidableEq, Inhabited

namespace Store

/-- The store without files. -/
def empty : Store := ⟨.empty, 0⟩

/-- The version that a write gives, by the number of writes before it. -/
def versionName (n : Nat) : String := "sha-" ++ toString n

/-- The version of a file. Part of `FakeRemote.put_file`. -/
def version? (s : Store) (path : String) : Option String := (s.files.get? path).map (·.version)

/-- A file. -/
def file? (s : Store) (path : String) : Option RemoteFile :=
  (s.files.get? path).map fun f ↦ ⟨path, f.version, f.content⟩

/-- The version that the next write gives. Function `mint_sha`. -/
def nextVersion (s : Store) : String := versionName s.writes

/-- The store after a file has been written, whatever its version was. -/
def write (s : Store) (path content : String) : Store :=
  ⟨s.files.insert path ⟨s.nextVersion, content⟩, s.writes + 1⟩

/-- The store with files that are written one after the other. -/
def ofDict (files : Dict String) : Store :=
  files.entries.foldl (fun s e ↦ s.write e.1 e.2) empty

/-- Writes a file of which the given version is known; no version stands for no file. Function
`FakeRemote.put_file`. -/
def put (s : Store) (w : FileWrite) : Except RemoteError (String × Store) :=
  if s.version? w.path = w.version then .ok (s.nextVersion, s.write w.path w.content)
  else .error (.conflict w.path (s.version? w.path))

/-- Deletes a file of which the given version is known. Function `FakeRemote.delete_file`. -/
def delete (s : Store) (path version : String) : Except RemoteError Store :=
  match s.version? path with
  | none => .error (.notFound path)
  | some v =>
    if v = version then .ok { s with files := s.files.erase path }
    else .error (.conflict path (some v))

end Store

end Blockflow
