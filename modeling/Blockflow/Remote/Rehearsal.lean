import Blockflow.Remote.Tracker
import Blockflow.Remote.Store

/-!
# Rehearsals

A remote side that lives in memory and answers from a script. Its clock stands still unless someone
waits. Every call is written down with its time.

Component `testing` of `workflow-sync`; specification B.4.
-/

namespace Blockflow

/-- A remote side in memory. Record `FakeRemote`. -/
structure Rehearsal where
  /-- The milliseconds since the beginning. -/
  clock : Nat
  /-- The files. -/
  store : Store
  /-- The numbers of the runs, the oldest first. -/
  runs : List Nat
  /-- The number that the next run gets. -/
  nextRun : Nat
  /-- For how many lists of runs a new run stays out of sight. -/
  hideFor : Nat
  /-- For how many lists the newest run is still out of sight. -/
  hidden : Nat
  /-- What is said about runs, one reply after the other. -/
  replies : List PollReply
  /-- Failures of calls by their names; each of them happens once. -/
  failures : List (String × RemoteError)
  /-- The calls so far with their times, the latest first. -/
  log : List (Nat × Call)
deriving Inhabited

namespace Rehearsal

/-- The number that the first started run gets. -/
def firstRun : Nat := 100

/-- The beginning of a rehearsal. -/
def start (store : Store) (runs : List Nat) (hideFor : Nat) (replies : List PollReply)
    (failures : List (String × RemoteError)) : Rehearsal :=
  { clock := 0, store, runs, nextRun := firstRun, hideFor, hidden := 0, replies, failures,
    log := [] }

/-- Lets time pass. -/
def elapse (r : Rehearsal) (ms : Nat) : Rehearsal := { r with clock := r.clock + ms }

/-- The calls that are written down, the earliest first. -/
def calls (r : Rehearsal) : List (Nat × Call) := r.log.reverse

/-- The entry of a list of runs; nothing but its number is known. -/
def summary (run : Nat) : RunSummary :=
  { id := run, status := .queued, conclusion := none, branch := none, createdAt := default,
    link := none }

/-- The runs that a list shows, the newest first. -/
def shownRuns (r : Rehearsal) : List RunSummary :=
  ((if r.hidden = 0 then r.runs else r.runs.dropLast).map summary).reverse

/-- What the remote side makes of a call that does not fail by the script. The answers of
`FakeRemote`. -/
def reply (r : Rehearsal) : (c : Call) → c.Outcome × Rehearsal
  | .getFile path => (.ok (r.store.file? path), r)
  | .putFile w =>
    match r.store.put w with
    | .ok (version, store) => (.ok version, { r with store })
    | .error e => (.error e, r)
  | .deleteFile path version _ =>
    match r.store.delete path version with
    | .ok store => (.ok (), { r with store })
    | .error e => (.error e, r)
  | .listRuns _ => (.ok r.shownRuns, { r with hidden := r.hidden - 1 })
  | .runDetail run =>
    match r.replies with
    | [] => (.error (.notFound ("run " ++ toString run)), r)
    | reply :: replies => (reply, { r with replies })
  | .triggerRun .. =>
    (.ok (),
      { r with runs := r.runs ++ [r.nextRun], nextRun := r.nextRun + 1, hidden := r.hideFor })

/-- Writes a call down and answers it: with the first failure that the script has for it, if there
is one. -/
def answer (r : Rehearsal) (c : Call) : c.Outcome × Rehearsal :=
  let r := { r with log := (r.clock, c) :: r.log }
  match r.failures.find? fun f ↦ f.1 == c.name with
  | some (_, e) => (.error e, { r with failures := r.failures.eraseP fun f ↦ f.1 == c.name })
  | none => r.reply c

end Rehearsal

end Blockflow
