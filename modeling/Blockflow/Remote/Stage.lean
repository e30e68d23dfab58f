import Blockflow.Remote.Follower
import Blockflow.Remote.Rehearsal

/-!
# A rehearsal with a follower

Someone works with a remote side in memory, while a follower works in the background. The follower
acts only while the other one waits, and of two who wake up at the same time the other one comes
first.

Components `tracker` and `testing` of `workflow-sync`; specification §5.
-/

namespace Blockflow

/-- A remote side in memory with a follower in the background. -/
structure Stage where
  /-- The remote side. -/
  remote : Rehearsal
  /-- The follower, if there is one. -/
  follower : Option Follower
  /-- The events so far, the latest first. -/
  told : List Event
deriving Inhabited

namespace Stage

/-- A stage without a follower. -/
def ofRemote (r : Rehearsal) : Stage := ⟨r, none, []⟩

/-- Tells events. -/
def tell (s : Stage) (events : List Event) : Stage := { s with told := events.reverse ++ s.told }

/-- The events so far, the earliest first. -/
def events (s : Stage) : List Event := s.told.reverse

/-- At most so many questions can be asked before a follower gets an answer that ends it. -/
def questions (s : Stage) : Nat := s.remote.replies.length + s.remote.failures.length + 1

/-- The follower looks whether to go on, and asks if so. -/
def turn (s : Stage) (f : Follower) : Stage :=
  let f := f.look
  match f.phase with
  | .asking =>
    let (reply, remote) := s.remote.answer (.runDetail f.tracker.execution.run)
    let (f, events) := f.receive reply
    { s with remote, follower := some f }.tell events
  | _ => { s with follower := some f }

/-- At most so many turns of the follower, until it has to wait or has ended. -/
def actUpTo : Nat → Stage → Stage
  | 0, s => s
  | turns + 1, s =>
    match s.follower with
    | none => s
    | some f =>
      match f.phase with
      | .ready => actUpTo turns (s.turn f)
      | .waiting 0 => actUpTo turns (s.turn (f.elapse 0))
      | _ => s

/-- The follower acts until it has to wait or has ended. -/
def act (s : Stage) : Stage := actUpTo (s.questions + 1) s

/-- How long the follower still waits. -/
def wakesIn? (s : Stage) : Option Nat :=
  s.follower.bind fun f ↦
    match f.phase with
    | .waiting ms => some ms
    | _ => none

/-- Lets time pass in which nobody acts. -/
def elapse (s : Stage) (ms : Nat) : Stage :=
  { s with remote := s.remote.elapse ms, follower := s.follower.map (·.elapse ms) }

/-- Lets time pass, in which the follower wakes up at most so often. -/
def waitUpTo : Nat → Nat → Stage → Stage
  | 0, ms, s => s.elapse ms
  | wakes + 1, ms, s =>
    let s := s.act
    match s.wakesIn? with
    | some left => if left < ms then waitUpTo wakes (ms - left) (s.elapse left) else s.elapse ms
    | none => s.elapse ms

/-- Waits, while the follower acts. A wait of no time lets nobody else act. -/
def wait (s : Stage) (ms : Nat) : Stage :=
  if ms = 0 then s else waitUpTo s.questions ms s

/-- Waits for the follower to end by itself; it wakes up at most so often. -/
def joinUpTo : Nat → Stage → Stage
  | 0, s => s.act
  | wakes + 1, s =>
    let s := s.act
    match s.wakesIn? with
    | some left => joinUpTo wakes (s.elapse left)
    | none => s

/-- Waits for the follower to end by itself. -/
def join (s : Stage) : Stage := joinUpTo s.questions s

/-- Sends the follower a signal to stop. -/
def signal (s : Stage) : Stage := { s with follower := s.follower.map (·.stop) }

/-- Stops the follower and waits until it has ended. -/
def stop (s : Stage) : Stage := s.signal.act

/-- A new follower. -/
def follow (s : Stage) (t : Tracker) : Stage := { s with follower := some (.new t) }

/-- Leads a procedure. -/
def perform {α : Type} (p : Procedure α) : StateM Stage (Except SyncError α) :=
  p.run.lead fun
    | .call c => modifyGet fun s ↦
      let (outcome, remote) := s.remote.answer c
      (outcome, { s with remote })
    | .wait ms => modify fun s ↦ s.wait ms

end Stage

end Blockflow
