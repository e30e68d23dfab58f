import Blockflow.Command.Run
import Blockflow.Http.Wire
import Std.Internal.UV.DNS
import Std.Internal.UV.TCP
import Std.Time.DateTime

/-!
# The program

Answers the questions of a command with the files, the environment, the network and the clock of
the machine that it runs on.
-/

namespace Blockflow.Command.Machine

open Std.Internal.UV Std.Net

/-- What an error of the system means for a file. -/
def fileError : IO.Error → FileError
  | .noFileOrDirectory .. => .missing
  | .permissionDenied .. => .denied
  | .inappropriateType _ 20 _ => .notDirectory
  | .inappropriateType _ 21 _ => .isDirectory
  | e => .other (toString e)

/-- The text of a file. -/
def read (path : String) : IO (Except FileError String) := do
  try
    match String.fromUTF8? (← IO.FS.readBinFile path) with
    | some text => return .ok text
    | none => return .error .notText
  catch e => return .error (fileError e)

/-- What stands at a path, if anything does. -/
def find (path : String) : IO (Option (Except FileError String)) := do
  match ← read path with
  | .error .missing | .error .notDirectory => return none
  | found => return some found

/-- Writes a file. -/
def write (path text : String) : IO (Except FileError Unit) := do
  try
    IO.FS.writeFile path text
    return .ok ()
  catch e => return .error (fileError e)

/-- Waits for a promise of the network. -/
def await {α : Type} (p : IO.Promise (Except IO.Error α)) : IO α := do
  match ← IO.wait p.result? with
  | some x => IO.ofExcept x
  | none => throw (IO.userError "no answer")

/-- The address of a host. -/
def resolve (host : String) (port : UInt16) : IO SocketAddress := do
  match IPv4Addr.ofString host with
  | some addr => return .v4 ⟨addr, port⟩
  | none =>
    let found : Array IPAddr ← await (← DNS.getAddrInfo host (toString port) 0)
    match found.toList with
    | .v4 addr :: _ => return .v4 ⟨addr, port⟩
    | .v6 addr :: _ => return .v6 ⟨addr, port⟩
    | [] => throw (IO.userError "unknown host")

/-- Everything that comes from a connection before it ends. -/
partial def receiveAll (socket : TCP.Socket) (done : ByteArray) : IO ByteArray := do
  let more ←
    try await (← socket.recv? 65536)
    catch _ => pure none
  match more with
  | some bytes => receiveAll socket (done ++ bytes)
  | none => return done

/-- Sends a request. -/
def send (r : Http.Request) : IO Http.Exchange := do
  match Http.Address.parse? r.url with
  | none => return .unwritten
  | some a =>
    if a.secure then return .broken
    try
      let socket ← TCP.Socket.new
      await (← socket.connect (← resolve a.host a.port.toUInt16))
      await (← socket.send #[(r.render a).toUTF8])
      let bytes ← receiveAll socket .empty
      return .parse bytes.data.toList
    catch _ => return .broken

/-- Waits so many milliseconds. -/
partial def wait (ms : Nat) : IO Unit := do
  let most := 1000000
  if ms ≤ most then IO.sleep ms.toUInt32
  else
    IO.sleep most.toUInt32
    wait (ms - most)

/-- The time on the clock. -/
def now : IO Timestamp := do
  return .ofNanoseconds (← Std.Time.Timestamp.now).toNanosecondsSinceUnixEpoch.val.toNat

/-- An id from random bytes. -/
def freshId : IO String := do
  return Ids.random ((← IO.getRandomBytes 16).data.foldl (fun n b ↦ n * 256 + b.toNat) 0)

/-- Answers a question. -/
def answer : (q : Question) → IO (Answer q)
  | .find path => find path
  | .read path => read path
  | .write path text => write path text
  | .token => IO.getEnv "GITHUB_TOKEN"
  | .send r => send r
  | .wait ms => wait ms
  | .now => now
  | .freshId => freshId
  | .print o => do
    let out ← IO.getStdout
    out.putStr o.render
    out.flush

/-- What is shown to those who ask for help. -/
def usage : String :=
  "Build and run GitHub Actions workflows from block graphs

Usage: flowctl [--config <CONFIG>] <COMMAND>

Commands:
  blocks    List available block types [--category <CATEGORY>]
  validate  Validate a workflow file and report every problem <FILE> [--json]
  compile   Compile a workflow file to pipeline YAML <FILE> [--output <OUTPUT>]
  deploy    Push the compiled workflow to the repository <FILE> [--overwrite] [--expected-sha <SHA>]
  undeploy  Remove the workflow's pipeline file from the repository <FILE>
  run       Dispatch a run of a deployed workflow and follow it <FILE> [--ref <REF>]
  watch     Follow an existing run, printing block state changes <FILE> --run-id <RUN_ID>
"

/-- How often a run is asked about at most. -/
def polls : Nat := Nat.pow 2 62

end Blockflow.Command.Machine

open Blockflow.Command in
/-- Does what the arguments ask for. -/
def main (args : List String) : IO UInt32 := do
  let ending ← (program Machine.polls args).lead Machine.answer
  match ending with
  | .failed f => f.lines.forM IO.eprintln
  | .stopped .help => IO.print Machine.usage
  | .stopped .misuse => IO.eprint Machine.usage
  | _ => pure ()
  return ending.exitCode.toUInt32
