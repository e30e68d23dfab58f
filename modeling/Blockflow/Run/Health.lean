import Blockflow.Json.Record

/-!
# Health of following

Whether the remote side can be asked about a run.

Component `execution` of `workflow-engine`; specification C.5.
-/

namespace Blockflow

/-- Whether the remote side can be asked about a run. Enumeration `TrackerHealth`. -/
inductive Health where
  /-- It can. -/
  | healthy
  /-- It could not so many times in a row, last for this reason. -/
  | degraded (failures : Nat) (reason : String)
deriving DecidableEq, Inhabited

namespace Health

/-- Whether nothing is wrong. Function `is_healthy`. -/
def isHealthy (h : Health) : Bool := h = .healthy

/-- Reads a health. -/
def ofJson? : Json → Option Health := Json.tagged? "state" fun
  | "healthy" => some (pure .healthy)
  | "degraded" => some do
    let failures ← .required "consecutive_failures" (Json.unsigned? 32)
    let reason ← .required "reason" Json.text?
    return .degraded failures reason
  | _ => none

/-- The written form of a health. -/
def toJson : Health → Json
  | .healthy => .obj [("state", .str "healthy")]
  | .degraded failures reason =>
    .obj [("state", .str "degraded"), ("consecutive_failures", .ofNat failures),
      ("reason", .str reason)]

end Health

end Blockflow
