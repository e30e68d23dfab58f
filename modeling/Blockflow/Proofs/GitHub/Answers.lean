import Blockflow.GitHub.Client

/-!
# What answers are read as

A success that has come as a whole is read as the value in it. One that has not is no value, and
where nothing has come there is nothing to read.
-/

namespace Blockflow.GitHub

variable {α : Type} {context text : String} {interest : Json.Interest} {read? : Json → Option α}
  {status : Nat} {body : Http.Body}

theorem success?_of_success (h : 200 ≤ status ∧ status < 300) (context : String)
    (body : Http.Body) : success? context (.answered status body) = .ok body := by
  simp [success?, h]

theorem value?_whole {j : Json} {a : α} (h : 200 ≤ status ∧ status < 300)
    (hparse : Json.parsePart? interest text = some j) (hread : read? j = some a) :
    value? context interest read? (.answered status (.whole text)) = .ok a := by
  have hbind : (Json.parsePart? interest text).bind read? = some a := by
    rw [hparse, Option.bind_some, hread]
  rw [value?, success?_of_success h]
  dsimp only [bind, Except.bind]
  rw [hbind]
  rfl

theorem value?_cut (h : 200 ≤ status ∧ status < 300) :
    value? context interest read? (.answered status .cut) = .error (.undecodable context) := by
  rw [value?, success?_of_success h]
  rfl

theorem value?_broken : value? context interest read? .broken = .error .disconnected := rfl

namespace Client

variable {m : Type → Type} [Monad m] {send : Http.Request → m Http.Exchange} {r : Http.Request}

theorem exchange_of_isWritable (h : r.isWritable = true) : exchange send r = send r := if_pos h

end Client

end Blockflow.GitHub
