import Blockflow.Json.Basic

/-!
# Requests

Requests that carry JSON, and what becomes of them. A connection may break at any moment: before
there is an answer, or while its body is on the way.
-/

namespace Blockflow.Http

/-- What a request wants. -/
inductive Method where
  | get
  | put
  | post
  | delete
deriving DecidableEq

namespace Method

/-- The name of a method. -/
def name : Method → String
  | .get => "GET"
  | .put => "PUT"
  | .post => "POST"
  | .delete => "DELETE"

/-- Whether a request with the method only reads. -/
def isSafe (m : Method) : Bool := m = .get

end Method

/-- A request. -/
structure Request where
  /-- What it wants. -/
  method : Method
  /-- Whom it asks, without the query. -/
  url : String
  /-- The query, by keys and values. -/
  query : List (String × String)
  /-- The headers, by lower-case names. -/
  headers : List (String × String)
  /-- What it carries. -/
  body : Option Json
deriving DecidableEq

/-- The body of an answer. -/
inductive Body where
  /-- All of it. -/
  | whole (text : String)
  /-- The connection broke before its end. -/
  | cut
deriving DecidableEq

/-- What becomes of a request. -/
inductive Exchange where
  /-- An answer, with its status. -/
  | answered (status : Nat) (body : Body)
  /-- The connection broke before an answer began, or there was none. -/
  | broken
  /-- The request cannot be written, and has not been sent. -/
  | unwritten
deriving DecidableEq

end Blockflow.Http
