import Blockflow.Http.Address
import Blockflow.Json.Writer
import Blockflow.Text.Blank
import Blockflow.Text.Digits
import Blockflow.Text.Pieces

/-!
# Requests on the wire

How a request is written, and how an answer is read, after version 1.1 of the protocol. The
connection is closed after each answer, so whatever has been received by then is all there is.
-/

namespace Blockflow.Http

/-! ### Requests -/

/-- A character in a pair of a query. -/
def inPair (c : Char) : List Char :=
  if c.isAlphanum || "*-._".toList.contains c then [c]
  else if c = ' ' then ['+']
  else Text.percentEncoded c

/-- A query with pairs of keys and values after what is there already. -/
def queryText (before : Option String) (pairs : List (String × String)) : String :=
  let pairs := pairs.map fun (k, v) ↦
    String.ofList (k.toList.flatMap inPair ++ '=' :: v.toList.flatMap inPair)
  match (before.filter (· ≠ "")).toList ++ pairs with
  | [] => if before.isSome then "?" else ""
  | parts => "?" ++ "&".intercalate parts

/-- The end of a line. -/
def lineEnd : String := "\r\n"

/-- A request as it is written to the host of an address. -/
def Request.render (r : Request) (a : Address) : String :=
  let body := match r.body with
    | some j => j.compact
    | none => ""
  let first := r.method.name ++ " " ++ a.path ++ queryText a.query r.query ++ " HTTP/1.1"
  let lengths := if r.body.isSome then [("content-length", toString body.utf8ByteSize)] else []
  let headers := [("host", a.host ++ ":" ++ toString a.port)] ++ r.headers ++ lengths ++
    [("connection", "close")]
  first ++ lineEnd ++ String.join (headers.map fun (k, v) ↦ k ++ ": " ++ v ++ lineEnd) ++
    lineEnd ++ body

/-! ### Answers -/

/-- What stands before and after the first blank line of an answer. -/
def headAndBody? : List UInt8 → Option (List UInt8 × List UInt8)
  | 13 :: 10 :: 13 :: 10 :: body => some ([], body)
  | b :: rest => (headAndBody? rest).map fun (head, body) ↦ (b :: head, body)
  | [] => none

/-- Bytes as a text; if they are none, every byte beyond the basic ones becomes a mark. -/
def lossyText (bytes : List UInt8) : String :=
  match String.fromUTF8? ⟨bytes.toArray⟩ with
  | some s => s
  | none => String.ofList (bytes.map fun b ↦ if b < 128 then Char.ofNat b.toNat else '\uFFFD')

/-- A line of bytes as characters, and what follows it. -/
def line? : List UInt8 → Option (List Char × List UInt8)
  | 13 :: 10 :: rest => some ([], rest)
  | b :: rest => (line? rest).map fun (cs, rest) ↦ (Char.ofNat b.toNat :: cs, rest)
  | [] => none

/-- The bytes of a body that comes in chunks, if all of them are there. There are at most as many
chunks as bytes. -/
def chunks? : Nat → List UInt8 → Option (List UInt8)
  | 0, _ => none
  | fuel + 1, bytes => do
    let (sizeLine, rest) ← line? bytes
    let size ← Text.natural? 16 (Text.trimBoth (sizeLine.takeWhile (· ≠ ';')))
    if size = 0 then some []
    else if rest.length < size + 2 then none
    else (chunks? fuel (rest.drop (size + 2))).map (rest.take size ++ ·)

/-- The headers of an answer by their lower-case names. -/
def headers (lines : List String) : List (String × String) :=
  lines.map fun l ↦
    let cs := l.toList
    (String.ofList ((cs.takeWhile (· ≠ ':')).map Char.toLower),
      Text.trim (String.ofList ((cs.dropWhile (· ≠ ':')).drop 1)))

/-- The body of an answer with the given headers. -/
def bodyOf (headers : List (String × String)) (bytes : List UInt8) : Body :=
  if (headers.lookup "transfer-encoding").any fun v ↦ v.toLower = "chunked" then
    match chunks? (bytes.length + 1) bytes with
    | some bytes => .whole (lossyText bytes)
    | none => .cut
  else
    match (headers.lookup "content-length").bind String.toNat? with
    | some n => if bytes.length < n then .cut else .whole (lossyText (bytes.take n))
    | none => .whole (lossyText bytes)

/-- What became of a request to which these bytes have come back. -/
def Exchange.parse (bytes : List UInt8) : Exchange :=
  match headAndBody? bytes with
  | none => .broken
  | some (head, body) =>
    match (Text.pieces '\n' (lossyText head)).map Text.trim with
    | [] => .broken
    | first :: lines =>
      match (Text.pieces ' ' first).drop 1 with
      | status :: _ =>
        match status.toNat? with
        | some status => .answered status (bodyOf (headers lines) body)
        | none => .broken
      | [] => .broken

end Blockflow.Http
