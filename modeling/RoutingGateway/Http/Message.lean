/-
Messages on a connection.

A request message is a head and a body that its head announces; the head is
lines of text up to the first blank one. The gateway reads no bodies, so a
message is told by its head and the length of what has to be skipped. A
response message is a head and a body whose length the head gives.

Bytes of a head are taken for characters one by one. Only the target is text
beyond ASCII.
-/
import RoutingGateway.Decimal.Numeral
import RoutingGateway.FrontEnd

namespace RoutingGateway.Http

open RoutingGateway.Text

/-! ## Request heads -/

/-- The head of a request message. -/
structure Head where
  method : String
  uri : Uri
  headers : Headers
  /-- The number of bytes of the body; `none` when it is not known in advance. -/
  bodyLength : Option Nat
  /-- Whether the client lets the connection stay open. -/
  keepAlive : Bool
  deriving Repr

namespace Head

/-- The longest head that is read, in bytes. -/
def maxLength : Nat := 417792

/-- Looks for a blank line in the bytes: those in front of it, and those behind. -/
def split? : (seen : List UInt8) → List UInt8 → Option (List UInt8 × List UInt8)
  | seen, 13 :: 10 :: 13 :: 10 :: rest => some (seen.reverse, rest)
  | seen, b :: rest => split? (b :: seen) rest
  | _, [] => none

/-- The text of a line without blanks around it. -/
def trimmed (text : List Char) : List Char :=
  let isBlank (c : Char) : Bool := c = ' ' || c = '\t'
  ((text.dropWhile isBlank).reverse.dropWhile isBlank).reverse

/-- Reads a header line. -/
def header? (line : List Char) : Option (String × String) :=
  match cut ':' line with
  | some (name, value) =>
    let name := String.ofList name
    if isHeaderName name then some (name, String.ofList (trimmed value)) else none
  | none => none

/-- Reads the line with the method and the target; the flag tells whether
connections stay open unless a header says otherwise. -/
def requestLine? (line : List Char) : Option (String × Uri × Bool) := do
  let [method, target, version] := line.splitOn ' ' | none
  if method = [] ∨ !method.all isTokenChar then none
  let target ← ofUtf8? (target.map fun c => UInt8.ofNat c.toNat)
  let uri ← (Uri.read target).toOption
  let keepAlive ← match String.ofList version with
    | "HTTP/1.1" => some true
    | "HTTP/1.0" => some false
    | _ => none
  return (String.ofList method, uri, keepAlive)

/-- Whether a header has this value, in whatever case. -/
def hasValue (headers : Headers) (name value : String) : Bool :=
  (headers.get? name).any fun v => v.toLower = value

/-- The length of the body that headers announce. -/
def announced (headers : Headers) : Option Nat :=
  match headers.get? "transfer-encoding", headers.get? "content-length" with
  | some _, _ => none
  | none, some text => (Decimal.readWhole (UInt64.size - 1) text.toList).toOption
  | none, none => some 0

/-- Reads a head. -/
def read? (bytes : List UInt8) : Option Head :=
  let chars := bytes.map fun b => Char.ofNat b.toNat
  match (chars.splitOn '\n').map fun line =>
      if line.getLast? = some '\r' then line.dropLast else line with
  | [] => none
  | first :: lines => do
    let (method, uri, byDefault) ← requestLine? first
    let headers := (← lines.mapM header?).foldl (fun known h => known.add h.1 h.2) Headers.empty
    let keepAlive :=
      if byDefault then !hasValue headers "connection" "close"
      else hasValue headers "connection" "keep-alive"
    return { method, uri, headers, bodyLength := announced headers, keepAlive }

/-- The request as it arrives from a client. -/
def arrival (head : Head) (client : String) : Arrival :=
  { method := head.method, uri := head.uri, headers := head.headers, client }

end Head

/-! ## Response messages -/

/-- The words that go with a status. -/
def reason : Nat → String
  | 200 => "OK"
  | 400 => "Bad Request"
  | 404 => "Not Found"
  | 405 => "Method Not Allowed"
  | 414 => "URI Too Long"
  | 431 => "Request Header Fields Too Large"
  | 500 => "Internal Server Error"
  | 503 => "Service Unavailable"
  | _ => "<none>"

/-- The bytes of a response message. Without its body a response still tells how
long the body is. -/
def WireResponse.message (r : WireResponse) (withBody keepAlive : Bool) (date : String) :
    List UInt8 :=
  let headers := r.headers ++
    [("content-length", toString r.body.length), ("date", date)] ++
    (if keepAlive then [] else [("connection", "close")])
  let head := "HTTP/1.1 " ++ toString r.status ++ " " ++ reason r.status ++ "\r\n" ++
    String.join (headers.map fun h => h.1 ++ ": " ++ h.2 ++ "\r\n") ++ "\r\n"
  utf8 head ++ if withBody then r.body else []

/-- The response to what is no request message. -/
def WireResponse.malformed : WireResponse := { status := 400, headers := [], body := [] }

/-- The response to a head that is too long. -/
def WireResponse.oversized : WireResponse := { status := 431, headers := [], body := [] }

end RoutingGateway.Http
