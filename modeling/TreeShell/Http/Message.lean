import TreeShell.Http.Url
import TreeShell.Json.Reader
import TreeShell.Json.Writer

namespace TreeShell.Http

inductive Method
  | get
  | post
  | head
  | other (name : String)
  deriving DecidableEq, Repr

def Method.name : Method → String
  | .get => "GET"
  | .post => "POST"
  | .head => "HEAD"
  | .other name => name

def Method.ofName (name : String) : Method :=
  match name.toUpper with
  | "GET" => .get
  | "POST" => .post
  | "HEAD" => .head
  | name => .other name

/-- What a message carries. A text waits for a reader that opens at most so many brackets inside
    each other. -/
inductive Payload
  | empty
  | text (raw : String) (room : Nat)
  | document (value : Json)
  deriving Repr

namespace Payload

def ofText (raw : String) (room : Nat) : Payload := if raw = "" then empty else text raw room

def read : Payload → Except Json.ReadError (Option Json)
  | empty => .ok none
  | text raw room => if raw = "" then .ok none else (Json.read room raw).map some
  | document value => .ok (some value)

def isWritable : Payload → Bool
  | document value => value.isFinite
  | _ => true

def rawText : Payload → String
  | text raw _ => raw
  | _ => ""

end Payload

structure Request where
  method : Method
  path : String
  query : List (String × String) := []
  body : Payload := .empty
  deriving Repr

/-- A request to an address. Query parameters that are given take the place of the ones in the
    address, and arrive as they are. -/
def Request.to (url : Url) (method : Method) (query : Option (List (String × String)))
    (body : Payload) : Request :=
  ⟨method, url.plain, query.getD url.fields, body⟩

def Request.parameter? (request : Request) (name : String) : Option String :=
  (request.query.reverse.find? (·.1 = name)).map Prod.snd

structure Response where
  status : Nat
  body : Payload := .empty
  deriving Repr

/-- A response as it is sent to a request of a method: one to HEAD has no body. -/
def Response.answering (response : Response) (method : Method) : Response :=
  if method = .head then { response with body := .empty } else response

def Response.isSuccess (response : Response) : Bool :=
  200 ≤ response.status && response.status < 300

end TreeShell.Http
