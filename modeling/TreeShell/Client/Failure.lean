import TreeShell.Client.Complaint

namespace TreeShell.Client

inductive Rejection.Kind
  | invalid
  | notFound
  | server (status : Int)
  | other (status : Int) (errorType : Json)
  deriving Repr

namespace Rejection.Kind

def status : Kind → Int
  | invalid => 422
  | notFound => 404
  | server status | other status _ => status

def errorType : Kind → Json
  | invalid => .string "validation_error"
  | notFound => .string "not_found"
  | server _ => .string "server_error"
  | other _ errorType => errorType

/-- The kind of an answer with a status, which says itself what kind of error it is. -/
def ofStatus (status : Nat) (errorType : Json) : Kind :=
  if status = 422 then invalid
  else if status = 404 then notFound
  else if 500 ≤ status then server status
  else other status errorType

end Rejection.Kind

structure Rejection where
  kind : Rejection.Kind
  message : Json
  details : Option (List (String × Json)) := none
  body : Json := .null
  deriving Repr

namespace Rejection

def path (rejection : Rejection) : Json :=
  (rejection.details.bind (Json.field? "path")).getD .null

def text (rejection : Rejection) : String :=
  let message := rejection.message.text
  if rejection.kind.errorType.isPresent then
    s!"[HTTP {rejection.kind.status}] [{rejection.kind.errorType.text}] {message}"
  else s!"[HTTP {rejection.kind.status}] {message}"

def ofResponse (response : Http.Response) : Except Complaint.Flaw Rejection := do
  let complaint ← Complaint.ofResponse response
  let body := match response.body.read with
    | .ok (some document) => document
    | _ => .string response.body.rawText
  return ⟨.ofStatus response.status complaint.errorType, complaint.message, complaint.details, body⟩

end Rejection

inductive Failure
  | general (message : String)
  | disconnected (message : String) (url cause : Option String)
  | timedOut (message : String) (timeout : Option Number) (url : Option String)
  | rejected (rejection : Rejection)
  deriving Repr

def Failure.text : Failure → String
  | .general message => message
  | .disconnected message url _ =>
    match url with
    | none | some "" => message
    | some url => s!"{message} (url: {url})"
  | .timedOut message timeout _ =>
    match timeout with
    | none => message
    | some timeout => s!"{message} (timeout: {timeout.text}s)"
  | .rejected rejection => rejection.text

end TreeShell.Client
