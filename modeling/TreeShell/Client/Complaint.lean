import TreeShell.Http.Message
import TreeShell.Text.Blank

namespace TreeShell.Client

structure Complaint where
  message : Json
  errorType : Json := .null
  details : Option (List (String × Json)) := none
  deriving Repr

namespace Complaint

inductive Flaw
  | itemNotObject
  | placeEmpty
  | placeNotList
  | placeObject
  | tooDeep
  deriving DecidableEq, Repr

def lastStep : Json → Except Flaw Json
  | .array steps => match steps.getLast? with
    | some step => .ok step
    | none => .error .placeEmpty
  | .string text => match text.toList.getLast? with
    | some c => .ok (.string c.toString)
    | none => .error .placeEmpty
  | .object _ => .error .placeObject
  | _ => .error .placeNotList

def issueLine : Json → Except Flaw String
  | .object fields => do
    let step ← match Json.field? "loc" fields with
      | none => .ok (.string "unknown")
      | some place => lastStep place
    let message := (Json.field? "msg" fields).getD (.string "invalid")
    return step.text ++ ": " ++ message.text
  | _ => .error .itemNotObject

def ofIssues (issues : List Json) : Except Flaw Complaint := do
  let lines ← issues.mapM issueLine
  return {
    message := .string (Text.join "; " lines)
    errorType := .string "validation_error"
    details := some [("errors", .array issues)] }

def extraFields (fields : List (String × Json)) : Option (List (String × Json)) :=
  match fields.filter fun (name, _) => name ≠ "error" ∧ name ≠ "detail" with
  | [] => none
  | extra => some extra

def ofFields (fields : List (String × Json)) : Complaint :=
  let error := Json.field? "error" fields
  let message := match Json.field? "detail" fields with
    | some (.string detail) => .string detail
    | _ => error.getD (.string (Json.object fields).text)
  ⟨message, error.getD .null, extraFields fields⟩

def ofDocument : Json → Except Flaw Complaint
  | .object fields => match Json.field? "detail" fields with
    | some (.array issues) => ofIssues issues
    | _ => .ok (ofFields fields)
  | document => .ok { message := .string document.text }

def ofText (status : Nat) (text : String) : Complaint :=
  let text := Text.trim text
  { message := .string (if text = "" then s!"HTTP {status} error" else text) }

def ofResponse (response : Http.Response) : Except Flaw Complaint :=
  match response.body.read with
  | .ok (some document) => ofDocument document
  | .error .tooDeep => .error .tooDeep
  | _ => .ok (ofText response.status response.body.rawText)

end Complaint

end TreeShell.Client
