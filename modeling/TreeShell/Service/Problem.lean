import TreeShell.Fault
import TreeShell.Http.Message
import TreeShell.Json.Schema

namespace TreeShell

def Schema.Step.document : Schema.Step → Json
  | .field name => .string name
  | .index place => .integer place

def Schema.Issue.fields (issue : Schema.Issue) : List (String × Json) :=
  [("type", .string issue.cause.tag), ("loc", .array (issue.location.map Step.document)),
    ("msg", .string issue.cause.message)]

def Schema.Issue.document (issue : Schema.Issue) : Json := .object issue.fields

def Schema.Issue.report (document : Json) (issue : Schema.Issue) : Json :=
  .object (issue.fields ++ [("input", issue.subject document)])

inductive Problem
  | noRoute
  | wrongMethod
  | rejected (issues : List Schema.Issue)
  | unreadableBody
  | fileNotFound (path : String)
  | directoryNotFound (path : String)
  | invalidData (issues : List Schema.Issue)
  | invalidValue (message : String)
  | failed (message : String)
  | unexpected (kind : String)
  deriving DecidableEq, Repr

namespace Problem

def notStarted : Problem :=
  failed "TerminalSession not initialized. Call initialize_terminal_session() first."

def ofFault : Fault → Problem
  | .fileNotFound path => fileNotFound path
  | .directoryNotFound path => directoryNotFound path
  | .notInside path ancestor => invalidValue (Fault.notInside path ancestor).message
  | .brokenTree _ => unexpected "TypeError"
  | .noSuchKey _ => unexpected "KeyError"
  | .missingArgument => unexpected "IndexError"
  | .other kind _ => unexpected kind

def ofReadError : Json.ReadError → Problem
  | .malformed offset => rejected [⟨[.field "body", .index offset], .unreadableDocument⟩]
  | .undecodable | .integerTooLong _ | .tooDeep => unreadableBody

def plain (detail : Json) : Json := .object [("detail", detail)]

/-- The problem with a document that has issues. Their report shows what each is about, and so
    cannot be written when a number there is not finite or a text holds a half. -/
def ofIssues (document : Json) (issues : List Schema.Issue) : Problem :=
  let report := plain (.array (issues.map (Schema.Issue.report document)))
  if !report.isFinite then invalidValue Json.notFiniteMessage
  else match Text.unwritable? report.written with
    | some complaint => invalidValue complaint
    | none => rejected issues

def ofUnwritable (complaint : String) : Problem :=
  invalidValue ("Error serializing to JSON: UnicodeEncodeError: " ++ complaint)

def status : Problem → Nat
  | noRoute | fileNotFound _ | directoryNotFound _ => 404
  | wrongMethod => 405
  | rejected _ | invalidData _ => 422
  | unreadableBody | invalidValue _ => 400
  | failed _ | unexpected _ => 500

def titled (error detail name : String) (more : Json) : Json :=
  .object [("error", .string error), ("detail", .string detail), (name, more)]

def document : Problem → Json
  | noRoute => plain (.string "Not Found")
  | wrongMethod => plain (.string "Method Not Allowed")
  | rejected issues => plain (.array (issues.map Schema.Issue.document))
  | unreadableBody => plain (.string "There was an error parsing the body")
  | fileNotFound path =>
    titled "File Not Found" (Fault.fileNotFound path).message "path" (.string path)
  | directoryNotFound path =>
    titled "Directory Not Found" (Fault.directoryNotFound path).message "path" (.string path)
  | invalidData issues =>
    titled "Validation Error" "The request data failed validation" "validation_errors"
      (.array (issues.map Schema.Issue.document))
  | invalidValue message => titled "Invalid Value" message "type" (.string "ValueError")
  | failed message => titled "Runtime Error" message "type" (.string "RuntimeError")
  | unexpected kind =>
    titled "Internal Server Error" "An unexpected error occurred" "type" (.string kind)

def response (problem : Problem) : Http.Response := ⟨problem.status, .document problem.document⟩

end Problem

end TreeShell
