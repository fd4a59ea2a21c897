import TreeShell.Environment.Settings
import TreeShell.Service.Problem
import TreeShell.Service.Report
import TreeShell.Service.Route

namespace TreeShell

abbrev Service := Except Problem Session

namespace Service

def stopped : Service := .error .notStarted

def start (id : String) (process : Environment.Variables) (clock : Clock) (fresh : Twister) :
    Except Environment.Refusal Service :=
  (Environment.configure {} process clock).map fun environment =>
    .ok (.start id Seed.tree environment fresh "" Session.defaultMaxHistory)

def welcome : Report.Welcome :=
  ⟨"Welcome to the Virtual Terminal Simulator API", "0.1.0", "/docs"⟩

def health : Report.Health := ⟨"healthy"⟩

structure Order where
  line : String
  directory : Option String
  deriving DecidableEq, Repr

def Order.check : Json → Schema.Checked Order
  | .object fields =>
    Schema.build Order.mk
      |>.apply (Schema.required Schema.text fields "command")
      |>.apply (Schema.optional Schema.text fields "current_directory")
  | _ => Schema.fail .notRequest

def requestFields (body : Option Json) : List (String × Json) :=
  (body.map fun document => ("body", document)).toList

def Order.ofBody (body : Option Json) : Schema.Checked Order :=
  Schema.required check (requestFields body) "body"

def Order.run (order : Order) (session : Session) : Report.Execution × Session :=
  let (shown, session) :=
    session.execute order.line (order.directory.map fun path => Path.ofBrowser (some path))
  (.ofShown shown, session)

abbrev Answer := Except Problem Json

def view (service : Service) (look : Session → Answer) : Answer × Service :=
  (service.bind look, service)

def browse (path : Option String) (session : Session) : Answer :=
  match session.tree.browse (Path.ofBrowser path) with
  | .ok entries => .ok (.array (entries.map Entry.document))
  | .error fault => .error (.ofFault fault)

def readFile (path : Option String) (session : Session) : Answer :=
  match path with
  | none => .error (.rejected [⟨[.field "query", .field "path"], .missing⟩])
  | some path =>
    let path := Path.ofBrowser (some path)
    match session.tree.read path with
    | .ok content => .ok (Report.FileContent.document ⟨path, content⟩)
    | .error fault => .error (.ofFault fault)

/-- Runs the line in a body. A body that is no document is refused before the session is asked for,
    one that holds no order afterwards. -/
def execute (service : Service) (body : Http.Payload) : Answer × Service :=
  match body.read with
  | .error error => (.error (.ofReadError error), service)
  | .ok document =>
    match service with
    | .error problem => (.error problem, service)
    | .ok session =>
      match Order.ofBody document with
      | .error issues => (.error (.ofIssues (.object (requestFields document)) issues), service)
      | .ok order =>
        let (execution, session) := order.run session
        (.ok execution.document, .ok session)

def reset (service : Service) : Answer × Service :=
  match service with
  | .error problem => (.error problem, service)
  | .ok session =>
    let session := session.reset
    (.ok (Report.Reset.document ⟨"Terminal session reset", session.tree.summary⟩), .ok session)

def answer (service : Service) (route : Route) (request : Http.Request) : Answer × Service :=
  match route with
  | .welcome => (.ok welcome.document, service)
  | .health => (.ok health.document, service)
  | .execute => service.execute request.body
  | .state => service.view fun session => .ok (Report.State.ofSnapshot session.snapshot).document
  | .history => service.view fun session => .ok (Report.History.ofEntries session.history).document
  | .reset => service.reset
  | .files => service.view (browse (request.parameter? "path"))
  | .content => service.view (readFile (request.parameter? "path"))
  | .recent => service.view fun _ => .ok (.array (Seed.recentFiles.map Entry.document))

/-- An answer is written only after its route has done its work. -/
def respond : Answer → Http.Response
  | .ok document =>
    match document.unwritable? with
    | none => ⟨200, .document document⟩
    | some complaint => (Problem.ofUnwritable complaint).response
  | .error problem => problem.response

/-- Sends the client to the same path with its final slash set right. -/
def redirection : Http.Response := ⟨307, .empty⟩

def dispatch (service : Service) (request : Http.Request) : Http.Response × Service :=
  match Route.ofPath? request.path with
  | none =>
    if (Route.ofPath? (Route.toggleSlash request.path)).isSome then (redirection, service)
    else (Problem.noRoute.response, service)
  | some route =>
    if request.method = route.method then
      let (answer, service) := service.answer route request
      (respond answer, service)
    else (Problem.wrongMethod.response, service)

/-- Answers a request, and gives the service as it is afterwards. It stands for the routes behind a
    web framework without what that framework adds: headers, the bytes of a body, and the pages
    that document the routes. -/
def handle (service : Service) (request : Http.Request) : Http.Response × Service :=
  let (response, service) := service.dispatch request
  (response.answering request.method, service)

end Service

end TreeShell
