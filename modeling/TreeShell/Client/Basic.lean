import TreeShell.Client.Exchange
import TreeShell.Service.Basic

namespace TreeShell.Client

structure Connection (σ : Type) where
  settings : Settings
  transport : Transport σ

def serviceTransport : Transport Service := fun request service =>
  let (response, service) := service.handle request
  (.answered response, service)

def readReport {α : Type} (check : List (String × Json) → Schema.Checked α) : Json → Except Error α
  | .object fields => (check fields).mapError .invalid
  | _ => .error .unexpectedShape

/-- The reports in a list. What is empty holds none; the first report that cannot be read counts. -/
def readReports {α : Type} (check : List (String × Json) → Schema.Checked α) :
    Json → Except Error (List α)
  | .array items => items.mapM (readReport check)
  | .object [] | .string "" => .ok []
  | _ => .error .unexpectedShape

namespace Connection

variable {σ : Type}

def queryOf (parameters : Option (List (String × Option String))) :
    Option (List (String × String)) :=
  parameters.map fun given =>
    given.filterMap fun (name, value) => value.map fun value => (name, value)

def get (client : Connection σ) (path : String)
    (parameters : Option (List (String × Option String))) (state : σ) : Run σ Json :=
  call client.settings client.transport .get path (queryOf parameters) .empty state

def post (client : Connection σ) (path : String)
    (parameters : Option (List (String × Option String))) (body : Http.Payload) (state : σ) :
    Run σ Json :=
  call client.settings client.transport .post path (queryOf parameters) body state

def health (client : Connection σ) (state : σ) : Run σ Report.Health :=
  (client.get "/health" none state).bind (readReport Report.Health.check)

def info (client : Connection σ) (state : σ) : Run σ Report.Welcome :=
  (client.get "/" none state).bind (readReport Report.Welcome.check)

def orderBody (line : String) (directory : Option String) : Json :=
  .object (("command", .string line) ::
    (directory.map fun directory => ("current_directory", Json.string directory)).toList)

def execute (client : Connection σ) (line : String) (directory : Option String) (state : σ) :
    Run σ Report.Execution :=
  (client.post "/terminal/execute" none (.document (orderBody line directory)) state).bind
    (readReport Report.Execution.check)

def state (client : Connection σ) (state : σ) : Run σ Report.State :=
  (client.get "/terminal/state" none state).bind (readReport Report.State.check)

def history (client : Connection σ) (state : σ) : Run σ Report.History :=
  (client.get "/terminal/history" none state).bind (readReport Report.History.check)

def reset (client : Connection σ) (state : σ) : Run σ Report.Reset :=
  (client.post "/terminal/reset" none .empty state).bind (readReport Report.Reset.check)

def list (client : Connection σ) (path : String) (state : σ) : Run σ (List Entry) :=
  let given := if path = "" then none else some path
  (client.get "/files" (some [("path", given)]) state).bind (readReports Entry.check)

def readEntry (client : Connection σ) (path : String) (state : σ) : Run σ Report.FileContent :=
  (client.get "/files/content" (some [("path", some path)]) state).bind
    (readReport Report.FileContent.check)

def read (client : Connection σ) (path : String) (state : σ) : Run σ String :=
  (client.readEntry path state).bind fun file => .ok file.content

def recent (client : Connection σ) (state : σ) : Run σ (List Entry) :=
  (client.get "/files/recent" none state).bind (readReports Entry.check)

end Connection

end TreeShell.Client
