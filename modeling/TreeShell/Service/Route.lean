import TreeShell.Http.Message
import TreeShell.Text.Blank

namespace TreeShell

inductive Route
  | welcome
  | health
  | execute
  | state
  | history
  | reset
  | files
  | content
  | recent
  deriving DecidableEq, Repr

namespace Route

def all : List Route := [
  welcome, health, execute, state, history, reset, files, content, recent]

def path : Route → String
  | welcome => "/"
  | health => "/health"
  | execute => "/terminal/execute"
  | state => "/terminal/state"
  | history => "/terminal/history"
  | reset => "/terminal/reset"
  | files => "/files"
  | content => "/files/content"
  | recent => "/files/recent"

def method : Route → Http.Method
  | execute | reset => .post
  | _ => .get

def answersAt (route : Route) (path : String) : Bool :=
  path = route.path || path = route.path ++ "\n"

def ofPath? (path : String) : Option Route := all.find? (·.answersAt path)

theorem ofPath?_path (route : Route) : ofPath? route.path = some route := by
  cases route <;> decide

def toggleSlash (path : String) : String :=
  if path.toList.getLast? = some '/' then Text.stripCharEnd '/' path else path ++ "/"

end Route

end TreeShell
