import TreeShell.Json.Schema
import TreeShell.Session

namespace TreeShell

open Schema (Checked required)

def Entry.fields (entry : Entry) : List (String × Json) :=
  [("name", .string entry.name), ("type", .string entry.kind.label),
    ("path", .string entry.path)]

def Entry.document (entry : Entry) : Json := .object entry.fields

def Entry.Kind.check : Json → Checked Entry.Kind
  | .string "file" => .ok .file
  | .string "folder" => .ok .folder
  | _ => Schema.fail .noEntryKind

def Entry.check (fields : List (String × Json)) : Checked Entry :=
  Schema.build Entry.mk
    |>.apply (required Schema.text fields "name")
    |>.apply (required Kind.check fields "type")
    |>.apply (required Schema.text fields "path")

theorem Entry.check_fields (entry : Entry) : check entry.fields = .ok entry := by
  rcases entry with ⟨name, kind, path⟩
  cases kind <;> rfl

def HistoryEntry.fields (entry : HistoryEntry) : List (String × Json) :=
  [("command", .string entry.command), ("directory", .string entry.directory),
    ("output", .string entry.output)]

def HistoryEntry.document (entry : HistoryEntry) : Json := .object entry.fields

def HistoryEntry.check : Json → Checked HistoryEntry
  | .object fields =>
    Schema.build HistoryEntry.mk
      |>.apply (required Schema.text fields "command")
      |>.apply (required Schema.text fields "directory")
      |>.apply (required Schema.text fields "output")
  | _ => Schema.fail .notHistoryEntry

theorem HistoryEntry.check_document (entry : HistoryEntry) : check entry.document = .ok entry := rfl

namespace Report

structure Health where
  status : String
  deriving DecidableEq, Repr

def Health.fields (health : Health) : List (String × Json) :=
  [("status", .string health.status)]

def Health.document (health : Health) : Json := .object health.fields

def Health.check (fields : List (String × Json)) : Checked Health :=
  (required Schema.text fields "status").map Health.mk

theorem Health.check_fields (health : Health) : check health.fields = .ok health := rfl

structure Welcome where
  message : String
  version : String
  docsUrl : String
  deriving DecidableEq, Repr

def Welcome.fields (welcome : Welcome) : List (String × Json) :=
  [("message", .string welcome.message), ("version", .string welcome.version),
    ("docs_url", .string welcome.docsUrl)]

def Welcome.document (welcome : Welcome) : Json := .object welcome.fields

def Welcome.check (fields : List (String × Json)) : Checked Welcome :=
  Schema.build Welcome.mk
    |>.apply (required Schema.text fields "message")
    |>.apply (required Schema.text fields "version")
    |>.apply (required Schema.text fields "docs_url")

theorem Welcome.check_fields (welcome : Welcome) : check welcome.fields = .ok welcome := rfl

structure Execution where
  output : String
  newDirectory : String
  clear : Bool
  deriving DecidableEq, Repr

def Execution.ofShown (shown : Shown) : Execution :=
  ⟨shown.screenText, shown.newDirectory, shown.clearScreen⟩

def Execution.fields (execution : Execution) : List (String × Json) :=
  [("output", .string execution.output), ("new_directory", .string execution.newDirectory),
    ("clear", .bool execution.clear)]

def Execution.document (execution : Execution) : Json := .object execution.fields

def Execution.check (fields : List (String × Json)) : Checked Execution :=
  Schema.build Execution.mk
    |>.apply (required Schema.text fields "output")
    |>.apply (required Schema.text fields "new_directory")
    |>.apply (required Schema.boolean fields "clear")

theorem Execution.check_fields (execution : Execution) :
    check execution.fields = .ok execution := rfl

structure State where
  sessionId : String
  currentDirectory : String
  directoryCount : Int
  fileCount : Int
  historyLength : Int
  summary : String
  issues : List String
  deriving DecidableEq, Repr

def State.ofSnapshot (snapshot : Session.Snapshot) : State where
  sessionId := snapshot.sessionId
  currentDirectory := snapshot.cwd
  directoryCount := snapshot.directoryCount
  fileCount := snapshot.fileCount
  historyLength := snapshot.historyLength
  summary := snapshot.summary
  issues := snapshot.issues.map Tree.Issue.message

def State.fields (state : State) : List (String × Json) :=
  [("session_id", .string state.sessionId),
    ("current_directory", .string state.currentDirectory),
    ("directory_count", .integer state.directoryCount), ("file_count", .integer state.fileCount),
    ("history_length", .integer state.historyLength), ("summary", .string state.summary),
    ("validation_errors", .array (state.issues.map .string))]

def State.document (state : State) : Json := .object state.fields

def State.check (fields : List (String × Json)) : Checked State :=
  Schema.build State.mk
    |>.apply (required Schema.text fields "session_id")
    |>.apply (required Schema.text fields "current_directory")
    |>.apply (required Schema.integer fields "directory_count")
    |>.apply (required Schema.integer fields "file_count")
    |>.apply (required Schema.integer fields "history_length")
    |>.apply (required Schema.text fields "summary")
    |>.apply (required (Schema.list Schema.text) fields "validation_errors")

theorem State.check_fields (state : State) : check state.fields = .ok state := by
  have issues := Schema.list_map Schema.text Json.string state.issues fun _ => rfl
  simp [check, fields, required, Json.field?, Schema.build, Schema.Checked.apply, issues]
  rfl

structure History where
  entries : List HistoryEntry
  count : Int
  deriving DecidableEq, Repr

def History.ofEntries (entries : List HistoryEntry) : History := ⟨entries, entries.length⟩

def History.fields (history : History) : List (String × Json) :=
  [("entries", .array (history.entries.map HistoryEntry.document)),
    ("count", .integer history.count)]

def History.document (history : History) : Json := .object history.fields

def History.check (fields : List (String × Json)) : Checked History :=
  Schema.build History.mk
    |>.apply (required (Schema.list HistoryEntry.check) fields "entries")
    |>.apply (required Schema.integer fields "count")

theorem History.check_fields (history : History) : check history.fields = .ok history := by
  have entries :=
    Schema.list_map HistoryEntry.check HistoryEntry.document history.entries
      HistoryEntry.check_document
  simp [check, fields, required, Json.field?, Schema.build, Schema.Checked.apply, entries]
  rfl

structure Reset where
  message : String
  summary : String
  deriving DecidableEq, Repr

def Reset.fields (reset : Reset) : List (String × Json) :=
  [("message", .string reset.message), ("summary", .string reset.summary)]

def Reset.document (reset : Reset) : Json := .object reset.fields

def Reset.check (fields : List (String × Json)) : Checked Reset :=
  Schema.build Reset.mk
    |>.apply (required Schema.text fields "message")
    |>.apply (required Schema.text fields "summary")

theorem Reset.check_fields (reset : Reset) : check reset.fields = .ok reset := rfl

structure FileContent where
  path : String
  content : String
  deriving DecidableEq, Repr

def FileContent.fields (file : FileContent) : List (String × Json) :=
  [("path", .string file.path), ("content", .string file.content)]

def FileContent.document (file : FileContent) : Json := .object file.fields

def FileContent.check (fields : List (String × Json)) : Checked FileContent :=
  Schema.build FileContent.mk
    |>.apply (required Schema.text fields "path")
    |>.apply (required Schema.text fields "content")

theorem FileContent.check_fields (file : FileContent) : check file.fields = .ok file := rfl

end Report

end TreeShell
