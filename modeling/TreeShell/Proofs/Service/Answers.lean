import TreeShell.Proofs.Json.Writer
import TreeShell.Service.Basic

namespace TreeShell

theorem Tree.whole_summary (tree : Tree) : Text.Whole tree.summary := by
  have joined : tree.summary = ((tree.directoryCount : Int) - 1).repr ++ " directories, " ++
      tree.fileCount.repr ++ " files" := rfl
  rw [joined, Text.whole_append, Text.whole_append, Text.whole_append]
  exact ⟨⟨⟨Text.whole_int_repr _, by decide⟩, Text.whole_repr _⟩, by decide⟩

theorem Entry.whole_document {entry : Entry} :
    entry.document.Whole ↔ Text.Whole entry.name ∧ Text.Whole entry.path := by
  have label : Text.Whole entry.kind.label := by cases entry.kind <;> decide
  have names : Text.Whole "name" ∧ Text.Whole "type" ∧ Text.Whole "path" := by decide
  simp [document, fields, Json.whole_object, Json.whole_string, label, names]

namespace Report

theorem FileContent.whole_document {file : FileContent} :
    file.document.Whole ↔ Text.Whole file.path ∧ Text.Whole file.content := by
  have names : Text.Whole "path" ∧ Text.Whole "content" := by decide
  simp [document, fields, Json.whole_object, Json.whole_string, names]

theorem Execution.whole_document {execution : Execution} :
    execution.document.Whole ↔
      Text.Whole execution.output ∧ Text.Whole execution.newDirectory := by
  have names : Text.Whole "output" ∧ Text.Whole "new_directory" ∧ Text.Whole "clear" := by decide
  simp [document, fields, Json.whole_object, Json.whole_string, Json.whole_bool, names]

theorem State.whole_document {state : State} :
    state.document.Whole ↔ Text.Whole state.sessionId ∧ Text.Whole state.currentDirectory ∧
      Text.Whole state.summary ∧ ∀ issue ∈ state.issues, Text.Whole issue := by
  have names : Text.Whole "session_id" ∧ Text.Whole "current_directory" ∧
      Text.Whole "directory_count" ∧ Text.Whole "file_count" ∧ Text.Whole "history_length" ∧
      Text.Whole "summary" ∧ Text.Whole "validation_errors" := by decide
  simp [document, fields, Json.whole_object, Json.whole_array, Json.whole_string,
    Json.whole_integer, names]

end Report

namespace Service

variable {document other : Json}

theorem respond_ok (document : Json) : respond (.ok document) =
    match document.unwritable? with
    | none => ⟨200, .document document⟩
    | some complaint => (Problem.ofUnwritable complaint).response := rfl

theorem respond_of_whole (whole : document.Whole) :
    respond (.ok document) = ⟨200, .document document⟩ := by
  rw [respond_ok, Json.unwritable?_eq_none_iff.mpr whole]

theorem respond_of_not_whole (holds : ¬ document.Whole) :
    ∃ complaint, document.unwritable? = some complaint ∧
      respond (.ok document) = (Problem.ofUnwritable complaint).response := by
  obtain ⟨complaint, found⟩ :=
    Option.ne_none_iff_exists'.mp fun none => holds (Json.unwritable?_eq_none_iff.mp none)
  exact ⟨complaint, found, by rw [respond_ok, found]⟩

theorem status_respond_ok_iff : (respond (.ok document)).status = 200 ↔ document.Whole := by
  by_cases whole : document.Whole
  · rw [respond_of_whole whole]
    exact iff_of_true rfl whole
  · obtain ⟨complaint, _, same⟩ := respond_of_not_whole whole
    rw [same]
    exact iff_of_false (fun success => by cases success) whole

theorem respond_ok_eq_iff :
    respond (.ok document) = ⟨200, .document other⟩ ↔ document = other ∧ document.Whole := by
  constructor
  · intro same
    have whole := status_respond_ok_iff.mp (congrArg Http.Response.status same)
    rw [respond_of_whole whole] at same
    injection same with _ body
    exact ⟨Http.Payload.document.inj body, whole⟩
  · rintro ⟨rfl, whole⟩
    exact respond_of_whole whole

end Service

end TreeShell
