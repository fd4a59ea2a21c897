import TreeShell.Proofs.Path.Browser
import TreeShell.Proofs.Service.Answers
import TreeShell.Proofs.Session.Breach

namespace TreeShell.Service

open Session (Step)

def Order.step (order : Order) : Step :=
  .execute order.line (order.directory.map fun path => Path.ofBrowser (some path))

def Asks (request : Http.Request) (route : Route) : Prop :=
  Route.ofPath? request.path = some route ∧ request.method = route.method

def stepOf? (request : Http.Request) : Option Step :=
  match Route.ofPath? request.path with
  | some .execute =>
    if request.method = .post then
      match request.body.read with
      | .ok document => (Order.ofBody document).toOption.map Order.step
      | .error _ => none
    else none
  | some .reset => if request.method = .post then some .reset else none
  | _ => none

theorem relative_of_stepOf? {request : Http.Request} {step : Step}
    (made : stepOf? request = some step) : step.Relative := by
  unfold stepOf? at made
  split at made
  · split at made
    · split at made
      · obtain ⟨order, _, rfl⟩ := Option.map_eq_some_iff.mp made
        unfold Order.step
        cases order.directory with
        | none => trivial
        | some path => exact Path.not_absolute_ofBrowser (some path)
      · cases made
    · cases made
  · split at made
    · cases made
      trivial
    · cases made
  · cases made

def after (service : Service) (requests : List Http.Request) : Service :=
  requests.foldl (fun service request => (service.handle request).2) service

theorem execute_session (session : Session) (body : Http.Payload) :
    (execute (.ok session) body).2 = .ok (
      match body.read with
      | .ok document =>
        ((Order.ofBody document).toOption.map Order.step).elim session (·.apply session)
      | .error _ => session) := by
  unfold execute
  cases body.read with
  | error error => rfl
  | ok document =>
    dsimp only
    cases Order.ofBody document with
    | error issues => rfl
    | ok order => rfl

theorem handle_session (session : Session) (request : Http.Request) :
    (handle (.ok session) request).2 =
      .ok ((stepOf? request).elim session fun step => step.apply session) := by
  unfold handle dispatch stepOf?
  cases Route.ofPath? request.path with
  | none =>
    dsimp only
    split <;> rfl
  | some route =>
    dsimp only
    cases route with
    | execute =>
      by_cases post : request.method = .post
      · simp only [post, Route.method, if_true, answer, execute_session]
        cases request.body.read <;> rfl
      · simp only [post, Route.method, if_false]
        rfl
    | reset =>
      by_cases post : request.method = .post
      · simp only [post, Route.method, if_true, answer]
        rfl
      · simp only [post, Route.method, if_false]
        rfl
    | _ => split <;> rfl

theorem after_session (session : Session) (requests : List Http.Request) :
    after (.ok session) requests = .ok (session.after (requests.filterMap stepOf?)) := by
  induction requests generalizing session with
  | nil => rfl
  | cons request rest ih =>
    rw [after, List.foldl_cons, handle_session, ← after, ih]
    cases made : stepOf? request with
    | none => rw [List.filterMap_cons_none made, Option.elim_none]
    | some step =>
      rw [List.filterMap_cons_some made, Option.elim_some, Session.after, Session.after,
        List.foldl_cons]

def reportedIssues (service : Service) : Option (List String) :=
  match (service.handle ⟨.get, Route.state.path, [], .empty⟩).1 with
  | ⟨200, .document (.object fields)⟩ =>
    (Report.State.check fields).toOption.map Report.State.issues
  | _ => none

theorem handle_asks {request : Http.Request} {route : Route} (asks : Asks request route)
    (service : Service) :
    service.handle request = (respond (service.answer route request).1,
      (service.answer route request).2) := by
  obtain ⟨found, method⟩ := asks
  have whole (response : Http.Response) : response.answering route.method = response := by
    cases route <;> rfl
  unfold handle dispatch
  simp only [found, method, if_true, whole]

theorem handle_state {request : Http.Request} (asks : Asks request .state) (session : Session) :
    (handle (.ok session) request).1 =
      respond (.ok (Report.State.ofSnapshot session.snapshot).document) :=
  congrArg Prod.fst (handle_asks asks (.ok session))

theorem whole_snapshot {session : Session} (sound : session.tree.issues = []) :
    (Report.State.ofSnapshot session.snapshot).document.Whole ↔
      Text.Whole session.id ∧ Text.Whole session.cwd := by
  have none : (Report.State.ofSnapshot session.snapshot).issues = [] :=
    List.map_eq_nil_iff.mpr sound
  have summary : Text.Whole (Report.State.ofSnapshot session.snapshot).summary :=
    session.tree.whole_summary
  rw [Report.State.whole_document, none]
  simp only [summary, List.not_mem_nil, false_imp_iff, implies_true, and_true]
  rfl

theorem reportedIssues_of_whole {session : Session}
    (whole : (Report.State.ofSnapshot session.snapshot).document.Whole) :
    reportedIssues (.ok session) = some (session.tree.issues.map Tree.Issue.message) := by
  rw [reportedIssues, handle_state ⟨Route.ofPath?_path .state, rfl⟩, respond_of_whole whole,
    Report.State.document]
  show (Report.State.check _).toOption.map Report.State.issues = _
  rw [Report.State.check_fields]
  rfl

theorem reportedIssues_of_not_whole {session : Session}
    (holds : ¬ (Report.State.ofSnapshot session.snapshot).document.Whole) :
    reportedIssues (.ok session) = none := by
  obtain ⟨complaint, _, same⟩ := respond_of_not_whole holds
  rw [reportedIssues, handle_state ⟨Route.ofPath?_path .state, rfl⟩, same]
  rfl

theorem reportedIssues_eq_nil_iff (session : Session) :
    reportedIssues (.ok session) = some [] ↔
      session.tree.issues = [] ∧ Text.Whole session.id ∧ Text.Whole session.cwd := by
  by_cases whole : (Report.State.ofSnapshot session.snapshot).document.Whole
  · rw [reportedIssues_of_whole whole, Option.some.injEq, List.map_eq_nil_iff]
    exact (and_iff_left_of_imp fun sound => (whole_snapshot sound).mp whole).symm
  · rw [reportedIssues_of_not_whole whole]
    exact iff_of_false (Option.some_ne_none _).symm
      fun ⟨sound, texts⟩ => whole ((whole_snapshot sound).mpr texts)

/-- A new service reports no issues after some requests just when every breach among them was
    followed by a reset and the report can be written. After such requests every built-in command
    runs; otherwise each is answered with the issues of the tree instead. -/
theorem reports_no_issues_iff {id : String} {process : Environment.Variables} {clock : Clock}
    {fresh : Twister} {service : Service} (started : start id process clock fresh = .ok service)
    (requests : List Http.Request) :
    ∃ first session : Session, service = .ok first ∧ service.after requests = .ok session ∧
      ((service.after requests).reportedIssues = some [] ↔
        first.Mended (requests.filterMap stepOf?) ∧
          Text.Whole session.id ∧ Text.Whole session.cwd) ∧
      ∀ invocation builtin cwd, invocation.name = Builtin.name builtin →
        (first.Mended (requests.filterMap stepOf?) →
          session.dispatch invocation cwd =
            (Session.shownReply (builtin.run (session.context invocation cwd) session.world).1,
              session.withWorld (builtin.run (session.context invocation cwd) session.world).2)) ∧
        (¬ first.Mended (requests.filterMap stepOf?) →
          session.dispatch invocation cwd =
            (Session.faultReply (.brokenTree session.tree.issues), session)) := by
  unfold start at started
  cases configured : Environment.configure {} process clock with
  | error refusal =>
    rw [configured] at started
    cases started
  | ok environment =>
    rw [configured] at started
    cases started
    have shared : (Session.start id Seed.tree environment fresh "" Session.defaultMaxHistory).Shared
        True :=
      ⟨rfl, Path.Normal.not_absolute (.inl rfl), fun _ => Session.seed_fit True,
        fun broken => absurd trivial broken⟩
    have relative : ∀ step ∈ requests.filterMap stepOf?, step.Relative := by
      intro step member
      obtain ⟨request, _, made⟩ := List.mem_filterMap.mp member
      exact relative_of_stepOf? made
    have later := shared.after relative
    have issues := later.issues_eq_nil_iff
    refine ⟨_, _, rfl, after_session _ requests, ?_, ?_⟩
    · rw [after_session, reportedIssues_eq_nil_iff, issues]
    · intro invocation builtin cwd named
      constructor
      · intro mended
        exact Session.dispatch_builtin later.stocked named (issues.mpr mended) cwd
      · intro broken
        exact Session.dispatch_broken later.stocked named (fun none => broken (issues.mp none)) cwd

theorem start_seeded :
    start "seeded" {} (.still ⟨2025, 3, 7, 14, 5, 9, .unknown⟩) ⟨#[], 0⟩ = .ok (.ok Session.seeded) := rfl

def breach : Http.Request where
  method := .post
  path := Route.execute.path
  body := .document (.object [("command", .string "mkdir -p x"),
    ("current_directory", .string "a//b")])

theorem reports_no_issues_iff_seeded :
    ∃ session, after (.ok Session.seeded) [breach] = .ok session ∧
      ((after (.ok Session.seeded) [breach]).reportedIssues = some [] ↔
        Session.seeded.Mended ([breach].filterMap stepOf?) ∧
          Text.Whole session.id ∧ Text.Whole session.cwd) := by
  obtain ⟨first, session, same, later, reported, _⟩ := reports_no_issues_iff start_seeded [breach]
  cases same
  exact ⟨session, later, reported⟩

theorem reports_issue_after_breach :
    start "seeded" {} (.still ⟨2025, 3, 7, 14, 5, 9, .unknown⟩) ⟨#[], 0⟩ = .ok (.ok Session.seeded) ∧
      (after (.ok Session.seeded) [breach]).reportedIssues =
        some ["Directory 'a//b/x' is not canonical"] :=
  ⟨start_seeded, by decide +kernel⟩

end TreeShell.Service
