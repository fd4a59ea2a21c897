import TreeShell.Proofs.Service.Requests
import TreeShell.Proofs.Session.History

namespace TreeShell

namespace Session

variable {session : Session} {line : String} {directory : Option Path}

theorem replyTo_blank (blank : Text.trim line = "") (session : Session)
    (directory : Option Path) : session.replyTo line directory = {} := by
  have unnamed : (Invocation.parse line).name = "" := by
    rw [Invocation.parse, blank]
    decide
  rw [replyTo, dispatch, if_pos unnamed]

theorem replyTo_clears_iff (room : 0 < session.maxHistory) :
    (session.replyTo line directory).clearScreen ↔
      (session.execute line directory).2.history = [] ∧ Text.trim line ≠ "" := by
  constructor
  · intro clears
    refine ⟨(execute_of_clear clears).1, ?_⟩
    intro blank
    rw [replyTo_blank blank] at clears
    cases clears
  · rintro ⟨emptied, filled⟩
    by_contra shows
    obtain ⟨world, same⟩ := session.exists_withWorld_afterCommand line directory
    rw [execute_of_not_clear shows, if_neg filled, same] at emptied
    have short := congrArg List.length emptied
    simp only [record, List.length_drop, List.length_append, List.length_singleton, withWorld,
      List.length_nil] at short
    omega

end Session

namespace Service

def Orders (request : Http.Request) (order : Order) : Prop :=
  Asks request .execute ∧
    ∃ document, request.body.read = .ok document ∧ Order.ofBody document = .ok order

def Idle (request : Http.Request) : Prop :=
  ¬ Asks request .reset ∧ ∀ order, ¬ Orders request order

variable {session : Session} {request : Http.Request} {order : Order}

theorem stepOf?_of_idle (idle : Idle request) : stepOf? request = none := by
  obtain ⟨noReset, noOrder⟩ := idle
  unfold stepOf?
  split
  · rename_i found
    split
    · rename_i post
      split
      · rename_i document read
        cases checked : Order.ofBody document with
        | error _ => rfl
        | ok order => exact absurd ⟨⟨found, post⟩, document, read, checked⟩ (noOrder order)
      · rfl
    · rfl
  · rename_i found
    have other : ¬ request.method = .post := fun post => noReset ⟨found, post⟩
    rw [if_neg other]
  · rfl

theorem handle_idle (idle : Idle request) (session : Session) :
    (handle (.ok session) request).2 = .ok session := by
  rw [handle_session, stepOf?_of_idle idle, Option.elim_none]

theorem after_idle {requests : List Http.Request} (idle : ∀ request ∈ requests, Idle request)
    (session : Session) : after (.ok session) requests = .ok session := by
  have none : requests.filterMap stepOf? = [] :=
    List.filterMap_eq_nil_iff.mpr fun request member => stepOf?_of_idle (idle request member)
  rw [after_session, none]
  rfl

theorem handle_orders (orders : Orders request order) (session : Session) :
    handle (.ok session) request =
      (respond (.ok (order.run session).1.document), .ok (order.run session).2) := by
  obtain ⟨asks, document, read, checked⟩ := orders
  rw [handle_asks asks]
  simp only [answer, execute, read, checked]

/-- The answer to a line that is run, and the session from then on, agree: the directory is the one
    that the state reports, and the screen is cleared along with the history. -/
structure Agrees (session : Session) (order : Order) (execution : Report.Execution)
    (after : Session) : Prop where
  directory : ∀ views : List Http.Request, (∀ view ∈ views, Idle view) →
    ∀ last, Asks last .state → ∃ state : Report.State,
      ((Service.after (.ok after) views).handle last).1 = respond (.ok state.document) ∧
        state.currentDirectory = execution.newDirectory
  clear : execution.clear ↔ session.traceOf order.step = .wipe
  history : after.history =
    (session.traceOf order.step).onto session.history session.maxHistory
  emptied : 0 < session.maxHistory →
    (execution.clear ↔ after.history = [] ∧ Text.trim order.line ≠ "")

theorem agrees_run (session : Session) (order : Order) :
    Agrees session order (order.run session).1 (order.run session).2 := by
  obtain ⟨clears, directory⟩ := session.execute_shows order.line
    (order.directory.map fun path => Path.ofBrowser (some path))
  refine ⟨?_, ?_, session.history_apply order.step, ?_⟩
  · intro views idle last asks
    rw [after_idle idle, handle_state asks]
    exact ⟨.ofSnapshot (order.run session).2.snapshot, rfl, directory.symm⟩
  · show (session.execute _ _).1.clearScreen = true ↔ _
    rw [clears, Order.step, Session.traceOf]
    split
    · rename_i clear
      exact iff_of_true clear rfl
    · rename_i shows
      refine iff_of_false shows ?_
      split <;> exact Session.Trace.noConfusion
  · intro room
    show (session.execute _ _).1.clearScreen = true ↔ _
    rw [clears]
    exact Session.replyTo_clears_iff room

/-- The response tells what came of a line just when that can be written. -/
structure Tells (response : Http.Response) (execution : Report.Execution) : Prop where
  success : Text.Whole execution.output ∧ Text.Whole execution.newDirectory →
    response = ⟨200, .document execution.document⟩
  failure : ¬ (Text.Whole execution.output ∧ Text.Whole execution.newDirectory) →
    ∃ complaint, response = (Problem.ofUnwritable complaint).response

theorem tells_respond (execution : Report.Execution) :
    Tells (respond (.ok execution.document)) execution := by
  constructor
  · intro texts
    exact respond_of_whole (Report.Execution.whole_document.mpr texts)
  · intro half
    obtain ⟨complaint, _, same⟩ :=
      respond_of_not_whole fun whole => half (Report.Execution.whole_document.mp whole)
    exact ⟨complaint, same⟩

/-- A request that neither resets nor asks for a line to be run leaves the shared session exactly as
    it was, whatever its answer. A line to run is always run; it is answered with success when what
    came of it can be written, and otherwise as an invalid value, though it has been run. -/
theorem session_kept_or_run (session : Session) (request : Http.Request) :
    (Idle request → (handle (.ok session) request).2 = .ok session) ∧
      ∀ order, Orders request order → ∃ response execution after,
        handle (.ok session) request = (response, .ok after) ∧ Tells response execution ∧
          Agrees session order execution after := by
  refine ⟨fun idle => handle_idle idle session, fun order orders => ?_⟩
  exact ⟨_, _, _, handle_orders orders session, tells_respond _, agrees_run session order⟩

theorem session_kept_or_run_breach :
    (handle (.ok Session.seeded) ⟨.get, "/nowhere", [], .empty⟩).2 = .ok Session.seeded ∧
      ∃ response execution after,
        handle (.ok Session.seeded) breach = (response, .ok after) ∧ Tells response execution ∧
          Agrees Session.seeded ⟨"mkdir -p x", some "a//b"⟩ execution after := by
  have idle : Idle ⟨.get, "/nowhere", [], .empty⟩ := by
    constructor
    · rintro ⟨found, _⟩
      cases found
    · rintro order ⟨⟨found, _⟩, _⟩
      cases found
  have orders : Orders breach ⟨"mkdir -p x", some "a//b"⟩ :=
    ⟨⟨Route.ofPath?_path .execute, rfl⟩, _, rfl, rfl⟩
  exact ⟨(session_kept_or_run Session.seeded _).1 idle,
    (session_kept_or_run Session.seeded breach).2 _ orders⟩

def halved : Order := ⟨"echo " ++ String.singleton (Text.unitChar 0xD800), none⟩

def halvedRequest : Http.Request where
  method := .post
  path := Route.execute.path
  body := .text "\x7b\"command\": \"echo \\ud800\"\x7d" 2

theorem orders_halved : Orders halvedRequest halved := by
  refine ⟨⟨Route.ofPath?_path .execute, rfl⟩, ?_⟩
  have checked : halvedRequest.body.read.toOption.map Order.ofBody = some (.ok halved) := by
    decide +kernel
  cases read : halvedRequest.body.read with
  | error error =>
    rw [read] at checked
    cases checked
  | ok document =>
    rw [read] at checked
    exact ⟨document, rfl, Option.some.inj checked⟩

/-- Not every line to run is answered with success. -/
theorem status_halved :
    Orders halvedRequest halved ∧
      (handle (.ok Session.seeded) halvedRequest).1.status = 400 ∧
      (handle (.ok Session.seeded) halvedRequest).2.toOption.map Session.history =
        some [⟨halved.line, "", String.singleton (Text.unitChar 0xD800)⟩] :=
  ⟨orders_halved, by decide +kernel⟩

end Service

end TreeShell
