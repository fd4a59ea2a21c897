import TreeShell.Proofs.Client.Calls
import TreeShell.Proofs.Service.Requests

namespace TreeShell.Client

open Session (Step)

/-- What becomes of an attempt: the service answers it, or it fails in a way that may pass, where
    the service may have taken it all the same. -/
inductive Fate
  | answered
  | failed (delivered : Bool) (outcome : Outcome) (passing : outcome.mayPass)

def Fate.delivers : Fate → Bool
  | .answered => true
  | .failed delivered _ _ => delivered

def fatedTransport (fates : Nat → Fate) : Transport (Nat × Service) :=
  fun request (tried, service) =>
    let (response, reached) := service.handle request
    match fates tried with
    | .answered => (.answered response, tried + 1, reached)
    | .failed delivered outcome _ => (outcome, tried + 1, if delivered then reached else service)

def met (fates : Nat → Fate) (tried count : Nat) : List Fate :=
  (List.range' tried count).map fates

def deliveries (met : List Fate) : Nat := met.countP Fate.delivers

variable {settings : Settings} {fates : Nat → Fate} {request : Http.Request} {step : Step}

theorem met_succ (fates : Nat → Fate) (tried count : Nat) :
    met fates tried (count + 1) = fates tried :: met fates (tried + 1) count := by
  rw [met, List.range'_succ, List.map_cons]
  rfl

theorem deliveries_cons (fate : Fate) (later : List Fate) :
    deliveries (fate :: later) = deliveries [fate] + deliveries later := by
  rw [deliveries, ← List.singleton_append, List.countP_append]
  rfl

theorem deliveries_le_one_iff (met : List Fate) :
    deliveries met ≤ 1 ↔
      met.Pairwise fun earlier later => ¬ (earlier.delivers ∧ later.delivers) := by
  induction met with
  | nil => simp [deliveries]
  | cons fate later ih =>
    rw [deliveries_cons, List.pairwise_cons, ← ih]
    by_cases delivers : fate.delivers
    · have one : deliveries [fate] = 1 := List.countP_eq_length.mpr (by simpa using delivers)
      have none : deliveries later = 0 ↔ ∀ other ∈ later, ¬ other.delivers := List.countP_eq_zero
      simp only [one, delivers, true_and, ← none]
      omega
    · have zero : deliveries [fate] = 0 := List.countP_eq_zero.mpr (by simpa using delivers)
      simp [zero, delivers]

theorem after_replicate_add (session : Session) (step : Step) (first second : Nat) :
    session.after (List.replicate (first + second) step) =
      (session.after (List.replicate first step)).after (List.replicate second step) := by
  rw [List.replicate_add]
  exact List.foldl_append

theorem fatedTransport_eq (fates : Nat → Fate) (asks : Service.stepOf? request = some step)
    (tried : Nat) (session : Session) :
    ∃ outcome, fatedTransport fates request (tried, .ok session) =
        (outcome, tried + 1,
          .ok (session.after (List.replicate (deliveries [fates tried]) step))) ∧
      (outcome.mayPass ↔ fates tried ≠ .answered) := by
  have reached := Service.handle_session session request
  rw [asks] at reached
  unfold fatedTransport
  dsimp only
  rw [reached]
  cases fates tried with
  | answered =>
    have lasting := not_mayPass_handle (.ok session) request
    exact ⟨_, rfl, by simpa using lasting⟩
  | failed delivered outcome passing =>
    refine ⟨outcome, ?_, by simpa using passing⟩
    cases delivered <;> rfl

/-- A call kept to a limit of attempts, tried again only what had failed, and had a session take a
    step for every attempt that reached it. -/
structure Retried {α : Type} (fates : Nat → Fate) (step : Step) (limit tried : Nat)
    (session : Session) (run : Run (Nat × Service) α) : Prop where
  bounded : run.sent.length ≤ limit
  repeats : run.state = (tried + run.sent.length, .ok (session.after
    (List.replicate (deliveries (met fates tried run.sent.length)) step)))
  failed : ∀ fate ∈ (met fates tried run.sent.length).dropLast, fate ≠ .answered
  ends : run.result = .error .delayTooLong ∨
    run.sent.length = limit ∨ (met fates tried run.sent.length).getLast? = some .answered

variable {finish : Outcome → Except Error Json} {left tried : Nat} {session : Session}

theorem Retried.single {run : Run (Nat × Service) Json} (once : run.sent.length = 1)
    (state : run.state = (tried + 1,
      .ok (session.after (List.replicate (deliveries [fates tried]) step))))
    (ends : run.result = .error .delayTooLong ∨ left = 0 ∨ fates tried = .answered) :
    Retried fates step (left + 1) tried session run := by
  have here : met fates tried run.sent.length = [fates tried] := by
    rw [once]
    rfl
  refine ⟨by omega, ?_, by simp [here], ?_⟩
  · rw [here, once, state]
  · rw [here, once]
    rcases ends with long | last | answered
    · exact .inl long
    · exact .inr (.inl (by rw [last]))
    · exact .inr (.inr (congrArg some answered))

theorem Retried.after {run : Run (Nat × Service) Json} (request : Http.Request) (delay : Number)
    (failed : fates tried ≠ .answered)
    (later : Retried fates step left (tried + 1)
      (session.after (List.replicate (deliveries [fates tried]) step)) run) :
    Retried fates step (left + 1) tried session (run.after request delay) := by
  have sent : (run.after request delay).sent.length = run.sent.length + 1 := rfl
  have whole : met fates tried (run.after request delay).sent.length =
      fates tried :: met fates (tried + 1) run.sent.length := by
    rw [sent, met_succ]
  refine ⟨Nat.succ_le_succ later.bounded, ?_, ?_, ?_⟩
  · have state : (run.after request delay).state = run.state := rfl
    have count : tried + 1 + run.sent.length = tried + (run.sent.length + 1) := by omega
    rw [whole, deliveries_cons _ (met ..), after_replicate_add, state, later.repeats, sent, count]
  · rw [whole]
    intro fate member
    cases rest : met fates (tried + 1) run.sent.length with
    | nil => simp [rest] at member
    | cons next others =>
      rw [rest, List.dropLast_cons_cons, List.mem_cons] at member
      rcases member with rfl | member
      · exact failed
      · exact later.failed fate (by rw [rest]; exact member)
  · rw [whole, sent]
    rcases later.ends with long | last | answered
    · exact .inl long
    · exact .inr (.inl (by rw [last]))
    · exact .inr (.inr (by rw [List.getLast?_cons, answered]; rfl))

theorem Retried.bind {α β : Type} {limit : Nat} {run : Run (Nat × Service) α}
    (retried : Retried fates step limit tried session run) (next : α → Except Error β) :
    Retried fates step limit tried session (run.bind next) := by
  refine ⟨retried.bounded, retried.repeats, retried.failed, ?_⟩
  rcases retried.ends with long | rest
  · exact .inl (congrArg (Except.bind · next) long)
  · exact .inr rest

theorem attemptFrom_retried (asks : Service.stepOf? request = some step) (left number tried : Nat)
    (session : Session) :
    Retried fates step left tried session
      (attemptFrom (fatedTransport fates) finish request left number (tried, .ok session)) := by
  -- The session moves on with every attempt, whether or not the client hears of it.
  induction left generalizing number tried session with
  | zero => exact ⟨Nat.le_refl 0, rfl, by simp [attemptFrom, met], .inr (.inl rfl)⟩
  | succ left ih =>
    obtain ⟨outcome, moved, passing⟩ := fatedTransport_eq fates asks tried session
    unfold attemptFrom
    rw [moved]
    dsimp only
    by_cases again : outcome.mayPass ∧ left ≠ 0
    · rw [if_pos again]
      -- The delay is a doubling that gets too long after about a thousand attempts.
      cases Backoff.delay Backoff.defaultBase number with
      | ok delay => exact (ih _ _ _).after request delay (passing.mp again.1)
      | error _ => exact .single rfl rfl (.inl rfl)
    · rw [if_neg again]
      refine .single rfl rfl (.inr ?_)
      by_cases last : left = 0
      · exact .inl last
      · exact .inr (by_contra fun failed => again ⟨passing.mpr failed, last⟩)

theorem isWritable_orderBody (line : String) (directory : Option String) :
    (Http.Payload.document (Connection.orderBody line directory)).isWritable := by
  cases directory <;> rfl

theorem stepOf?_execute (line : String) (directory : Option String) :
    Service.stepOf? ⟨.post, Route.execute.path, [],
      .document (Connection.orderBody line directory)⟩ =
        some (Service.Order.step ⟨line, directory⟩) := by
  unfold Service.stepOf?
  rw [Route.ofPath?_path]
  cases directory <;> rfl

/-- A call that runs a line has it run once for each attempt that reaches the session. It attempts
    again, as often as it may, until it is answered, so the line runs at most once just when no two
    of the attempts reach the session. -/
theorem execute_retried (rooted : settings.AtRoot) (fates : Nat → Fate) (session : Session)
    (line : String) (directory : Option String) :
    let run := Connection.execute ⟨settings, fatedTransport fates⟩ line directory (0, .ok session)
    Retried fates (Service.Order.step ⟨line, directory⟩) settings.attempts 0 session run ∧
      (deliveries (met fates 0 run.sent.length) ≤ 1 ↔
        (met fates 0 run.sent.length).Pairwise fun earlier later =>
          ¬ (earlier.delivers ∧ later.delivers)) := by
  refine ⟨?_, deliveries_le_one_iff _⟩
  have called := call_route (fatedTransport fates) rooted fits_none .post .execute
    (isWritable_orderBody line directory) (0, .ok session)
  have posted : Connection.post ⟨settings, fatedTransport fates⟩ "/terminal/execute" none
      (.document (Connection.orderBody line directory)) (0, .ok session) = _ := called
  unfold Connection.execute
  rw [posted]
  exact (attemptFrom_retried (stepOf?_execute line directory) _ 0 0 session).bind _

def lateOnce : Nat → Fate
  | 0 => .failed true (.broken .timeout) rfl
  | _ => .answered

def appendTwice : Run (Nat × Service) Report.Execution :=
  Connection.execute ⟨{ retryEnabled := true }, fatedTransport lateOnce⟩ "echo x >> log" none
    (0, .ok Session.seeded)

theorem length_sent_appendTwice : appendTwice.sent.length = 2 := by decide +kernel

theorem execute_retried_late :
    appendTwice.state =
      (2, .ok (Session.seeded.after (List.replicate 2 (.execute "echo x >> log" none)))) := by
  have rooted : ({ retryEnabled := true } : Settings).AtRoot := atRoot_default
  have retried : Retried lateOnce (.execute "echo x >> log" none) _ 0 Session.seeded appendTwice :=
    (execute_retried rooted lateOnce Session.seeded "echo x >> log" none).1
  have state := retried.repeats
  rw [length_sent_appendTwice] at state
  exact state

def loggedBy : Service → Option String
  | .ok session => session.tree.content? "log"
  | .error _ => none

theorem execute_not_once :
    appendTwice.sent.length = 2 ∧ loggedBy appendTwice.state.2 = some "x\nx" ∧
      ¬ ∃ count ≤ 1, appendTwice.state.2 =
        .ok (Session.seeded.after (List.replicate count (.execute "echo x >> log" none))) := by
  have twice : loggedBy appendTwice.state.2 = some "x\nx" := by decide +kernel
  refine ⟨length_sent_appendTwice, twice, ?_⟩
  rintro ⟨count, bound, same⟩
  rw [same] at twice
  rcases Nat.le_one_iff_eq_zero_or_eq_one.mp bound with rfl | rfl
  · exact absurd twice (by decide +kernel)
  · exact absurd twice (by decide +kernel)

end TreeShell.Client
