import Mathlib.Data.Nat.Find
import Mathlib.Order.Bounds.Basic
import TreeShell.Client.Suspended
import TreeShell.Proofs.Client.Backoff

namespace TreeShell.Client

variable {settings : Settings} {method : Http.Method} {path : String} {url : Http.Url}
  {query : Option (List (String × String))} {body : Http.Payload} {request : Http.Request}

/-! ## Waiting and giving way -/

def weave : List Http.Request → List Number → List Event
  | [], slept => slept.map .slept
  | request :: sent, [] => .sent request :: weave sent []
  | request :: sent, delay :: slept => .sent request :: .slept delay :: weave sent slept

/-- What is seen of a run: each delay comes right after the attempt that it follows. -/
def Run.log {σ : Type} (run : Run σ Json) : Log σ :=
  ⟨run.result, weave run.sent run.slept, run.state⟩

section Driven

variable {σ : Type}

theorem log_after (run : Run σ Json) (request : Http.Request) (delay : Number) :
    (run.after request delay).log = (run.log.after (.slept delay)).after (.sent request) := rfl

theorem attempting_cons (attempt : Nat) (rest : List Nat) :
    Suspended.attempting settings path url request (attempt :: rest) =
      .sending url request fun outcome =>
        if outcome.mayPass ∧ attempt + 1 < settings.attempts then
          .pause attempt (Suspended.attempting settings path url request rest)
        else .done (settle settings (settings.url path) outcome) := by
  rw [Suspended.attempting]
  congr 1
  funext outcome
  cases outcome with
  | answered response =>
    by_cases later : attempt + 1 < settings.attempts
    · simp [Outcome.mayPass, later, settle]
    · simp [Outcome.mayPass, later, settle]
  | broken mishap =>
    by_cases later : attempt + 1 < settings.attempts
    · cases mishap <;> simp [Outcome.mayPass, later]
    · cases mishap <;> simp [Outcome.mayPass, later]

theorem drive_attempting (transport : Transport σ) {number left : Nat}
    (within : number + left = settings.attempts) (state : σ) :
    (Suspended.attempting settings path url request (List.range' number left)).drive transport
        state =
      (attemptFrom (transport.towards url) (settle settings (settings.url path)) request left number
        state).log := by
  induction left generalizing number state with
  | zero => rfl
  | succ left ih =>
    -- One loop counts up to the number of attempts and the other down from it.
    have turn : number + 1 < settings.attempts ↔ left ≠ 0 := by omega
    rw [List.range'_succ, attempting_cons, Suspended.drive, attemptFrom]
    rcases transport.towards url request state with ⟨outcome, reached⟩
    have again := @ih (number + 1) (by omega) reached
    dsimp only
    by_cases next : outcome.mayPass ∧ left ≠ 0
    · rw [if_pos next, if_pos ⟨next.1, turn.mpr next.2⟩, Suspended.pause]
      cases Backoff.delay Backoff.defaultBase number with
      | ok delay => rw [log_after, ← again, Suspended.drive]
      | error _ => rfl
    · rw [if_neg next, if_neg fun more => next ⟨more.1, turn.mp more.2⟩]
      rfl

theorem drive_call (transport : Transport σ) (state : σ) :
    (Suspended.call settings method path query body).drive transport state =
      (call settings transport method path query body state).log := by
  unfold Suspended.call call
  split
  · rfl
  · cases settings.resolve? path query with
    | none => rfl
    | some url =>
      dsimp only
      split
      · rw [List.range_eq_range']
        exact drive_attempting transport (Nat.zero_add _) state
      · rfl

end Driven

/-! ## Outcomes that are told beforehand -/

def scripted (script : Nat → Outcome) : Transport Nat :=
  fun _ tried => (script tried, tried + 1)

def Outcome.Ordinary : Outcome → Prop
  | .answered _ | .broken .timeout | .broken (.connection _) => True
  | .broken _ => False

def Outcome.Lasts (outcome : Outcome) : Prop :=
  ∃ response, outcome = .answered response ∧ response.status ∉ passingStatuses

theorem mayPass_iff {outcome : Outcome} (ordinary : outcome.Ordinary) :
    outcome.mayPass ↔ ¬ outcome.Lasts := by
  cases outcome with
  | answered response => simp [Outcome.mayPass, Outcome.Lasts]
  | broken mishap => cases mishap <;> simp_all [Outcome.mayPass, Outcome.Lasts, Outcome.Ordinary]

def Concludes (settings : Settings) (url : String) (outcome : Outcome)
    (result : Except Error Json) : Prop :=
  match outcome with
  | .answered response => result = decode response
  | .broken .timeout =>
    ∃ message, result = .error (.failure (.timedOut message settings.timeout url))
  | .broken (.connection cause) =>
    ∃ message, result = .error (.failure (.disconnected message url cause))
  | .broken _ => False

theorem concludes_settle (settings : Settings) (url : String) {outcome : Outcome}
    (ordinary : outcome.Ordinary) : Concludes settings url outcome (settle settings url outcome) := by
  cases outcome with
  | answered response => rfl
  | broken mishap =>
    cases mishap with
    | timeout => exact ⟨_, rfl⟩
    | connection cause => exact ⟨_, rfl⟩
    | unknownScheme _ => exact ordinary
    | foreign _ => exact ordinary

theorem decode_ne_noAttempts (response : Http.Response) : decode response ≠ .error .noAttempts := by
  unfold decode
  split
  · split
    · simp
    · rename_i error _
      cases error <;> simp [Error.ofReadError]
  · split <;> simp

theorem settle_ne_noAttempts (settings : Settings) (url : String) (outcome : Outcome) :
    settle settings url outcome ≠ .error .noAttempts := by
  cases outcome with
  | answered response => exact decode_ne_noAttempts response
  | broken mishap => cases mishap <;> simp [settle]

variable {script : Nat → Outcome} {finish : Outcome → Except Error Json}

theorem towards_scripted (kept : ∀ n response, script n = .answered response → url.scheme ≠ "") :
    (scripted script).towards url = scripted script := by
  funext request tried
  unfold Transport.towards scripted
  cases told : script tried with
  | answered response => simp [kept tried response told]
  | broken _ => rfl

def Waits (number : Nat) (delays : List Number) : Prop :=
  delays.map .ok =
    (List.range' number delays.length).map fun n : Nat => Backoff.delay Backoff.defaultBase n

theorem exists_waits {count : Nat} (bounded : count ≤ 1024) :
    ∃ delays, delays.length = count ∧ Waits 0 delays := by
  induction count with
  | zero => exact ⟨[], rfl, rfl⟩
  | succ count ih =>
    obtain ⟨delays, rfl, waits⟩ := ih (by omega)
    have few : delays.length ≤ 1023 := by omega
    obtain ⟨delay, defined, _⟩ := Backoff.exists_delay few
    refine ⟨delays ++ [delay], List.length_append, ?_⟩
    rw [Waits, List.length_append, List.length_singleton, List.range'_1_concat, List.map_append,
      List.map_append, waits, Nat.zero_add, List.map_singleton, List.map_singleton, defined]

/-- Attempts that may pass lead to the one behind them, which decides how the run ends. -/
theorem attemptFrom_passing {delays : List Number} {number left : Nat} {result : Except Error Json}
    (waits : Waits number delays) (passing : ∀ i < delays.length, (script (number + i)).mayPass)
    (more : left ≠ 0)
    (ends : attemptFrom (scripted script) finish request left (number + delays.length)
      (number + delays.length) = ⟨result, [request], [], number + delays.length + 1⟩) :
    attemptFrom (scripted script) finish request (delays.length + left) number number =
      ⟨result, List.replicate (delays.length + 1) request, delays, number + delays.length + 1⟩ := by
  induction delays generalizing number with
  | nil =>
    rw [List.length_nil, Nat.zero_add]
    exact ends
  | cons delay delays ih =>
    rw [Waits, List.length_cons, List.range'_succ, List.map_cons, List.map_cons,
      List.cons.injEq] at waits
    have shift (i : Nat) : number + (i + 1) = number + 1 + i := by omega
    rw [List.length_cons] at passing ends ⊢
    rw [shift] at ends
    have next : (script number).mayPass ∧ delays.length + left ≠ 0 := ⟨passing 0 (by omega), by omega⟩
    have later := ih waits.2
      (fun i bounded => by rw [← shift]; exact passing (i + 1) (by omega)) ends
    rw [Nat.add_right_comm, attemptFrom, scripted]
    dsimp only
    rw [if_pos next, ← waits.1]
    dsimp only
    rw [shift delays.length]
    exact congrArg (Run.after request delay) later

theorem attemptFrom_scripted {delays : List Number} {number left : Nat}
    (waits : Waits number delays) (passing : ∀ i < delays.length, (script (number + i)).mayPass)
    (ends : ¬ (script (number + delays.length)).mayPass ∨ left = 0) :
    attemptFrom (scripted script) finish request (delays.length + (left + 1)) number number =
      ⟨finish (script (number + delays.length)), List.replicate (delays.length + 1) request, delays,
        number + delays.length + 1⟩ := by
  apply attemptFrom_passing waits passing (Nat.succ_ne_zero left)
  have stop : ¬ ((script (number + delays.length)).mayPass ∧ left ≠ 0) := by
    rintro ⟨passes, more⟩
    exact ends.elim (absurd passes) more
  rw [attemptFrom, scripted]
  exact if_neg stop

theorem weave_replicate (request : Http.Request) (delays : List Number) :
    weave (List.replicate (delays.length + 1) request) delays =
      delays.flatMap (fun delay => [.sent request, .slept delay]) ++ [.sent request] := by
  induction delays with
  | nil => rfl
  | cons delay delays ih =>
    rw [List.length_cons, List.replicate_succ, weave, ih, List.flatMap_cons]
    rfl

/-! ## Calls -/

theorem Settings.attempts_bounds
    (bounded : 0 ≤ settings.maxRetries ∧ settings.maxRetries ≤ 1024) :
    0 < settings.attempts ∧ settings.attempts ≤ 1025 := by
  unfold Settings.attempts
  split <;> omega

theorem exists_end (positive : 0 < settings.attempts) (script : Nat → Outcome) :
    ∃ k, IsLeast {n | (script n).Lasts ∨ n + 1 = settings.attempts} k := by
  classical
  have ends : ∃ n, (script n).Lasts ∨ n + 1 = settings.attempts :=
    ⟨settings.attempts - 1, .inr (by omega)⟩
  exact ⟨Nat.find ends, Nat.find_spec ends, fun n here => Nat.find_min' ends here⟩

theorem call_scripted {delays : List Number} (positive : 0 < settings.attempts)
    (ordinary : ∀ n, (script n).Ordinary) (resolved : settings.resolve? path query = some url)
    (kept : ∀ n response, script n = .answered response → url.scheme ≠ "")
    (writable : body.isWritable)
    (least : IsLeast {n | (script n).Lasts ∨ n + 1 = settings.attempts} delays.length)
    (waits : Waits 0 delays) :
    call settings (scripted script) method path query body 0 =
      ⟨settle settings (settings.url path) (script delays.length),
        List.replicate (delays.length + 1) (.to url method query body), delays,
        delays.length + 1⟩ := by
  have inTime : delays.length ≤ settings.attempts - 1 := least.2 (.inr (by omega))
  have parts : settings.attempts = delays.length + (settings.attempts - 1 - delays.length + 1) := by
    omega
  have passing : ∀ i < delays.length, (script (0 + i)).mayPass := by
    intro i earlier
    rw [Nat.zero_add, mayPass_iff (ordinary i)]
    intro lasts
    exact absurd (least.2 (.inl lasts)) (Nat.not_le_of_lt earlier)
  have stops : ¬ (script (0 + delays.length)).mayPass ∨
      settings.attempts - 1 - delays.length = 0 := by
    rw [Nat.zero_add, mayPass_iff (ordinary _), not_not]
    exact least.1.imp_right (by omega)
  rw [call, if_neg (Nat.ne_of_gt positive), resolved]
  dsimp only
  rw [if_pos writable, towards_scripted kept, parts, attemptFrom_scripted waits passing stops,
    Nat.zero_add]

/-- A call ends with the first outcome that is an answer another attempt would not better, or with
    that of the last attempt. Up to there it sends one and the same request, and waits in between
    for twice as long each time; its result is what that one outcome means. A call that gives way
    does the same in the same order. Answers come from addresses with a scheme only, since no other
    can be kept. -/
theorem call_retried_exactly
    (bounded : 0 ≤ settings.maxRetries ∧ settings.maxRetries ≤ 1024)
    (ordinary : ∀ n, (script n).Ordinary) (resolved : settings.resolve? path query = some url)
    (kept : ∀ n response, script n = .answered response → url.scheme ≠ "")
    (writable : body.isWritable) :
    ∃ k delays, IsLeast {n | (script n).Lasts ∨ n + 1 = settings.attempts} k ∧
      delays.length = k ∧ Waits 0 delays ∧
      let request := Http.Request.to url method query body
      let run := call settings (scripted script) method path query body 0
      run = ⟨settle settings (settings.url path) (script k), List.replicate (k + 1) request, delays,
          k + 1⟩ ∧
        Concludes settings (settings.url path) (script k) run.result ∧
        run.result ≠ .error .noAttempts ∧
        run.log.events =
          delays.flatMap (fun delay => [.sent request, .slept delay]) ++ [.sent request] ∧
        (Suspended.call settings method path query body).drive (scripted script) 0 = run.log := by
  obtain ⟨positive, limited⟩ := settings.attempts_bounds bounded
  obtain ⟨k, least⟩ := exists_end positive script
  have last : k ≤ settings.attempts - 1 := least.2 (.inr (by omega))
  -- No delay is waited after the last attempt, so the longest one can still be told.
  have few : k ≤ 1024 := by omega
  obtain ⟨delays, rfl, waits⟩ := exists_waits few
  have called := @call_scripted settings method path url query body script delays positive ordinary
    resolved kept writable least waits
  refine ⟨delays.length, delays, least, rfl, waits, called, ?_, ?_, ?_, drive_call _ 0⟩
  · rw [called]
    exact concludes_settle settings _ (ordinary _)
  · rw [called]
    exact settle_ne_noAttempts settings _ _
  · rw [called]
    exact weave_replicate _ delays

def retrying : Settings := { retryEnabled := true }

def recovering : Nat → Outcome
  | 0 => .answered ⟨503, .empty⟩
  | 1 => .broken .timeout
  | _ => .answered ⟨200, .empty⟩

theorem call_retried_recovering :
    ∃ delays, Waits 0 delays ∧ delays.length = 2 ∧
      (call retrying (scripted recovering) .get "/health" none .empty 0).slept = delays ∧
      (call retrying (scripted recovering) .get "/health" none .empty 0).state = 3 ∧
      (call retrying (scripted recovering) .get "/health" none .empty 0).result = .ok .null ∧
      (Suspended.call retrying .get "/health" none .empty).drive (scripted recovering) 0 =
        (call retrying (scripted recovering) .get "/health" none .empty 0).log := by
  have ordinary : ∀ n, (recovering n).Ordinary := by
    intro n
    rcases n with _ | _ | n <;> exact trivial
  have resolved : retrying.resolve? "/health" none =
      some ⟨"http", ⟨"", "localhost", some 8000⟩, "/health", none⟩ := by decide +kernel
  obtain ⟨k, delays, least, counted, waits, run, _, _, _, driven⟩ :=
    @call_retried_exactly retrying .get "/health" _ none .empty recovering (by decide) ordinary
      resolved (fun _ _ _ => by decide) rfl
  have third : k = 2 := by
    refine least.unique ⟨.inl ⟨⟨200, .empty⟩, rfl, by decide⟩, ?_⟩
    rintro n (⟨response, told, lasting⟩ | last)
    · rcases n with _ | _ | n
      · cases told
        exact absurd (by decide) lasting
      · cases told
      · omega
    · have four : retrying.attempts = 4 := rfl
      omega
  subst third
  refine ⟨delays, waits, counted, ?_, ?_, ?_, driven⟩
  · rw [run]
  · rw [run]
  · rw [run]
    rfl

end TreeShell.Client
