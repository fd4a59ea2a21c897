import TreeShell.Proofs.Client.Rejections
import TreeShell.Proofs.Client.Retrying

namespace TreeShell.Client

variable {settings : Settings} {method : Http.Method} {path : String} {url : Http.Url}
  {query : Option (List (String × String))} {body : Http.Payload} {request : Http.Request}
  {script : Nat → Outcome} {finish : Outcome → Except Error Json}

/-- A failure tells of the outcome of an attempt to reach an address. -/
def Failure.Tells (settings : Settings) (url : String) : Outcome → Failure → Prop
  | .answered response, .rejected rejection => rejection.kind.Suits response.status
  | .broken .timeout, .timedOut _ timeout address => timeout = settings.timeout ∧ address = url
  | .broken (.connection cause), .disconnected _ address source => address = url ∧ source = cause
  | _, _ => False

/-- Sense can be made of an outcome, unless it is an answer with a baffling body. -/
def Outcome.Sensible : Outcome → Prop
  | .answered response => Complaint.makesSense response.body
  | .broken _ => True

theorem not_isSuccess_of_mayPass {response : Http.Response}
    (passing : (Outcome.answered response).mayPass) : ¬ response.isSuccess := by
  have status : response.status ∈ passingStatuses := List.contains_iff_mem.mp passing
  simp only [passingStatuses, List.mem_cons, List.not_mem_nil, or_false] at status
  simp only [Http.Response.isSuccess, decide_eq_true_eq, Bool.and_eq_true]
  omega

theorem settle_tells_iff {outcome : Outcome} (url : String) (passing : outcome.mayPass) :
    (∃ failure, settle settings url outcome = .error (.failure failure) ∧
      failure.Tells settings url outcome) ↔ outcome.Sensible := by
  cases outcome with
  | answered response =>
    have failed := not_isSuccess_of_mayPass passing
    constructor
    · rintro ⟨failure, settled, _⟩
      apply Classical.byContradiction
      intro baffling
      obtain ⟨flaw, decoded⟩ := decode_of_baffling failed baffling
      rw [settle, decoded] at settled
      cases settled
    · intro sense
      obtain ⟨rejection, decoded, suits⟩ := decode_of_makesSense failed sense
      exact ⟨.rejected rejection, decoded, suits⟩
  | broken mishap =>
    refine iff_of_true ?_ trivial
    cases mishap with
    | timeout => exact ⟨_, rfl, rfl, rfl⟩
    | connection cause => exact ⟨_, rfl, rfl, rfl⟩
    | unknownScheme address => cases passing
    | foreign kind => cases passing

theorem attemptFrom_untold {delays : List Number} {number left : Nat}
    (waits : Waits number delays) (failing : ∀ n, (script n).mayPass) (more : left ≠ 0)
    (untold : Backoff.delay Backoff.defaultBase (number + delays.length : Nat) = .error {}) :
    attemptFrom (scripted script) finish request (delays.length + (left + 1)) number number =
      ⟨.error .delayTooLong, List.replicate (delays.length + 1) request, delays,
        number + delays.length + 1⟩ := by
  apply attemptFrom_passing waits (fun i _ => failing (number + i)) (Nat.succ_ne_zero left)
  rw [attemptFrom, scripted]
  dsimp only
  rw [if_pos ⟨failing _, more⟩, untold]

theorem attempts_eq (enabled : settings.retryEnabled) (least : 0 ≤ settings.maxRetries) :
    settings.attempts = settings.maxRetries.toNat + 1 := by
  rw [Settings.attempts, if_pos enabled]
  omega

theorem call_exhausted (enabled : settings.retryEnabled) (least : 0 ≤ settings.maxRetries)
    (most : settings.maxRetries ≤ 1024) (failing : ∀ n, (script n).mayPass)
    (resolved : settings.resolve? path query = some url)
    (kept : ∀ n response, script n = .answered response → url.scheme ≠ "")
    (writable : body.isWritable) :
    let run := call settings (scripted script) method path query body 0
    run.sent = List.replicate (settings.maxRetries.toNat + 1) (.to url method query body) ∧
      run.result = settle settings (settings.url path) (script settings.maxRetries.toNat) := by
  have attempts := attempts_eq enabled least
  obtain ⟨delays, counted, waits⟩ := @exists_waits settings.maxRetries.toNat (by omega)
  have parts : settings.attempts = delays.length + (0 + 1) := by omega
  have positive : settings.attempts ≠ 0 := by omega
  rw [call, if_neg positive, resolved]
  dsimp only
  rw [if_pos writable, towards_scripted kept, parts,
    attemptFrom_scripted waits (fun i _ => failing (0 + i)) (.inr rfl), Nat.zero_add, counted]
  exact ⟨rfl, rfl⟩

theorem call_untold (enabled : settings.retryEnabled) (late : 1024 < settings.maxRetries)
    (failing : ∀ n, (script n).mayPass) (resolved : settings.resolve? path query = some url)
    (kept : ∀ n response, script n = .answered response → url.scheme ≠ "")
    (writable : body.isWritable) :
    let run := call settings (scripted script) method path query body 0
    run.sent = List.replicate 1025 (.to url method query body) ∧
      run.result = .error .delayTooLong := by
  have attempts := attempts_eq enabled (by omega)
  obtain ⟨delays, counted, waits⟩ := @exists_waits 1024 (by omega)
  have parts : settings.attempts = delays.length + (settings.maxRetries.toNat - 1024 + 1) := by omega
  have positive : settings.attempts ≠ 0 := by omega
  have more : settings.maxRetries.toNat - 1024 ≠ 0 := by omega
  have untold : Backoff.delay Backoff.defaultBase (0 + delays.length : Nat) = .error {} :=
    Backoff.delay_of_lt (by omega)
  rw [call, if_neg positive, resolved]
  dsimp only
  rw [if_pos writable, towards_scripted kept, parts,
    attemptFrom_untold waits failing more untold, counted]
  exact ⟨rfl, rfl⟩

/-- The delay after an attempt is told exactly up to attempt 1023, and then it is half a second
    doubled for each attempt before, half a minute at most and no less than any delay before it. So a
    call of which every attempt fails makes all its attempts exactly when there are no more than 1024
    retries, and ends in the failure of the last one when besides sense can be made of that; with more
    retries the delay after attempt 1024 ends it. A call that gives way does the same. -/
theorem call_exhausts_iff (enabled : settings.retryEnabled) (least : 0 ≤ settings.maxRetries)
    (failing : ∀ n, (script n).mayPass) (resolved : settings.resolve? path query = some url)
    (kept : ∀ n response, script n = .answered response → url.scheme ≠ "")
    (writable : body.isWritable) :
    (∀ attempt : Nat,
      ((∃ pause, Backoff.delay Backoff.defaultBase attempt = .ok pause) ↔ attempt ≤ 1023) ∧
      ∀ pause, Backoff.delay Backoff.defaultBase attempt = .ok pause →
        ∃ seconds, pause.value? = some seconds ∧ seconds = min (1 / 2 * 2 ^ attempt) 30 ∧
          seconds ≤ 30 ∧ ∀ earlier ≤ attempt, ∃ before fewer,
            Backoff.delay Backoff.defaultBase earlier = .ok before ∧
              before.value? = some fewer ∧ fewer ≤ seconds) ∧
    let run := call settings (scripted script) method path query body 0
    ((run.sent.length : Int) = settings.maxRetries + 1 ↔ settings.maxRetries ≤ 1024) ∧
      ((∃ failure, run.result = .error (.failure failure) ∧
          failure.Tells settings (settings.url path) (script settings.maxRetries.toNat)) ↔
        settings.maxRetries ≤ 1024 ∧ (script settings.maxRetries.toNat).Sensible) ∧
      (1024 < settings.maxRetries →
        run.sent.length = 1025 ∧ run.result = .error .delayTooLong) ∧
      (∀ sent ∈ run.sent, sent = .to url method query body) ∧
      (Suspended.call settings method path query body).drive (scripted script) 0 = run.log := by
  refine ⟨fun attempt => ⟨Backoff.delay_told_iff attempt, fun _ => Backoff.delay_longest⟩, ?_⟩
  intro run
  have driven := @drive_call settings method path query body Nat (scripted script) 0
  by_cases most : settings.maxRetries ≤ 1024
  · obtain ⟨sent, result⟩ :=
      @call_exhausted settings method path url query body script enabled least most failing
        resolved kept writable
    refine ⟨iff_of_true ?_ most, ?_, fun late => absurd most (by omega), ?_, driven⟩
    · rw [sent, List.length_replicate]
      omega
    · rw [result, and_iff_right most]
      exact settle_tells_iff _ (failing _)
    · rw [sent]
      exact fun _ member => List.eq_of_mem_replicate member
  · have late : 1024 < settings.maxRetries := by omega
    obtain ⟨sent, result⟩ :=
      @call_untold settings method path url query body script enabled late failing resolved kept
        writable
    refine ⟨iff_of_false ?_ most, iff_of_false ?_ fun told => most told.1, fun _ => ⟨?_, result⟩,
      ?_, driven⟩
    · rw [sent, List.length_replicate]
      omega
    · rintro ⟨failure, failed, _⟩
      rw [result] at failed
      cases failed
    · rw [sent, List.length_replicate]
    · rw [sent]
      exact fun _ member => List.eq_of_mem_replicate member

def stubborn (retries : Int) : Settings := { retryEnabled := true, maxRetries := retries }

def ailing (_ : Nat) : Outcome := .answered ⟨503, .empty⟩

theorem resolve?_stubborn (retries : Int) :
    (stubborn retries).resolve? "/health" none =
      some ⟨"http", ⟨"", "localhost", some 8000⟩, "/health", none⟩ := by
  have same : (stubborn retries).resolve? "/health" none =
      (stubborn 0).resolve? "/health" none := rfl
  rw [same]
  decide +kernel

theorem call_exhausts_iff_ailing :
    let run := call (stubborn 1024) (scripted ailing) .get "/health" none .empty 0
    (run.sent.length : Int) = 1024 + 1 ∧
      ∃ failure, run.result = .error (.failure failure) ∧
        failure.Tells (stubborn 1024) "http://localhost:8000/health" (ailing 1024) := by
  have whole := @call_exhausts_iff (stubborn 1024) .get "/health" _ none .empty ailing rfl (by decide)
    (fun _ => rfl) (resolve?_stubborn 1024) (fun _ _ _ => by decide) rfl
  have sensible : (ailing 1024).Sensible := show Complaint.makesSense .empty = true by decide +kernel
  exact ⟨whole.2.1.mpr (by decide), whole.2.2.1.mpr ⟨by decide, sensible⟩⟩

/-- One retry more, and the last attempt is not made. -/
theorem delay_untold :
    (∀ pause, Backoff.delay Backoff.defaultBase 1024 ≠ .ok pause) ∧
      let run := call (stubborn 1025) (scripted ailing) .get "/health" none .empty 0
      run.sent.length = 1025 ∧ run.result = .error .delayTooLong := by
  constructor
  · intro pause told
    have late : Backoff.delay Backoff.defaultBase (1024 : Nat) = .error {} :=
      Backoff.delay_of_lt (by decide)
    have clash := late.symm.trans told
    cases clash
  · obtain ⟨sent, result⟩ :=
      @call_untold (stubborn 1025) .get "/health" _ none .empty ailing rfl (by decide)
        (fun _ => rfl) (resolve?_stubborn 1025) (fun _ _ _ => by decide) rfl
    exact ⟨by rw [sent, List.length_replicate], result⟩

end TreeShell.Client
