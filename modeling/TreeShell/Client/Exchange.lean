import TreeShell.Client.Backoff
import TreeShell.Client.Failure
import TreeShell.Http.Url
import TreeShell.Json.Schema

namespace TreeShell.Client

inductive Mishap
  | timeout
  | connection (cause : String)
  /-- The answer came from an address without a scheme, and cannot be kept. -/
  | unknownScheme (address : String)
  | foreign (kind : String)
  deriving DecidableEq, Repr

inductive Outcome
  | answered (response : Http.Response)
  | broken (mishap : Mishap)
  deriving Repr

/-- Carries a request, and changes what is at the other end. -/
abbrev Transport (σ : Type) := Http.Request → σ → Outcome × σ

def passingStatuses : List Nat := [502, 503, 504]

def Outcome.mayPass : Outcome → Bool
  | .answered response => passingStatuses.contains response.status
  | .broken .timeout | .broken (.connection _) => true
  | .broken _ => false

def Transport.towards {σ : Type} (transport : Transport σ) (url : Http.Url) : Transport σ :=
  fun request state =>
    match transport request state with
    | (.answered response, state) =>
      if url.scheme = "" then (.broken (.unknownScheme url.text), state)
      else (.answered response, state)
    | (broken, state) => (broken, state)

inductive Error
  | failure (failure : Failure)
  | flaw (flaw : Complaint.Flaw)
  | undecodableBody
  | unreadableBody
  | integerTooLong (digits : Nat)
  | bodyTooDeep
  | invalidAddress
  | unwritableBody
  | unknownScheme (address : String)
  | unexpectedShape
  | invalid (issues : List Schema.Issue)
  | delayTooLong
  | noAttempts
  | foreign (kind : String)
  deriving Repr

def Error.ofReadError : Json.ReadError → Error
  | .undecodable => .undecodableBody
  | .malformed _ => .unreadableBody
  | .integerTooLong digits => .integerTooLong digits
  | .tooDeep => .bodyTooDeep

structure Settings where
  baseUrl : String := "http://localhost:8000"
  timeout : Number := .real (.ofRatio false 30 1)
  retryEnabled : Bool := false
  maxRetries : Int := 3
  deriving Repr

namespace Settings

def address (settings : Settings) : String := Text.stripCharEnd '/' settings.baseUrl

def url (settings : Settings) (path : String) : String := settings.address ++ path

def base? (settings : Settings) : Option Http.Url := Http.Url.base? settings.address

/-- The address that a path means. A query that is given takes the place of the one in the path. -/
def resolve? (settings : Settings) (path : String) (query : Option (List (String × String))) :
    Option Http.Url := do
  let url ← (← settings.base?).resolve? path
  match query with
  | none => return url
  | some query => url.withFields? query

def attempts (settings : Settings) : Nat :=
  if settings.retryEnabled then (settings.maxRetries + 1).toNat else 1

end Settings

/-- The document of a successful answer, null when it is empty; or the error that an answer means.
    -/
def decode (response : Http.Response) : Except Error Json :=
  if response.isSuccess then
    match response.body.read with
    | .ok document => .ok (document.getD .null)
    | .error error => .error (.ofReadError error)
  else
    match Rejection.ofResponse response with
    | .ok rejection => .error (.failure (.rejected rejection))
    | .error flaw => .error (.flaw flaw)

def settle (settings : Settings) (url : String) : Outcome → Except Error Json
  | .answered response => decode response
  | .broken .timeout =>
    .error (.failure (.timedOut s!"Request to {url} timed out" settings.timeout url))
  | .broken (.connection cause) =>
    .error (.failure (.disconnected s!"Failed to connect to {url}" url cause))
  | .broken (.unknownScheme address) => .error (.unknownScheme address)
  | .broken (.foreign kind) => .error (.foreign kind)

structure Run (σ α : Type) where
  result : Except Error α
  sent : List Http.Request
  slept : List Number
  state : σ

namespace Run

variable {σ α β : Type}

def after (request : Http.Request) (delay : Number) (run : Run σ α) : Run σ α :=
  { run with sent := request :: run.sent, slept := delay :: run.slept }

def bind (run : Run σ α) (next : α → Except Error β) : Run σ β :=
  { run with result := run.result.bind next }

end Run

/-- Sends a request up to a number of times, the first of them being the attempt of a number. -/
def attemptFrom {σ : Type} (transport : Transport σ) (finish : Outcome → Except Error Json)
    (request : Http.Request) : (left number : Nat) → σ → Run σ Json
  | 0, _, state => ⟨.error .noAttempts, [], [], state⟩
  | left + 1, number, state =>
    let (outcome, state) := transport request state
    if outcome.mayPass ∧ left ≠ 0 then
      match Backoff.delay Backoff.defaultBase number with
      | .ok delay =>
        (attemptFrom transport finish request left (number + 1) state).after request delay
      | .error _ => ⟨.error .delayTooLong, [request], [], state⟩
    else ⟨finish outcome, [request], [], state⟩

def call {σ : Type} (settings : Settings) (transport : Transport σ) (method : Http.Method)
    (path : String) (query : Option (List (String × String))) (body : Http.Payload) (state : σ) :
    Run σ Json :=
  if settings.attempts = 0 then ⟨.error .noAttempts, [], [], state⟩
  else match settings.resolve? path query with
    | none => ⟨.error .invalidAddress, [], [], state⟩
    | some url =>
      if body.isWritable then
        attemptFrom (transport.towards url) (settle settings (settings.url path))
          (.to url method query body) settings.attempts 0 state
      else ⟨.error .unwritableBody, [], [], state⟩

end TreeShell.Client
