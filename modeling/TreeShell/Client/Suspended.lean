import TreeShell.Client.Basic

namespace TreeShell.Client

/-- A call as far as it has come: it is done, it waits for what comes of a request to an address, or
    it waits for a delay to pass. -/
inductive Suspended
  | done (result : Except Error Json)
  | sending (url : Http.Url) (request : Http.Request) (resume : Outcome → Suspended)
  | sleeping (delay : Number) (resume : Suspended)

inductive Event
  | sent (request : Http.Request)
  | slept (delay : Number)

namespace Event

def request? : Event → Option Http.Request
  | sent request => some request
  | slept _ => none

def delay? : Event → Option Number
  | sent _ => none
  | slept delay => some delay

end Event

structure Log (σ : Type) where
  result : Except Error Json
  events : List Event
  state : σ

namespace Log

variable {σ : Type}

def after (event : Event) (log : Log σ) : Log σ := { log with events := event :: log.events }

def run (log : Log σ) : Run σ Json where
  result := log.result
  sent := log.events.filterMap Event.request?
  slept := log.events.filterMap Event.delay?
  state := log.state

end Log

namespace Suspended

def drive {σ : Type} (transport : Transport σ) : Suspended → σ → Log σ
  | done result, state => ⟨result, [], state⟩
  | sending url request resume, state =>
    let (outcome, state) := transport.towards url request state
    ((resume outcome).drive transport state).after (.sent request)
  | sleeping delay resume, state => (resume.drive transport state).after (.slept delay)

def pause (attempt : Nat) (resume : Suspended) : Suspended :=
  match Backoff.delay Backoff.defaultBase attempt with
  | .ok delay => sleeping delay resume
  | .error _ => done (.error .delayTooLong)

def attempting (settings : Settings) (path : String) (url : Http.Url) (request : Http.Request) :
    List Nat → Suspended
  | [] => done (.error .noAttempts)
  | attempt :: rest =>
    let isLast : Bool := settings.attempts ≤ attempt + 1
    sending url request fun
      | .answered response =>
        if passingStatuses.contains response.status && !isLast then
          pause attempt (attempting settings path url request rest)
        else done (decode response)
      | .broken mishap =>
        match mishap with
        | .timeout | .connection _ =>
          if isLast then done (settle settings (settings.url path) (.broken mishap))
          else pause attempt (attempting settings path url request rest)
        | _ => done (settle settings (settings.url path) (.broken mishap))

def call (settings : Settings) (method : Http.Method) (path : String)
    (query : Option (List (String × String))) (body : Http.Payload) : Suspended :=
  if settings.attempts = 0 then done (.error .noAttempts)
  else match settings.resolve? path query with
    | none => done (.error .invalidAddress)
    | some url =>
      if body.isWritable then
        attempting settings path url (.to url method query body) (List.range settings.attempts)
      else done (.error .unwritableBody)

end Suspended

namespace Connection

variable {σ : Type}

def awaitGet (client : Connection σ) (path : String)
    (parameters : Option (List (String × Option String))) (state : σ) : Log σ :=
  (Suspended.call client.settings .get path (queryOf parameters) .empty).drive client.transport state

def awaitPost (client : Connection σ) (path : String)
    (parameters : Option (List (String × Option String))) (body : Http.Payload) (state : σ) :
    Log σ :=
  (Suspended.call client.settings .post path (queryOf parameters) body).drive client.transport state

end Connection

end TreeShell.Client
