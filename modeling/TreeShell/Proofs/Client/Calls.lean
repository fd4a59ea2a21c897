import TreeShell.Client.Basic

namespace TreeShell

open Http (Url)

namespace Route

theorem read?_path (route : Route) : Url.read? route.path = some ⟨"", {}, route.path, none⟩ := by
  cases route <;> decide +kernel

theorem path_ne_empty (route : Route) : route.path ≠ "" := by
  cases route <;> decide

theorem head?_path (route : Route) : route.path.toList.head? = some '/' := by
  cases route <;> decide

theorem dropWhile_path (route : Route) :
    '/' :: route.path.toList.dropWhile (· = '/') = route.path.toList := by
  cases route <;> decide

theorem length_path_le (route : Route) : route.path.toList.length ≤ Url.maxLength := by
  cases route <;> decide

theorem cutQuery_path (route : Route) :
    Url.cutQuery route.path.toList = (route.path.toList, none) := by
  cases route <;> decide

theorem plainPath_path (route : Route) : Url.plainPath route.path.toList = route.path := by
  cases route <;> decide +kernel

theorem encode_path (route : Route) :
    Http.Escape.encode Url.isPathSafe route.path = route.path := by
  cases route <;> decide +kernel

theorem decode_path (route : Route) : Http.Escape.decode route.path = route.path := by
  cases route <;> decide +kernel

end Route

namespace Client

def Settings.AtRoot (settings : Settings) : Prop :=
  ∃ base, settings.base? = some base ∧ base.scheme ≠ "" ∧ base.target = ['/']

theorem atRoot_default : ({} : Settings).AtRoot :=
  ⟨⟨"http", ⟨"", "localhost", some 8000⟩, "", none⟩, by decide +kernel, by decide, rfl⟩

variable {settings : Settings} {base : Url} {query : Option (List (String × String))}

theorem ofParts?_path {scheme : String} (named : scheme ≠ "") (authority : Http.Authority)
    (route : Route) :
    Url.ofParts? scheme authority route.path.toList none =
      some ⟨scheme, authority, route.path, none⟩ := by
  have short : ¬ (Url.maxLength < route.path.toList.length ∨
      (none : Option (List Char)).any (Url.maxLength < ·.length)) := by
    have bound := route.length_path_le
    simp only [Option.any_none, Bool.false_eq_true, or_false]
    omega
  have starts : ¬ (authority ≠ {} ∧ route.path.toList ≠ [] ∧
      route.path.toList.head? ≠ some '/') := by
    simp [route.head?_path]
  unfold Url.ofParts?
  dsimp only
  -- With a scheme the path is cleared of dots, and a route has none.
  rw [if_neg short, if_neg starts, if_neg (by simp [named]), if_neg (by simp [named]),
    route.plainPath_path, route.encode_path]
  rfl

theorem resolve?_path (named : base.scheme ≠ "") (root : base.target = ['/']) (route : Route) :
    base.resolve? route.path = some ⟨base.scheme, base.authority, route.path, none⟩ := by
  have relative : ¬ Url.isAbsolute ⟨"", {}, route.path, none⟩ := by simp [Url.isAbsolute]
  have joined : base.target ++ (Url.target ⟨"", {}, route.path, none⟩).dropWhile (· = '/') =
      route.path.toList := by
    have own : Url.target ⟨"", {}, route.path, none⟩ = route.path.toList :=
      if_neg route.path_ne_empty
    rw [root, own]
    exact route.dropWhile_path
  have same : base.withTarget? route.path.toList =
      some ⟨base.scheme, base.authority, route.path, none⟩ := by
    unfold Url.withTarget?
    rw [route.cutQuery_path]
    exact ofParts?_path named _ route
  unfold Url.resolve?
  rw [route.read?_path]
  dsimp only [bind, Option.bind]
  rw [if_neg relative, joined, same]

def Fits (query : Option (List (String × String))) : Prop :=
  ∀ fields ∈ query, (Http.Escape.ofFields fields).length ≤ Url.maxLength

theorem fits_none : Fits none := by
  intro fields given
  cases given

theorem fits_some {fields : List (String × String)} :
    Fits (some fields) ↔ (Http.Escape.ofFields fields).length ≤ Url.maxLength := by
  simp [Fits]

theorem Settings.AtRoot.resolve? (rooted : settings.AtRoot) (fits : Fits query) (route : Route) :
    ∃ url, settings.resolve? route.path query = some url ∧ url.scheme ≠ "" ∧
      url.path = route.path ∧ query.getD url.fields = query.getD [] := by
  obtain ⟨base, found, named, root⟩ := rooted
  unfold Settings.resolve?
  rw [found]
  dsimp only [bind, Option.bind]
  rw [resolve?_path named root]
  cases query with
  | none => exact ⟨_, rfl, named, rfl, rfl⟩
  | some fields =>
    have short : ¬ Url.maxLength < (Http.Escape.ofFields fields).length :=
      Nat.not_lt_of_le (fits_some.mp fits)
    dsimp only [Url.withFields?]
    rw [if_neg short]
    exact ⟨_, rfl, named, rfl, rfl⟩

variable {σ : Type} (transport : Transport σ)

theorem towards_of_scheme {url : Url} (named : url.scheme ≠ "") :
    transport.towards url = transport := by
  funext request state
  unfold Transport.towards
  cases transport request state with
  | mk outcome _ => cases outcome with
    | answered _ => simp [named]
    | broken _ => rfl

theorem call_route (rooted : settings.AtRoot) (fits : Fits query) (method : Http.Method)
    (route : Route) {body : Http.Payload} (writable : body.isWritable) (state : σ) :
    call settings transport method route.path query body state =
      attemptFrom transport (settle settings (settings.url route.path))
        ⟨method, route.path, query.getD [], body⟩ settings.attempts 0 state := by
  obtain ⟨url, resolved, named, path, fields⟩ := rooted.resolve? fits route
  have plain : url.plain = route.path := by
    rw [Url.plain, path, if_neg route.path_ne_empty, route.decode_path]
  have sent : Http.Request.to url method query body =
      ⟨method, route.path, query.getD [], body⟩ := by
    rw [Http.Request.to, plain, fields]
  unfold call
  by_cases never : settings.attempts = 0
  · rw [if_pos never, never]
    rfl
  · rw [if_neg never, resolved]
    simp only [writable, if_true, towards_of_scheme transport named, sent]

variable {transport} {finish : Outcome → Except Error Json} {request : Http.Request}

theorem status_problem_not_mem (problem : Problem) : problem.status ∉ passingStatuses := by
  cases problem <;> simp [Problem.status, passingStatuses]

theorem status_respond_not_mem (answer : Service.Answer) :
    (Service.respond answer).status ∉ passingStatuses := by
  cases answer with
  | ok document =>
    unfold Service.respond
    dsimp only
    cases document.unwritable? with
    | none => exact (by decide : 200 ∉ passingStatuses)
    | some complaint => exact status_problem_not_mem (.ofUnwritable complaint)
  | error problem => exact status_problem_not_mem problem

theorem status_dispatch_not_mem (service : Service) (request : Http.Request) :
    (service.dispatch request).1.status ∉ passingStatuses := by
  unfold Service.dispatch
  cases Route.ofPath? request.path with
  | none =>
    dsimp only
    split
    · exact (by decide : 307 ∉ passingStatuses)
    · exact status_problem_not_mem .noRoute
  | some route =>
    dsimp only
    split
    · exact status_respond_not_mem _
    · exact status_problem_not_mem .wrongMethod

theorem not_mayPass_handle (service : Service) (request : Http.Request) :
    ¬ (Outcome.answered (service.handle request).1).mayPass := by
  have same : (service.handle request).1.status = (service.dispatch request).1.status := by
    unfold Service.handle Http.Response.answering
    dsimp only
    split <;> rfl
  intro passing
  have soon : (service.handle request).1.status ∈ passingStatuses :=
    List.contains_iff_mem.mp passing
  rw [same] at soon
  exact status_dispatch_not_mem service request soon

end Client

end TreeShell
