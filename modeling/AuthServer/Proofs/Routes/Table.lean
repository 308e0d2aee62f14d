import AuthServer.Routes

/-!
The table of routes as a whole: the routes one by one, and where every path leads. Fixed paths under
"users" stand before the path with a parameter and take its place.
-/

namespace AuthServer

inductive GuardedRoute where
  | me
  | authenticate
  | authorize
  | account
  | status
  | statusAuth
  | reissue
deriving DecidableEq, Repr

namespace GuardedRoute

def all : List GuardedRoute :=
  [.me, .authenticate, .authorize, .account, .status, .statusAuth, .reissue]

def pattern : GuardedRoute → Pattern
  | .me => [.segment "users", .segment "me"]
  | .authenticate => [.segment "auth", .segment "authenticate"]
  | .authorize => [.segment "auth", .segment "authorize"]
  | .account => [.segment "users", .param "user_id"]
  | .status => [.segment "test"]
  | .statusAuth => [.segment "test", .segment "auth"]
  | .reissue => [.segment "auth", .segment "token", .param "kid"]

def verb : GuardedRoute → Verb
  | .authorize => .post
  | _ => .get

def rule : GuardedRoute → Rule
  | .me | .authenticate | .authorize => .userOnly
  | .account => .owner "user_id"
  | .status | .statusAuth | .reissue => .adminOnly

def endpoint : GuardedRoute → Endpoint
  | .me => Endpoint.me
  | .authenticate => Endpoint.authenticate
  | .authorize => Endpoint.authorize
  | .account => Endpoint.account
  | .status | .statusAuth => Endpoint.status
  | .reissue => Endpoint.reissue

/-- The route in the table, with a handler in the place of its endpoint. -/
def route (guarded : GuardedRoute) (handler : Handler) : Route :=
  .inFullChain guarded.pattern guarded.verb (Stage.guarded guarded.rule handler)

end GuardedRoute

inductive OpenRoute where
  | login
  | register
deriving DecidableEq, Repr

namespace OpenRoute

def segment : OpenRoute → String
  | .login => "login"
  | .register => "register"

def endpoint : OpenRoute → Endpoint
  | .login => Endpoint.login
  | .register => Endpoint.register

def route (opened : OpenRoute) : Route :=
  .inFullChain [.segment "users", .segment opened.segment] .post opened.endpoint.handler

end OpenRoute

inductive ProbeRoute where
  | liveness
  | readiness
  | metrics
  | redirect
  | index
  | page
  | description
deriving DecidableEq, Repr

namespace ProbeRoute

def pattern : ProbeRoute → Pattern
  | .liveness => [.segment "liveness"]
  | .readiness => [.segment "readiness"]
  | .metrics => [.segment "metrics"]
  | .redirect => [.segment "docs"]
  | .index => [.segment "docs", .segment ""]
  | .page => [.segment "docs", .tail "rest"]
  | .description => [.segment "api-doc", .segment "openapi.json"]

def handler : ProbeRoute → Handler
  | .liveness => Endpoint.alive
  | .readiness => Endpoint.readiness.handler
  | .metrics => Endpoint.metrics
  | .redirect => Endpoint.documentationRedirect
  | .index | .page => Endpoint.documentation
  | .description => Endpoint.description

def route (probe : ProbeRoute) : Route :=
  .probe probe.pattern probe.handler

end ProbeRoute

namespace Router

/-- The server's routes with other handlers in the place of the guarded endpoints. -/
def serverWith (handlers : GuardedRoute → Handler) : Router where
  routes := [.login, .register].map OpenRoute.route ++
    GuardedRoute.all.map (fun guarded => guarded.route (handlers guarded)) ++
    [.liveness, .readiness, .metrics, .redirect, .index, .page, .description].map ProbeRoute.route
  fallback := server.fallback

theorem server_eq_serverWith : server = serverWith fun guarded => guarded.endpoint.handler := rfl

end Router

/-! ## Where paths lead -/

/-- Where a path leads, with the values of the parameters that it has there. -/
inductive Destination where
  | anyone (route : OpenRoute)
  | guarded (route : GuardedRoute) (values : List (String × String))
  | probe (route : ProbeRoute) (values : List (String × String))
  | nowhere
deriving DecidableEq, Repr

namespace Destination

def ofUsers (segment : String) : Destination :=
  if segment = "login" then .anyone .login
  else if segment = "register" then .anyone .register
  else if segment = "me" then .guarded .me []
  else if segment = "" then .nowhere
  else .guarded .account [("user_id", segment)]

def ofDocs (segment : String) (rest : List String) : Destination :=
  if segment = "" ∧ rest = [] then .probe .index []
  else .probe .page [("rest", "/".intercalate (segment :: rest))]

def ofSegments : List String → Destination
  | [first] =>
      if first = "test" then .guarded .status []
      else if first = "liveness" then .probe .liveness []
      else if first = "readiness" then .probe .readiness []
      else if first = "metrics" then .probe .metrics []
      else if first = "docs" then .probe .redirect []
      else .nowhere
  | [first, second] =>
      if first = "users" then ofUsers second
      else if first = "docs" then ofDocs second []
      else if first = "auth" ∧ second = "authenticate" then .guarded .authenticate []
      else if first = "auth" ∧ second = "authorize" then .guarded .authorize []
      else if first = "test" ∧ second = "auth" then .guarded .statusAuth []
      else if first = "api-doc" ∧ second = "openapi.json" then .probe .description []
      else .nowhere
  | first :: second :: third :: rest =>
      if first = "docs" then ofDocs second (third :: rest)
      else if first = "auth" ∧ second = "token" ∧ third ≠ "" ∧ rest = [] then
        .guarded .reissue [("kid", third)]
      else .nowhere
  | [] => .nowhere

def ofPath (path : String) : Destination :=
  (Target.segments? path).elim .nowhere ofSegments

theorem values_of_account {path : String} {values : List (String × String)}
    (leads : ofPath path = .guarded .account values) :
    ∃ segment, values = [("user_id", segment)] := by
  unfold ofPath at leads
  cases found : Target.segments? path with
  | none => simp [found] at leads
  | some segments =>
      simp only [found, Option.elim_some] at leads
      unfold ofSegments ofUsers ofDocs at leads
      repeat' split at leads
      all_goals cases leads
      exact ⟨_, rfl⟩

theorem segments?_of_anyone {path : String} {route : OpenRoute}
    (leads : ofPath path = .anyone route) :
    Target.segments? path = some ["users", route.segment] := by
  unfold ofPath at leads
  cases found : Target.segments? path with
  | none => simp [found] at leads
  | some segments =>
      simp only [found, Option.elim_some] at leads
      unfold ofSegments ofUsers ofDocs at leads
      repeat' split at leads
      all_goals cases leads
      all_goals subst_vars
      all_goals rfl

def route? (handlers : GuardedRoute → Handler) :
    Destination → Option (Route × List (String × String))
  | .anyone route => some (route.route, [])
  | .guarded route values => some (route.route (handlers route), values)
  | .probe route values => some (route.route, values)
  | .nowhere => none

end Destination

namespace Router

variable (handlers : GuardedRoute → Handler)

def findSegments? (segments : List String) : Option (Route × List (String × String)) :=
  (serverWith handlers).routes.findSome? fun route =>
    (route.pattern.fit? segments).map fun values => (route, values)

theorem patterns_serverWith : (serverWith handlers).routes.map Route.pattern = [
    [.segment "users", .segment "login"], [.segment "users", .segment "register"],
    [.segment "users", .segment "me"], [.segment "auth", .segment "authenticate"],
    [.segment "auth", .segment "authorize"], [.segment "users", .param "user_id"],
    [.segment "test"], [.segment "test", .segment "auth"],
    [.segment "auth", .segment "token", .param "kid"], [.segment "liveness"],
    [.segment "readiness"], [.segment "metrics"], [.segment "docs"],
    [.segment "docs", .segment ""], [.segment "docs", .tail "rest"],
    [.segment "api-doc", .segment "openapi.json"]] := rfl

theorem findSegments?_eq_none {segments : List String}
    (unfit : ∀ pattern ∈ (serverWith handlers).routes.map Route.pattern,
      pattern.fit? segments = none) : findSegments? handlers segments = none := by
  rw [findSegments?, List.findSome?_eq_none_iff]
  intro route member
  rw [unfit route.pattern (List.mem_map_of_mem member)]
  rfl

theorem findSegments?_eq_some {segments : List String} {after : List Route} {route : Route}
    {values : List (String × String)} (before : List Route)
    (order : (serverWith handlers).routes = before ++ route :: after)
    (unfit : ∀ pattern ∈ before.map Route.pattern, pattern.fit? segments = none)
    (fit : route.pattern.fit? segments = some values) :
    findSegments? handlers segments = some (route, values) := by
  rw [findSegments?, order, List.findSome?_append, List.findSome?_eq_none_iff.mpr]
  · simp [fit]
  · intro other member
    rw [unfit other.pattern (List.mem_map_of_mem member)]
    rfl

private theorem find_one (first : String) :
    findSegments? handlers [first] = (Destination.ofSegments [first]).route? handlers := by
  by_cases test : first = "test"
  · subst test
    rfl
  by_cases liveness : first = "liveness"
  · subst liveness
    rfl
  by_cases readiness : first = "readiness"
  · subst readiness
    rfl
  by_cases metrics : first = "metrics"
  · subst metrics
    rfl
  by_cases docs : first = "docs"
  · subst docs
    rfl
  · simp only [Destination.ofSegments, test, liveness, readiness, metrics, docs, if_false]
    apply findSegments?_eq_none
    simp [patterns_serverWith, Pattern.fit?, Ne.symm test, Ne.symm liveness, Ne.symm readiness,
      Ne.symm metrics, Ne.symm docs]

private theorem find_users (second : String) :
    findSegments? handlers ["users", second] = (Destination.ofUsers second).route? handlers := by
  by_cases login : second = "login"
  · subst login
    rfl
  by_cases register : second = "register"
  · subst register
    rfl
  by_cases me : second = "me"
  · subst me
    rfl
  by_cases empty : second = ""
  · subst empty
    exact findSegments?_eq_none handlers (by simp [patterns_serverWith, Pattern.fit?])
  · simp only [Destination.ofUsers, login, register, me, empty, if_false]
    apply findSegments?_eq_some handlers ((serverWith handlers).routes.take 5) rfl
    · rw [List.map_take, patterns_serverWith]
      simp [Pattern.fit?, Ne.symm login, Ne.symm register, Ne.symm me]
    · simp [Pattern.fit?, GuardedRoute.route, GuardedRoute.pattern, Route.inFullChain, empty]

private theorem find_docs (second : String) (rest : List String) :
    findSegments? handlers ("docs" :: second :: rest) =
      (Destination.ofDocs second rest).route? handlers := by
  by_cases bare : second = "" ∧ rest = []
  · rcases bare with ⟨rfl, rfl⟩
    rfl
  · have some : ("/".intercalate (second :: rest)).isEmpty = false := by
      rw [Bool.eq_false_iff, ne_eq, String.isEmpty_iff]
      cases rest with
      | nil => simpa using bare
      | cons third rest => simp [String.intercalate_cons_cons]
    rw [Destination.ofDocs, if_neg bare]
    apply findSegments?_eq_some handlers ((serverWith handlers).routes.take 14) rfl
    · rw [List.map_take, patterns_serverWith]
      cases rest with
      | nil => simpa [Pattern.fit?, eq_comm] using bare
      | cons third rest => simp [Pattern.fit?]
    · simp [Pattern.fit?, ProbeRoute.route, ProbeRoute.pattern, Route.probe, some]

private theorem find_two (first second : String) :
    findSegments? handlers [first, second] =
      (Destination.ofSegments [first, second]).route? handlers := by
  by_cases users : first = "users"
  · subst users
    exact find_users handlers second
  by_cases docs : first = "docs"
  · subst docs
    exact find_docs handlers second []
  by_cases authenticate : first = "auth" ∧ second = "authenticate"
  · rcases authenticate with ⟨rfl, rfl⟩
    rfl
  by_cases authorize : first = "auth" ∧ second = "authorize"
  · rcases authorize with ⟨rfl, rfl⟩
    rfl
  by_cases test : first = "test" ∧ second = "auth"
  · rcases test with ⟨rfl, rfl⟩
    rfl
  by_cases description : first = "api-doc" ∧ second = "openapi.json"
  · rcases description with ⟨rfl, rfl⟩
    rfl
  · simp only [Destination.ofSegments, users, authenticate, authorize, test, docs, description,
      if_false]
    apply findSegments?_eq_none
    rw [patterns_serverWith]
    simp [Pattern.fit?, Ne.symm users, Ne.symm docs]
    exact ⟨fun same last => authenticate ⟨same.symm, last.symm⟩,
      fun same last => authorize ⟨same.symm, last.symm⟩,
      fun same last => test ⟨same.symm, last.symm⟩,
      fun same last => description ⟨same.symm, last.symm⟩⟩

private theorem find_many (first second third : String) (rest : List String) :
    findSegments? handlers (first :: second :: third :: rest) =
      (Destination.ofSegments (first :: second :: third :: rest)).route? handlers := by
  by_cases docs : first = "docs"
  · subst docs
    exact find_docs handlers second (third :: rest)
  by_cases token : first = "auth" ∧ second = "token" ∧ third ≠ "" ∧ rest = []
  · rcases token with ⟨rfl, rfl, some, rfl⟩
    simp only [Destination.ofSegments, docs, some, ne_eq, not_false_eq_true, and_self, if_true,
      if_false]
    apply findSegments?_eq_some handlers ((serverWith handlers).routes.take 8) rfl
    · rw [List.map_take, patterns_serverWith]
      simp [Pattern.fit?]
    · simp [Pattern.fit?, GuardedRoute.route, GuardedRoute.pattern, Route.inFullChain, some]
  · simp only [Destination.ofSegments, if_neg token, if_neg docs]
    apply findSegments?_eq_none
    rw [patterns_serverWith]
    simp [Pattern.fit?, Ne.symm docs]
    intro same next some
    cases rest with
    | nil => exact absurd ⟨same.symm, next.symm, some, rfl⟩ token
    | cons fourth rest => rfl

/-- The table sends every path to its destination. -/
theorem find?_serverWith (path : String) :
    (serverWith handlers).find? path = (Destination.ofPath path).route? handlers := by
  unfold find? Destination.ofPath
  cases Target.segments? path with
  | none => rfl
  | some segments =>
      change findSegments? handlers segments = (Destination.ofSegments segments).route? handlers
      rcases segments with _ | ⟨first, _ | ⟨second, _ | ⟨third, rest⟩⟩⟩
      · rfl
      · exact find_one handlers first
      · exact find_two handlers first second
      · exact find_many handlers first second third rest

theorem find?_server (path : String) : server.find? path =
    (Destination.ofPath path).route? fun guarded => guarded.endpoint.handler := by
  rw [server_eq_serverWith]
  exact find?_serverWith _ path

end Router

end AuthServer
