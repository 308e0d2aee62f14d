import AuthServer.Json.Value
import AuthServer.Routes

/-!
A second table of routes, on which each stage can be watched by itself: routes behind every rule,
behind half a guard, outside all chains, and ones whose handlers crash.
-/

namespace AuthServer.Workbench

def context : Endpoint := .plain fun exchange =>
  exchange.requireContext.map fun context =>
    let subject := context.claims.elim "none" Claims.subject
    .ofText 200 s!"now={context.now.seconds} claims={subject}"

def ok : Endpoint := .plain fun _ => .ok (.ofText 200 "ok")

def crash (crash : Crash) : Endpoint := fun _ _ => .error (.crash crash)

def echo : Endpoint := .plain fun exchange =>
  (JsonBody.read Json.Value.read exchange.request).map fun value => .ofJson 200 value.json

/-- A read route within some stages, which stand also before unsupported methods. -/
def within (stage : Stage) (name : String) (endpoint : Endpoint) : Route where
  pattern := [.segment name]
  verb := .get
  handler := stage endpoint.handler
  otherwise := stage (.status 405)

def routes : List Route :=
  let inFullChain (name : String) (endpoint : Endpoint) : Route :=
    .inFullChain [.segment name] .get endpoint.handler
  let guardedByOwner (pattern : Pattern) : Route :=
    .guarded (.owner "user_id") pattern .get context
  [inFullChain "ok" ok,
    inFullChain "boom" (crash (.text "handler exploded")),
    inFullChain "boom-opaque" (crash .other),
    inFullChain "whoami" Endpoint.authenticate,
    inFullChain "context" context,
    .inFullChain [.segment "echo"] .post echo.handler,
    .guarded .adminOnly [.segment "admin"] .get context,
    .guarded .userOnly [.segment "user"] .get context,
    guardedByOwner [.segment "owned", .param "user_id"],
    guardedByOwner [.segment "owned", .param "team", .param "user_id"],
    guardedByOwner [.segment "other", .param "id"],
    guardedByOwner [.segment "noparam"],
    .inFullChain [.segment "rule-only"] .get (Stage.authorize .userOnly context.handler),
    within Stage.reduced "reduced" context,
    within Stage.reduced "reduced-whoami" Endpoint.authenticate,
    within (Stage.guarded .userOnly) "bare" context,
    within (Stage.authorize .userOnly) "bare-rule" context,
    within id "bare-context" context,
    within Stage.logged "logged" ok,
    within Stage.logged "logged-error" context]

/-- The workbench. A path that is none of its routes is a problem in the full chain. -/
def router : Router where
  routes := routes
  fallback := Stage.full (.refuse (.notFound "route not found"))

end AuthServer.Workbench
