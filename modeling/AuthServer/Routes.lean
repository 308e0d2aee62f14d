import AuthServer.Endpoint.Accounts
import AuthServer.Endpoint.Documentation
import AuthServer.Endpoint.Probes
import AuthServer.Endpoint.Tokens
import AuthServer.Http.Router
import AuthServer.Stage.Chain
import AuthServer.Stage.Guard

/-!
The routes of the server: which are open, which are guarded and by what rule, and which are probes.
-/

namespace AuthServer

namespace Route

/-- A route of the full chain. A method that it does not support is a problem, whoever asks. -/
def inFullChain (pattern : Pattern) (verb : Verb) (handler : Handler) : Route where
  pattern := pattern
  verb := verb
  handler := Stage.full handler
  otherwise := Stage.full (.refuse .methodNotAllowed)

def guarded (rule : Rule) (pattern : Pattern) (verb : Verb) (endpoint : Endpoint) : Route :=
  inFullChain pattern verb (Stage.guarded rule endpoint.handler)

def probe (pattern : Pattern) (handler : Handler) : Route where
  pattern := pattern
  verb := .get
  handler := Stage.reduced handler
  otherwise := Stage.reduced (.status 405)

end Route

namespace Router

open Endpoint

def openRoutes : List Route := [
  .inFullChain [.segment "users", .segment "login"] .post login.handler,
  .inFullChain [.segment "users", .segment "register"] .post register.handler]

def userRoutes : List Route := [
  .guarded .userOnly [.segment "users", .segment "me"] .get me,
  .guarded .userOnly [.segment "auth", .segment "authenticate"] .get authenticate,
  .guarded .userOnly [.segment "auth", .segment "authorize"] .post authorize]

def ownerRoutes : List Route := [
  .guarded (.owner "user_id") [.segment "users", .param "user_id"] .get account]

def adminRoutes : List Route := [
  .guarded .adminOnly [.segment "test"] .get status,
  .guarded .adminOnly [.segment "test", .segment "auth"] .get status,
  .guarded .adminOnly [.segment "auth", .segment "token", .param "kid"] .get reissue]

def probeRoutes : List Route := [
  .probe [.segment "liveness"] alive,
  .probe [.segment "readiness"] readiness.handler,
  .probe [.segment "metrics"] metrics,
  .probe [.segment "docs"] documentationRedirect,
  .probe [.segment "docs", .segment ""] documentation,
  .probe [.segment "docs", .tail "rest"] documentation,
  .probe [.segment "api-doc", .segment "openapi.json"] description]

/-- All routes. A path that is none of them is a problem in the full chain. -/
def server : Router where
  routes := openRoutes ++ userRoutes ++ ownerRoutes ++ adminRoutes ++ probeRoutes
  fallback := Stage.full (.refuse (.notFound "route not found"))

end Router

end AuthServer
