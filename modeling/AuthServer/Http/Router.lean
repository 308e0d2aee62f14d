import AuthServer.Exchange
import AuthServer.Http.Target

/-!
Routers: tables of routes, each a pattern of path segments with a handler. The first route whose
pattern fits the path answers, so that fixed paths stand before those with parameters.
-/

namespace AuthServer

/-- A part of a pattern: a segment that must be exactly so, a parameter that takes any segment that
is not empty, or a parameter that takes all the rest. -/
inductive PatternPart where
  | segment (text : String)
  | param (name : String)
  | tail (name : String)
deriving DecidableEq, Repr

abbrev Pattern := List PatternPart

namespace Pattern

def fit? : Pattern → List String → Option (List (String × String))
  | [], [] => some []
  | .segment text :: parts, segment :: segments =>
      if text = segment then fit? parts segments else none
  | .param name :: parts, segment :: segments =>
      if segment.isEmpty then none else (fit? parts segments).map ((name, segment) :: ·)
  | [.tail name], segments =>
      let rest := "/".intercalate segments
      if rest.isEmpty then none else some [(name, rest)]
  | _, _ => none

end Pattern

/-- The texts that parameters stand for, or the name of the first that stands for none. -/
def Params.ofSegments (values : List (String × String)) : Params :=
  values.mapM fun (name, segment) =>
    match Target.percentDecode? segment with
    | some text => .ok (name, text)
    | none => .error name

inductive Verb where
  /-- Read; a HEAD request is answered in the same way, but without the body. -/
  | get
  | post
deriving DecidableEq, Repr

namespace Verb

def accepts : Verb → String → Bool
  | .get, method => method == "GET" || method == "HEAD"
  | .post, method => method == "POST"

def allowed : Verb → String
  | .get => "GET,HEAD"
  | .post => "POST"

end Verb

structure Route where
  pattern : Pattern
  verb : Verb
  handler : Handler
  otherwise : Handler

structure Router where
  routes : List Route
  fallback : Handler

namespace Router

def layer (stage : Stage) (router : Router) : Router where
  routes := router.routes.map fun route =>
    { route with handler := stage route.handler, otherwise := stage route.otherwise }
  fallback := stage router.fallback

def find? (router : Router) (path : String) : Option (Route × List (String × String)) :=
  (Target.segments? path).bind fun segments =>
    router.routes.findSome? fun route =>
      (route.pattern.fit? segments).map fun values => (route, values)

/-- Give a response the length of its body, and take the body itself from the answer to a HEAD
request. -/
def finish (method : String) (response : Response) : Response :=
  let response := response.setHeader "content-length" (toString response.body.utf8ByteSize)
  if method = "HEAD" then { response with body := "" } else response

def answer (router : Router) (service : Service) (arrival : Arrival) (request : Request) :
    State → Answer := fun state =>
  let path := Target.path request.target
  let exchange (params : Params) : Exchange :=
    { service, arrival, request, path, params, context := none }
  let answer :=
    match router.find? path with
    | none => router.fallback (exchange (.ok [])) state
    | some (route, values) =>
        let exchange := exchange (.ofSegments values)
        if route.verb.accepts request.method then route.handler exchange state
        else
          (route.otherwise exchange state).mapResponse
            (Response.setHeader "allow" route.verb.allowed)
  answer.mapResponse (finish request.method)

end Router

end AuthServer
