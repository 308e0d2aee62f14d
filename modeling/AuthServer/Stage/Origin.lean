import AuthServer.Exchange
import AuthServer.OriginPolicy

/-!
The outermost stage tells browsers which origins may read the answers. It answers every OPTIONS
request itself.
-/

namespace AuthServer

structure OriginGate where
  origins : OriginPolicy
  methods : List String
  headers : List String
  credentials : Bool
deriving DecidableEq, Repr

namespace OriginGate

/-- Set up a gate. An origin that no header can hold is left out with a warning, and credentials go
with a list of origins only. -/
def ofPolicy (policy : OriginPolicy) : OriginGate × List LogEvent :=
  let methods := ["GET", "POST", "PUT", "DELETE", "OPTIONS"]
  let headers := ["authorization", "content-type"]
  match policy with
  | .any => (⟨.any, methods, headers, false⟩, [])
  | .list origins =>
      let (valid, invalid) := origins.partition OriginPolicy.isHeaderText
      (⟨.list valid, methods, headers, true⟩, invalid.map fun origin =>
        .plain .warn .origins "Ignoring invalid CORS origin" [("origin", .plain origin)])

def varyingHeaders : String :=
  "origin, access-control-request-method, access-control-request-headers"

def originHeaders (gate : OriginGate) (origin : Option (List UInt8)) : List (String × String) :=
  match gate.origins with
  | .any => [("access-control-allow-origin", "*")]
  | .list origins =>
      let allowed := origins.find? fun candidate => origin == some (Utf8.encode candidate)
      allowed.elim [] fun origin => [("access-control-allow-origin", origin)]

def credentialHeaders (gate : OriginGate) : List (String × String) :=
  if gate.credentials then [("access-control-allow-credentials", "true")] else []

def preflightHeaders (gate : OriginGate) : List (String × String) := [
  ("access-control-allow-methods", ",".intercalate gate.methods),
  ("access-control-allow-headers", ",".intercalate gate.headers)]

def addHeaders (headers : List (String × String)) (response : Response) : Response :=
  { response with headers := response.headers ++ headers }

def stage (gate : OriginGate) : Stage := fun inner exchange state =>
  let origin := exchange.request.header? "origin"
  let headers := gate.originHeaders origin ++ gate.credentialHeaders ++ [("vary", varyingHeaders)]
  if exchange.request.method = "OPTIONS" then
    .respond (addHeaders (headers ++ gate.preflightHeaders) (.ofStatus 200)) state
  else
    (inner exchange state).mapResponse (addHeaders headers)

end OriginGate

end AuthServer
