import AuthServer.Endpoint.Accounts
import AuthServer.Rule

/-!
Endpoints for other services that leave decisions to this one: checking a token, signing its claims
again under another key, and applying a rule to claims.
-/

namespace AuthServer

open Json

structure AuthorizeRequest where
  owner : String
  rule : String
  claims : Claims
deriving DecidableEq, Repr

namespace AuthorizeRequest

structure Draft where
  owner : Option String
  rule : Option String
  claims : Option Claims

def shape : Shape Draft AuthorizeRequest where
  name := "AuthorizeRequest"
  fields := [
    (RecordField.of "userID" (·.owner) (fun value draft => { draft with owner := some value })
      (fun _ => readText "a string")).optional,
    .of "rule" (·.rule) (fun value draft => { draft with rule := some value })
      (fun _ => readText "a string"),
    .of "claims" (·.claims) (fun value draft => { draft with claims := some value })
      Claims.shape.read]
  passOver := skipValue
  start := ⟨none, none, none⟩
  finish draft := do
    return {
      owner := draft.owner.getD ""
      rule := ← required "rule" draft.rule
      claims := ← required "claims" draft.claims }

/-- Apply the rule. An empty owner is none at all. -/
def decide (request : AuthorizeRequest) : Except Problem Unit :=
  match Rule.ofText? request.rule with
  | none => .error (.ofField "rule" (Rule.unknownMessage request.rule))
  | some rule =>
      let owner := if request.owner.isEmpty then none else some request.owner
      (rule.check request.claims owner).mapError .ofDenied

end AuthorizeRequest

namespace Endpoint

def reissue : Endpoint := fun exchange directory => do
  let context ← orStop exchange.requireContext
  let claims ← orStop exchange.claims
  withParam exchange "kid" directory fun kid => do
    let token ← orStop ((exchange.service.authenticator.issue kid claims).mapError .ofAuthError)
    return {
      response := .ofJson 200 (tokenJson token)
      events := [.plain .info .tokens "Token re-issued" [("trace_id", .plain context.traceId),
        ("sub", .plain claims.subject), ("kid", .plain kid)]]
      directory }

def authenticate : Endpoint := plain fun exchange =>
  exchange.claims.map fun claims => .ofJson 200 claims.json

def authorize : Endpoint := plain fun exchange => do
  let request ← JsonBody.read AuthorizeRequest.shape.read exchange.request
  request.decide
  return .ofStatus 204

end Endpoint

end AuthServer
