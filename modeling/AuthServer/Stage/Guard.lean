import AuthServer.Exchange
import AuthServer.Rule

/-!
Guards: stages that let a request through to its endpoint or refuse it. One verifies the caller, the
next applies the rule of the route, and together they guard a route.
-/

namespace AuthServer.Stage

/-- Verify the caller and put its claims into the context. The event for debugging that tells of it
is left out. -/
def authenticate : Stage := fun inner exchange state =>
  let verified := exchange.requireContext.bind fun context =>
    (exchange.authenticate context).map fun claims => { context with claims := some claims }
  match verified with
  | .ok context => inner { exchange with context := some context } state
  | .error problem => .respond problem.response state

def owner? (rule : Rule) (params : Params) : Except Problem (Option String) :=
  match rule.ownerParam with
  | none => .ok none
  | some param =>
      match params with
      | .error illFormed => .error (.internal (Exchange.illFormedParam illFormed))
      | .ok params =>
          match params.lookup param with
          | some owner => .ok (some owner)
          | none => .error (.internal s!"route has no path parameter {param}")

def applyRule (rule : Rule) (exchange : Exchange) : Except Problem Unit := do
  let context ← exchange.requireContext
  let claims ← context.claims.elim (.error (.ofAuthError .missingToken)) .ok
  let owner ← owner? rule exchange.params
  (rule.check claims owner).mapError .ofDenied

def authorize (rule : Rule) : Stage := fun inner exchange state =>
  match applyRule rule exchange with
  | .ok () => inner exchange state
  | .error problem => .respond problem.response state

def guarded (rule : Rule) : Stage := fun inner =>
  authenticate (authorize rule inner)

end AuthServer.Stage
