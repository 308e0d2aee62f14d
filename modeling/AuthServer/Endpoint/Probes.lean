import AuthServer.Exchange
import AuthServer.Json.Writer

/-!
Endpoints that tell how the server fares.
-/

namespace AuthServer

open Json

namespace Endpoint

def alive : Handler := .status 200

def readiness : Endpoint := fun exchange directory => do
  let context ← orStop exchange.requireContext
  let unready (message : String) (facts : List (String × LogValue)) : Reply :=
    ⟨.ofStatus 503,
      [.plain .warn .probes message (("trace_id", .plain context.traceId) :: facts)], directory⟩
  match exchange.service.readiness with
  | .ready => return ⟨.ofStatus 200, [], directory⟩
  | .failing reason => return unready "Readiness check failed" [("reason", .plain reason)]
  | .silent =>
      return unready "Readiness check timed out"
        [("timeout_ms", .number exchange.service.readinessTimeout)]

def metrics : Handler := fun _ state =>
  .respond (.ofBody 200 "text/plain; version=0.0.4" state.metrics.exposition) state

def status : Endpoint := plain fun _ =>
  .ok (.ofJson 200 (objectText [("status", stringText "OK")]))

end Endpoint

end AuthServer
