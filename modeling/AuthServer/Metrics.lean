/-!
Request counters and their text exposition.
-/

namespace AuthServer

structure Metrics where
  /-- Requests that entered the counting stage. -/
  requests : Nat
  /-- Requests answered with a problem. -/
  errors : Nat
  /-- Crashes of handlers that were contained. -/
  crashes : Nat
  /-- Requests inside the counting stage now. -/
  inFlight : Int
deriving DecidableEq, Repr

namespace Metrics

def zero : Metrics := ⟨0, 0, 0, 0⟩

def enter (metrics : Metrics) : Metrics :=
  { metrics with requests := metrics.requests + 1, inFlight := metrics.inFlight + 1 }

/-- A request leaves, answered or not. -/
def leave (metrics : Metrics) : Metrics :=
  { metrics with inFlight := metrics.inFlight - 1 }

def countError (metrics : Metrics) : Metrics :=
  { metrics with errors := metrics.errors + 1 }

def countCrash (metrics : Metrics) : Metrics :=
  { metrics with crashes := metrics.crashes + 1 }

structure Series where
  name : String
  kind : String
  help : String
  value : Int

def series (metrics : Metrics) : List Series := [
  ⟨"http_requests_total", "counter", "Requests that entered the metrics stage", metrics.requests⟩,
  ⟨"http_errors_total", "counter", "Requests answered with a translated error", metrics.errors⟩,
  ⟨"http_panics_total", "counter", "Handler panics contained by the panic guard",
    metrics.crashes⟩,
  ⟨"http_requests_in_flight", "gauge", "Requests currently being processed", metrics.inFlight⟩]

def Series.lines (series : Series) : List String := [
  s!"# HELP {series.name} {series.help}",
  s!"# TYPE {series.name} {series.kind}",
  s!"{series.name} {series.value}"]

def lines (metrics : Metrics) : List String :=
  metrics.series.flatMap Series.lines

def exposition (metrics : Metrics) : String :=
  String.join (metrics.series.map fun series => "\n".intercalate series.lines ++ "\n\n")

def redacted (_ : Metrics) : String := "Metrics \x7b .. \x7d"

end Metrics

end AuthServer
