import ServiceOperator.Metrics.Exposition

/-!
# Probes

What is served to those that watch over the operator: its metrics, that it lives, and whether its
controllers run.
-/

namespace ServiceOperator

/-- The path in a request target. -/
def probePath (target : String) : String :=
  String.ofList (target.toList.takeWhile fun c => c ≠ '?' && c ≠ '#')

/-- The status and the body of the answer to a probe. -/
def probe (m : Metrics) (ready : Bool) (target : String) : Nat × String :=
  match probePath target with
  | "/metrics" => (200, m.text)
  | "/healthz" => (200, "ok")
  | "/readyz" => if ready then (200, "ready") else (503, "not ready")
  | _ => (404, "")

end ServiceOperator
