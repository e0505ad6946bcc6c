import ServiceOperator.Double
import ServiceOperator.Metrics.Event

/-!
# Families of metrics

The events so far are all that is kept: every metric is worked out from them. Counters add up how
often something happened, a gauge shows what was last set, and a histogram sorts times into buckets.
-/

namespace ServiceOperator

/-- A family of counters. -/
inductive Counter where
  | reconciliations
  | requeues
  | created
  | updated
  | replaced
  | deleted
  | errors
  | requests
  | elections
  deriving DecidableEq, Repr

namespace Counter

/-- The name of a family. -/
def name : Counter → String
  | reconciliations => "msop_reconciliations_total"
  | requeues => "msop_requeues_total"
  | created => "msop_resources_created_total"
  | updated => "msop_resources_updated_total"
  | replaced => "msop_resources_replaced_total"
  | deleted => "msop_resources_deleted_total"
  | errors => "msop_errors_total"
  | requests => "msop_control_plane_requests_total"
  | elections => "msop_leader_elections_total"

/-- What a family counts, for people. -/
def help : Counter → String
  | reconciliations => "Total number of reconciliations by kind and result"
  | requeues => "Total number of requeue operations by kind and reason"
  | created => "Total number of external resources created by kind"
  | updated => "Total number of external resources updated by kind"
  | replaced => "Total number of external resources replaced by kind"
  | deleted => "Total number of external resources deleted by kind"
  | errors => "Total number of errors by kind and reason"
  | requests => "Total number of control plane HTTP requests by method and status class"
  | elections => "Total number of leader election events by status"

/-- The names of the labels of a family. -/
def labels : Counter → List String
  | reconciliations => ["kind", "result"]
  | requeues => ["kind", "reason"]
  | created => ["kind"]
  | updated => ["kind"]
  | replaced => ["kind"]
  | deleted => ["kind"]
  | errors => ["kind", "reason"]
  | requests => ["method", "status"]
  | elections => ["status"]

end Counter

namespace MetricEvent

/-- The counters to which an event adds one, with the values of their labels. -/
def increments : MetricEvent → List (Counter × List String)
  | succeeded kind _ => [(.reconciliations, [kind, "success"])]
  | failed kind _ => [(.reconciliations, [kind, "error"])]
  | requeued kind reason => [(.reconciliations, [kind, "requeue"]), (.requeues, [kind, reason])]
  | created kind => [(.created, [kind])]
  | updated kind => [(.updated, [kind])]
  | replaced kind => [(.replaced, [kind])]
  | deleted kind => [(.deleted, [kind])]
  | erred kind reason => [(.errors, [kind, reason])]
  | requested method status => [(.requests, [method, status])]
  | elected _ => [(.elections, ["acquired"])]
  | lost _ => [(.elections, ["lost"])]

/-- The time of a reconcile, with its kind. -/
def observed? : MetricEvent → Option (String × Duration)
  | succeeded kind time => some (kind, time)
  | failed kind time => some (kind, time)
  | _ => none

/-- Whether a pod is the leader from now on. -/
def leadership? : MetricEvent → Option (String × Bool)
  | elected pod => some (pod, true)
  | lost pod => some (pod, false)
  | _ => none

end MetricEvent

/-- The events so far. -/
abbrev Metrics := List MetricEvent

namespace Metrics

/-- The value of a counter. -/
def count (m : Metrics) (c : Counter) (labels : List String) : Nat :=
  (m.flatMap MetricEvent.increments).count (c, labels)

/-- The label values of a family that were ever counted. -/
def labelValues (m : Metrics) (c : Counter) : List (List String) :=
  (m.flatMap MetricEvent.increments).filterMap fun i => if i.1 = c then some i.2 else none

/-- The times of the reconciles of a kind. -/
def times (m : Metrics) (kind : String) : List Duration :=
  (m.filterMap MetricEvent.observed?).filterMap fun o => if o.1 = kind then some o.2 else none

/-- Whether a pod is the leader, as far as it was ever said. -/
def isLeader (m : Metrics) (pod : String) : Bool :=
  ((m.filterMap MetricEvent.leadership?).reverse.lookup pod).getD false

@[simp] theorem count_nil (c : Counter) (labels : List String) :
    count [] c labels = 0 := rfl

theorem count_append (m n : Metrics) (c : Counter) (labels : List String) :
    count (m ++ n) c labels = count m c labels + count n c labels := by
  simp [count, List.flatMap_append, List.count_append]

end Metrics

end ServiceOperator
