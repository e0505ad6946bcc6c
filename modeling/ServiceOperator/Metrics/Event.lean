import ServiceOperator.Time.Duration

/-!
# What is counted

The events that the operator counts and times.
-/

namespace ServiceOperator

/-- Something that is counted. -/
inductive MetricEvent where
  /-- A reconcile of a kind succeeded after some time. -/
  | succeeded (kind : String) (time : Duration)
  /-- A reconcile of a kind failed after some time. -/
  | failed (kind : String) (time : Duration)
  /-- A record of a kind comes back. -/
  | requeued (kind reason : String)
  | created (kind : String)
  | updated (kind : String)
  | replaced (kind : String)
  | deleted (kind : String)
  /-- Something failed for a reason. -/
  | erred (kind reason : String)
  /-- A request to the control plane was answered, or not, with a class of status. -/
  | requested (method status : String)
  /-- A pod became the leader. -/
  | elected (pod : String)
  /-- A pod ceased to be the leader. -/
  | lost (pod : String)
  deriving DecidableEq, Repr

end ServiceOperator
