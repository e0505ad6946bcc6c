import ServiceOperator.Metrics.Family

/-!
# Metrics as text

The families that have samples, by name, each with its samples by the values of their labels.
-/

namespace ServiceOperator

/-- One line of a family. -/
structure Sample where
  name : String
  labels : List (String × String)
  value : String
  deriving DecidableEq, Repr

namespace Sample

/-- A character of a label's value as it is written. -/
def escapeChar (c : Char) : List Char :=
  if c = '\\' then ['\\', '\\']
  else if c = '"' then ['\\', '"']
  else if c = '\n' then ['\\', 'n']
  else [c]

/-- A label's value as it is written. -/
def escaped (s : String) : String :=
  String.ofList (s.toList.flatMap escapeChar)

/-- The name and the labels of a sample. -/
def series (s : Sample) : String :=
  if s.labels.isEmpty then s.name
  else
    let labels := s.labels.map fun l => l.1 ++ "=\"" ++ escaped l.2 ++ "\""
    s.name ++ "\x7b" ++ ",".intercalate labels ++ "\x7d"

/-- A sample as a line. -/
def line (s : Sample) : String :=
  s.series ++ " " ++ s.value ++ "\n"

end Sample

/-- A family with its samples. -/
structure MetricFamily where
  name : String
  help : String
  type : String
  samples : List Sample

/-- A family as text. -/
def MetricFamily.text (f : MetricFamily) : String :=
  "# HELP " ++ f.name ++ " " ++ f.help ++ "\n# TYPE " ++ f.name ++ " " ++ f.type ++ "\n" ++
    String.join (f.samples.map Sample.line)

/-- The distinct values of a list, in ascending order. -/
def ascendingDistinct {α : Type} [BEq α] [LT α] [DecidableLT α] (l : List α) : List α :=
  l.eraseDups.mergeSort fun a b => decide (¬ b < a)

namespace Counter

/-- A family of counters with its samples. -/
def family (c : Counter) (m : Metrics) : MetricFamily where
  name := c.name
  help := c.help
  type := "counter"
  samples := (ascendingDistinct (m.labelValues c)).map fun values =>
    ⟨c.name, c.labels.zip values, toString (m.count c values)⟩

end Counter

/-- Which pods are leaders, as a family. -/
def leaderFamily (m : Metrics) : MetricFamily where
  name := "msop_leader_status"
  help := "Current leader election status (1 = leader, 0 = follower)"
  type := "gauge"
  samples :=
    (ascendingDistinct ((m.filterMap MetricEvent.leadership?).map Prod.fst)).map fun pod =>
      ⟨"msop_leader_status", [("pod_name", pod)], if m.isLeader pod then "1" else "0"⟩

/-- The greatest times of the buckets, as they are written and as they are. -/
def buckets : List (String × Duration) :=
  [("0.01", .ofMillis 10), ("0.1", .ofMillis 100), ("0.5", .ofMillis 500), ("1", .ofSecs 1),
    ("2", .ofSecs 2), ("5", .ofSecs 5), ("10", .ofSecs 10), ("30", .ofSecs 30), ("60", .ofSecs 60),
    ("120", .ofSecs 120)]

/-- The name of the histogram of reconcile times. -/
def durationName : String := "msop_reconciliation_duration_seconds"

/-- The samples of the histogram for one kind: how many times lie within each bucket or below it,
their sum, and how many there are. -/
def durationSamples (kind : String) (times : List Duration) : List Sample :=
  let label := ("kind", kind)
  let count := toString times.length
  let sum := times.foldl (fun s t => s.add (.ofDuration t)) Double.zero
  (buckets.map fun b =>
    ⟨durationName ++ "_bucket", [label, ("le", b.1)],
      toString (times.countP fun t => decide (t ≤ b.2))⟩) ++
  [⟨durationName ++ "_bucket", [label, ("le", "+Inf")], count⟩,
    ⟨durationName ++ "_sum", [label], sum.text⟩, ⟨durationName ++ "_count", [label], count⟩]

/-- The times of the reconciles, as a family. -/
def durationFamily (m : Metrics) : MetricFamily where
  name := durationName
  help := "Duration of reconciliations in seconds by kind"
  type := "histogram"
  samples :=
    (ascendingDistinct ((m.filterMap MetricEvent.observed?).map Prod.fst)).flatMap fun kind =>
      durationSamples kind (m.times kind)

namespace Metrics

/-- The families with samples, by name. -/
def families (m : Metrics) : List MetricFamily :=
  [Counter.requests.family m, Counter.errors.family m, Counter.elections.family m, leaderFamily m,
    durationFamily m, Counter.reconciliations.family m, Counter.requeues.family m,
    Counter.created.family m, Counter.deleted.family m, Counter.replaced.family m,
    Counter.updated.family m].filter fun f => !f.samples.isEmpty

/-- All metrics as text. -/
def text (m : Metrics) : String :=
  String.join (m.families.map MetricFamily.text)

end Metrics

end ServiceOperator
