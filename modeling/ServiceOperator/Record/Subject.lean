import ServiceOperator.Reconcile.Pass
import ServiceOperator.Record.Basic

/-!
# Records as subjects of a pass

What a pass sees of a record. A record without a generation counts as generation zero.
-/

namespace ServiceOperator

/-- The record as a pass sees it. -/
def Record.subject (r : Record) : Subject where
  kind := r.kind.name
  name := r.name
  generation := r.metadata.generation.getD 0
  deletionRequested := r.metadata.deletionRequested
  status := r.currentStatus

end ServiceOperator
