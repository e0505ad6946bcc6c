import ServiceOperator.Reconcile.Readiness

/-!
# Dependencies by tables

Answers to questions about dependencies from two tables, with the questions listed in words.
-/

namespace ServiceOperator.Simulation

/-- What is known of dependencies, by their text. -/
structure DependencyTables where
  declared : List (String × Except OperatorError Readiness)
  external : List (String × Except OperatorError Readiness)

namespace DependencyTables

/-- Answers a question and adds it to the list. What is not known is absent. -/
def answer (t : DependencyTables) (q : Lookup) (asked : List String) :
    Except OperatorError Readiness × List String :=
  match q with
  | .declared d =>
    ((t.declared.lookup d.describe).getD (.ok .absent), asked ++ ["declared " ++ d.describe])
  | .external project d =>
    ((t.external.lookup d.describe).getD (.ok .absent),
      asked ++ ["external " ++ project ++ " " ++ d.describe])

/-- Whether dependencies are ready, and what was asked. -/
def ensureReady (t : DependencyTables) (project : String) (dependencies : List Dependency) :
    Except OperatorError Unit × List String :=
  (ServiceOperator.ensureReady project dependencies).run t.answer []

end DependencyTables

end ServiceOperator.Simulation
