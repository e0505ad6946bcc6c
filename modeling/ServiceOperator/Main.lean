import ServiceOperator.Config.OperatorConfig

/-!
# The command line

Reads the flags and the environment, checks that they go together, and shows the configuration that
follows from them together with the name under which the operator stands for leader.
-/

namespace ServiceOperator

/-- The variables of the environment that are looked at. -/
def environmentNames : List String :=
  Flag.all.map Flag.variableName ++ ["HOSTNAME"]

/-- The lines that show a configuration. -/
def OperatorConfig.lines (c : OperatorConfig) (environment : List (String × String)) :
    List String :=
  c.shown.map (fun p => "--" ++ p.1.name ++ " " ++ p.2) ++
    ["leader identity: " ++ c.leaderIdentity environment]

/-- The lines that say which flags there are. -/
def usageLines : List String :=
  Flag.all.map fun f => "--" ++ f.name ++ " (" ++ f.variableName ++ ")"

/-- Whether help or the version was asked for, which is no failure. -/
def UsageError.isRequest : UsageError → Bool
  | .displayHelp => true
  | .displayVersion => true
  | _ => false

end ServiceOperator

open ServiceOperator

def main (arguments : List String) : IO UInt32 := do
  let environment ← environmentNames.filterMapM fun n => do
    return (← IO.getEnv n).map fun value => (n, value)
  match OperatorConfig.read arguments environment with
  | .error e =>
    if e.isRequest then
      usageLines.forM IO.println
      return 0
    IO.eprintln ("error: " ++ e.name)
    return 2
  | .ok c =>
    match c.validate with
    | .error why =>
      IO.eprintln ("invalid configuration: " ++ why)
      return 1
    | .ok _ =>
      (c.lines environment).forM IO.println
      return 0
