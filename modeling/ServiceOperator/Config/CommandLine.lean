import ServiceOperator.Config.Flag

/-!
# Reading the command line

Arguments are read from the left. A flag's value stands behind an equals sign or is the argument
that follows, which then must not begin with a dash. Such a value is looked at only when the next
flag is read, or at the end, so that an argument that no flag knows is reported before it. What the
command line leaves unset is taken from the environment.
-/

namespace ServiceOperator

/-- Why the arguments cannot be used, or what they ask for instead. -/
inductive UsageError where
  /-- A flag that has to be set is not. -/
  | missingRequired
  /-- A value is missing, or is neither `true` nor `false`. -/
  | invalidValue
  /-- A value is not a number of the right size. -/
  | valueValidation
  /-- An argument is no flag. -/
  | unknownArgument
  /-- A flag without value was given one. -/
  | tooManyValues
  /-- A flag was given twice. -/
  | conflict
  | displayHelp
  | displayVersion
  deriving DecidableEq, Repr

/-- The name of a usage error. -/
def UsageError.name : UsageError → String
  | missingRequired => "MissingRequiredArgument"
  | invalidValue => "InvalidValue"
  | valueValidation => "ValueValidation"
  | unknownArgument => "UnknownArgument"
  | tooManyValues => "TooManyValues"
  | conflict => "ArgumentConflict"
  | displayHelp => "DisplayHelp"
  | displayVersion => "DisplayVersion"

/-- The values that are set so far. -/
abbrev FlagValues := List (Flag × String)

/-- Checks a value by the type of its flag. -/
def FlagType.check (value : String) : FlagType → Except UsageError Unit
  | text => .ok ()
  | number bound signed =>
    if (numberBelow? bound signed value).isSome then .ok () else .error .valueValidation
  | switch => if value = "true" ∨ value = "false" then .ok () else .error .invalidValue

/-- Sets a flag that must not be set yet. -/
def FlagValues.set (values : FlagValues) (f : Flag) (value : String) :
    Except UsageError FlagValues :=
  if (values.lookup f).isSome then .error .conflict
  else match f.type.check value with
    | .ok () => .ok (values ++ [(f, value)])
    | .error e => .error e

/-- The arguments read so far. -/
structure ArgumentReader where
  values : FlagValues
  /-- A flag whose value has not been looked at, with the value if it was given. -/
  pending : Option (Flag × Option String)
  deriving DecidableEq, Repr

namespace ArgumentReader

/-- Looks at the value that is pending. -/
def settle (r : ArgumentReader) : Except UsageError FlagValues :=
  match r.pending with
  | none => .ok r.values
  | some (_, none) => .error .invalidValue
  | some (f, some value) => r.values.set f value

/-- The name and the value of an argument with two dashes. -/
def splitLong (body : List Char) : String × Option String :=
  match body.dropWhile fun c => c ≠ '=' with
  | _ :: value => (String.ofList (body.takeWhile fun c => c ≠ '='), some (String.ofList value))
  | [] => (String.ofList body, none)

/-- Ends reading with what a flag asks to display. -/
def display (r : ArgumentReader) (what : UsageError) : Except UsageError ArgumentReader :=
  match r.settle with
  | .ok _ => .error what
  | .error e => .error e

/-- Sets a flag once the pending value is settled. -/
def setNow (r : ArgumentReader) (f : Flag) (value : String) : Except UsageError ArgumentReader := do
  return ⟨← (← r.settle).set f value, none⟩

/-- Reads an argument with two dashes. -/
def readLong (r : ArgumentReader) (name : String) (value : Option String) :
    Except UsageError ArgumentReader :=
  if name = "help" ∨ name = "version" then
    if value.isSome then .error .tooManyValues
    else r.display (if name = "help" then .displayHelp else .displayVersion)
  else
    match Flag.ofName? name with
    | none => .error .unknownArgument
    | some f =>
      match f.type, value with
      | .switch, some _ => .error .tooManyValues
      | .switch, none => r.setNow f "true"
      | _, some v => r.setNow f v
      | _, none => r.settle.map fun values => ⟨values, some (f, none)⟩

/-- Reads an argument with one dash by its first letter. -/
def readShort (r : ArgumentReader) (letter : Char) : Except UsageError ArgumentReader :=
  if letter = 'h' then r.display .displayHelp
  else if letter = 'V' then r.display .displayVersion
  else .error .unknownArgument

/-- Reads an argument that is no flag: a value that is waited for. -/
def readPlain (r : ArgumentReader) (arg : String) : Except UsageError ArgumentReader :=
  match r.pending with
  | some (f, none) => .ok { r with pending := some (f, some arg) }
  | _ => .error .unknownArgument

/-- Reads one argument other than two dashes alone. -/
def readOne (r : ArgumentReader) (arg : String) : Except UsageError ArgumentReader :=
  match arg.toList with
  | '-' :: '-' :: body =>
    let (name, value) := splitLong body
    r.readLong name value
  | '-' :: letter :: _ => r.readShort letter
  | _ => r.readPlain arg

/-- Reads all arguments. Behind two dashes alone there are no flags, and nothing else is known. -/
def readAll (r : ArgumentReader) : List String → Except UsageError FlagValues
  | [] => r.settle
  | arg :: rest =>
    if arg = "--" then (if rest.isEmpty then r.settle else .error .unknownArgument)
    else match r.readOne arg with
      | .ok r => r.readAll rest
      | .error e => .error e

end ArgumentReader

/-- Sets those of some flags that are not set from the environment. -/
def FlagValues.addEnvironment (environment : List (String × String)) (values : FlagValues) :
    List Flag → Except UsageError FlagValues
  | [] => .ok values
  | f :: rest =>
    match values.lookup f, environment.lookup f.variableName with
    | none, some value =>
      match values.set f value with
      | .ok values => values.addEnvironment environment rest
      | .error e => .error e
    | _, _ => values.addEnvironment environment rest

/-- The values that the arguments and the environment set. The token has to be among them. -/
def readFlags (arguments : List String) (environment : List (String × String)) :
    Except UsageError FlagValues := do
  let values ← ArgumentReader.readAll ⟨[], none⟩ arguments
  let values ← values.addEnvironment environment Flag.all
  if (values.lookup Flag.apiToken).isSome then return values else .error .missingRequired

end ServiceOperator
