import ServiceOperator.Kinds.Adapter

/-!
# Databases

A database has nothing that could be changed once it exists. One that exists already is taken over
if it has the locales that its record asks for.
-/

namespace ServiceOperator.DatabaseSpec

/-- The name of the database of a record. -/
def databaseNameOf (s : DatabaseSpec) (recordName : String) : String :=
  s.databaseName.getD recordName

/-- The body that creates the database. -/
def createRequest (s : DatabaseSpec) (name : String) : CreateDatabase where
  database := name
  lcCollate := s.lcCollate
  lcCtype := s.lcCtype

/-- An existing locale is as good as the wanted one. -/
def localeFits (wanted existing : Option String) : Bool :=
  wanted.isNone || existing = wanted

/-- What a pass reads off a database. -/
def profile (s : DatabaseSpec) : Profile DatabaseDocument where
  identity := .name
  requiresReplace := false
  isReady _ := true
  observedState _ := activeState
  remoteId := DatabaseDocument.databaseName
  matchesExisting d := localeFits s.lcCollate d.lcCollate && localeFits s.lcCtype d.lcCtype
  needsUpdate _ := false

/-- The adapter of a database. -/
def adapter (base : Url) (r : Record) (s : DatabaseSpec) : Adapter DatabaseDocument where
  profile := s.profile
  sourceFingerprint := r.currentFingerprint
  checkPreconditions := r.ensureDependencies base
  create := do
    let name := s.databaseNameOf r.name
    ControlPlane.createDatabase base s.project s.serviceName (s.createRequest name)
    return name
  update _ := return ()
  get id :=
    ControlPlane.getDatabase base s.project s.serviceName (id.getD (s.databaseNameOf r.name))
  delete id := do
    let name := id.getD (s.databaseNameOf r.name)
    Action.ofExcept (checkDeletable s.terminationProtection ("database " ++ name))
    ControlPlane.deleteDatabase base s.project s.serviceName name
  connectionInfo _ := return .empty
  encode := DatabaseDocument.encode

end ServiceOperator.DatabaseSpec
