import ServiceOperator.Kinds.Adapter

/-!
# Connection pools

A pool has no address of its own: it is read from the document of its service, which also tells
where pooled connections are served and the password of the user as which the pool connects.
-/

namespace ServiceOperator

/-- A pool with the service that it was read from. -/
structure ServicePool where
  service : ServiceDocument
  pool : PoolDocument
  deriving DecidableEq

/-- A pool and its service as a document. -/
def ServicePool.encode (p : ServicePool) : Json :=
  .object [("service", p.service.encode), ("pool", p.pool.encode)]

namespace ConnectionPoolSpec

/-- The size of the pool. -/
def size (s : ConnectionPoolSpec) : Nat := s.poolSize.getD 10

/-- The mode of the pool. -/
def mode (s : ConnectionPoolSpec) : String := (s.poolMode.getD .transaction).text

/-- The body that creates the pool with a name, or changes it without one. -/
def request (s : ConnectionPoolSpec) (name : Option String) : PoolBody where
  poolName := name
  database := s.databaseName
  username := s.username
  poolSize := s.size
  poolMode := s.mode

/-- The address of a pool as one text. -/
def uri (user password host port database sslMode : String) : String :=
  "postgres://" ++ user ++ ":" ++ password ++ "@" ++ host ++ ":" ++ port ++ "/" ++ database ++
    "?sslmode=" ++ sslMode

/-- How to connect to a pool whose project has a certificate. Clients name the pool as their
database. -/
def connectionInfo (s : ConnectionPoolSpec) (p : ServicePool) (ca : String) :
    Except OperatorError ConnectionInfo := do
  let d := p.service
  let front := d.component? "pgbouncer"
  let sslMode := (d.serviceUriParams.get? "sslmode").getD defaultSslMode
  let host ← required d "HOST" (front.map ServiceComponent.host)
  let port ← required d "PORT" (front.map fun c => toString c.port)
  let password ← required d "PASSWORD" ((d.user? s.username).bind UserDocument.password)
  let database := p.pool.poolName
  let uri := p.pool.connectionUri.getD (uri s.username password host port database sslMode)
  return .ofList [("HOST", host), ("PORT", port), ("DATABASE", database), ("USER", s.username),
    ("PASSWORD", password), ("SSLMODE", sslMode), ("DATABASE_URI", uri), ("CA_CERT", ca)]

/-- What a pass reads off a pool. -/
def profile (s : ConnectionPoolSpec) : Profile ServicePool where
  identity := .name
  requiresReplace := false
  isReady _ := true
  observedState _ := activeState
  remoteId p := p.pool.poolName
  matchesExisting p := p.pool.database = s.databaseName && p.pool.username = some s.username
  needsUpdate p := p.pool.poolSize ≠ some s.size || p.pool.poolMode ≠ some s.mode

/-- Reads a pool from its service. -/
def find (base : Url) (s : ConnectionPoolSpec) (name : String) : Action ServicePool := do
  let service ← ControlPlane.getService base s.project s.serviceName
  match service.pool? name with
  | some pool => return ⟨service, pool⟩
  | none => Action.fail (.notFound (ControlPlane.poolText name s.serviceName))

/-- The adapter of a pool. -/
def adapter (base : Url) (r : Record) (s : ConnectionPoolSpec) : Adapter ServicePool where
  profile := s.profile
  sourceFingerprint := r.currentFingerprint
  checkPreconditions := r.ensureDependencies base
  create := do
    ControlPlane.createConnectionPool base s.project s.serviceName (s.request (some r.name))
    return r.name
  update id :=
    ControlPlane.updateConnectionPool base s.project s.serviceName id (s.request none)
  get id := s.find base (id.getD r.name)
  delete id := ControlPlane.deleteConnectionPool base s.project s.serviceName (id.getD r.name)
  connectionInfo p := do
    let ca ← ControlPlane.getProjectCa base s.project
    Action.ofExcept (s.connectionInfo p ca)
  encode := ServicePool.encode

end ConnectionPoolSpec

end ServiceOperator
