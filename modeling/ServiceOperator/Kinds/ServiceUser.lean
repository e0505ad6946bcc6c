import ServiceOperator.Kinds.Adapter

/-!
# Users

A user is named by its record. A user whose record has a source secret is given the password in it
when it is created, and again whenever the password changes; other users get a password from the
control plane. The primary user of a service is never taken over.
-/

namespace ServiceOperator

/-- The type of the user that comes with a service. -/
def primaryUserType : String := "primary"

namespace ServiceUserSpec

/-- The body that creates the user. -/
def createRequest (s : ServiceUserSpec) (name : String) : CreateUser where
  username := name
  authentication := s.authentication

/-- Where users connect to: the address of the service, or else that of its main part. -/
def hostAndPort (d : ServiceDocument) : Option String × Option String :=
  match d.serviceUriParams.get? "host", d.serviceUriParams.get? "port" with
  | some host, some port => (some host, some port)
  | _, _ =>
    let main := d.component? d.serviceType
    (main.map ServiceComponent.host, main.map fun c => toString c.port)

/-- How to connect as a user of a service whose project has a certificate. -/
def connectionInfo (d : ServiceDocument) (ca : String) (u : UserDocument) :
    Except OperatorError ConnectionInfo := do
  let (host, port) := hostAndPort d
  let host ← required d "HOST" host
  let port ← required d "PORT" port
  let password ← required d "PASSWORD" u.password
  return .ofList <|
    [("HOST", host), ("PORT", port), ("USERNAME", u.username), ("PASSWORD", password)] ++
    optional "ACCESS_CERT" u.accessCert ++ optional "ACCESS_KEY" u.accessKey ++ [("CA_CERT", ca)]

/-- What a pass reads off a user. -/
def profile : Profile UserDocument where
  identity := .name
  requiresReplace := false
  isReady _ := true
  observedState _ := activeState
  remoteId := UserDocument.username
  matchesExisting u := u.userType ≠ some primaryUserType
  needsUpdate _ := false

/-- Gives the user the password in the source secret, if the record has one. -/
def applyPassword (base : Url) (r : Record) (s : ServiceUserSpec) (username : String) :
    Action Unit := do
  match ← r.readSource with
  | none => return ()
  | some source =>
    ControlPlane.modifyUser base s.project s.serviceName username
      (.resetCredentials (some source.value))

/-- The adapter of a user. -/
def adapter (base : Url) (r : Record) (s : ServiceUserSpec) : Adapter UserDocument where
  profile := profile
  sourceFingerprint := r.currentFingerprint
  checkPreconditions := r.ensureDependencies base
  create := do
    let user ← ControlPlane.createUser base s.project s.serviceName (s.createRequest r.name)
    s.applyPassword base r user.username
    return user.username
  update id := do
    if let some authentication := s.authentication then
      ControlPlane.modifyUser base s.project s.serviceName id (.setAuthentication authentication)
    s.applyPassword base r id
  get id := ControlPlane.getUser base s.project s.serviceName (id.getD r.name)
  delete id := ControlPlane.deleteUser base s.project s.serviceName (id.getD r.name)
  connectionInfo u := do
    let service ← ControlPlane.getService base s.project s.serviceName
    let ca ← ControlPlane.getProjectCa base s.project
    Action.ofExcept (connectionInfo service ca u)
  encode := UserDocument.encode

end ServiceUserSpec

end ServiceOperator
