import ServiceOperator.Kinds.Adapter

/-!
# Access list entries

An entry cannot be changed, so that every new generation replaces it. Without an id it is found by
what it grants.
-/

namespace ServiceOperator.KafkaAclSpec

/-- The body that creates the entry. -/
def request (s : KafkaAclSpec) : CreateAcl where
  permission := s.permission.text
  topic := s.topic
  username := s.username

/-- What a pass reads off an entry. -/
def profile (s : KafkaAclSpec) : Profile AclDocument where
  identity := .server
  requiresReplace := true
  isReady _ := true
  observedState _ := activeState
  remoteId := AclDocument.id
  matchesExisting := ControlPlane.CreateAcl.isGrantedBy s.request
  needsUpdate _ := false

/-- The first entry that grants what the record declares. -/
def find (base : Url) (s : KafkaAclSpec) : Action AclDocument := do
  ControlPlane.findOr (.notFound (ControlPlane.grantText s.request s.serviceName))
    (ControlPlane.CreateAcl.isGrantedBy s.request)
    (← ControlPlane.listAcls base s.project s.serviceName)

/-- The id of the entry. -/
def resolve (base : Url) (s : KafkaAclSpec) : Option String → Action String
  | some id => return id
  | none => return (← s.find base).id

/-- The adapter of an entry. -/
def adapter (base : Url) (r : Record) (s : KafkaAclSpec) : Adapter AclDocument where
  profile := s.profile
  sourceFingerprint := r.currentFingerprint
  checkPreconditions := r.ensureDependencies base
  create := do
    return (← ControlPlane.createAcl base s.project s.serviceName s.request).id
  update id := Action.fail (.invalidSpec ("ACL " ++ id ++ " cannot be modified in place"))
  get
    | some id => ControlPlane.getAcl base s.project s.serviceName id
    | none => s.find base
  delete id := do
    ControlPlane.deleteAcl base s.project s.serviceName (← s.resolve base id)
  connectionInfo _ := return .empty
  encode := AclDocument.encode

end ServiceOperator.KafkaAclSpec
