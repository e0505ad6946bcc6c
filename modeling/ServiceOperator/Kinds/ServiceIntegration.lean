import ServiceOperator.Kinds.Adapter

/-!
# Links between services

Without an id a link is found among those of its source by its type and its ends.
-/

namespace ServiceOperator.ServiceIntegrationSpec

/-- The body that creates the link. -/
def createRequest (s : ServiceIntegrationSpec) : CreateIntegration where
  integrationType := s.integrationType
  sourceService := s.sourceServiceName
  destService := s.destinationServiceName
  userConfig := s.userConfig.getD .empty

/-- The body that changes the link. -/
def updateRequest (s : ServiceIntegrationSpec) : UpdateIntegration where
  userConfig := s.userConfig.getD .empty

/-- A link of the type and with the ends that the record declares. -/
def isSameLink (s : ServiceIntegrationSpec) (i : IntegrationDocument) : Bool :=
  i.integrationType = s.integrationType && i.sourceService = s.sourceServiceName &&
    i.destService = s.destinationServiceName

/-- What a pass reads off a link. -/
def profile (s : ServiceIntegrationSpec) : Profile IntegrationDocument where
  identity := .server
  requiresReplace := false
  isReady := IntegrationDocument.active
  observedState i := if i.active then "active" else "inactive"
  remoteId := IntegrationDocument.id
  matchesExisting := s.isSameLink
  needsUpdate _ := false

/-- The first link of the declared type between the declared ends. -/
def find (base : Url) (s : ServiceIntegrationSpec) : Action IntegrationDocument := do
  ControlPlane.findOr
    (.notFound
      (ControlPlane.linkText s.integrationType s.sourceServiceName s.destinationServiceName))
    s.isSameLink (← ControlPlane.listServiceIntegrations base s.project s.sourceServiceName)

/-- The id of the link. -/
def resolve (base : Url) (s : ServiceIntegrationSpec) : Option String → Action String
  | some id => return id
  | none => return (← s.find base).id

/-- The adapter of a link. -/
def adapter (base : Url) (r : Record) (s : ServiceIntegrationSpec) :
    Adapter IntegrationDocument where
  profile := s.profile
  sourceFingerprint := r.currentFingerprint
  checkPreconditions := r.ensureDependencies base
  create := do
    return (← ControlPlane.createIntegration base s.project s.createRequest).id
  update id := do
    let _ ← ControlPlane.updateIntegration base s.project id s.updateRequest
  get
    | some id => ControlPlane.getIntegration base s.project id
    | none => s.find base
  delete id := do
    ControlPlane.deleteIntegration base s.project (← s.resolve base id)
  connectionInfo _ := return .empty
  encode := IntegrationDocument.encode

end ServiceOperator.ServiceIntegrationSpec
