import ServiceOperator.Kinds.Adapter

/-!
# VPCs

A VPC cannot be changed. A deleted one is still told of for a while and counts as absent. Without an
id a VPC is found by its cloud and network.
-/

namespace ServiceOperator.ProjectVpcSpec

/-- The state of a VPC that is gone. -/
def deletedState : String := "DELETED"

/-- The body that creates the VPC. -/
def request (s : ProjectVpcSpec) : CreateVpc where
  cloudName := s.cloudName
  networkCidr := s.networkCidr
  peeringConnections := []

/-- A VPC in the cloud and with the network that the record declares. -/
def isSameNetwork (s : ProjectVpcSpec) (v : VpcDocument) : Bool :=
  v.cloudName = s.cloudName && v.networkCidr = s.networkCidr

/-- What a pass reads off a VPC. -/
def profile (s : ProjectVpcSpec) : Profile VpcDocument where
  identity := .server
  requiresReplace := false
  isReady v := v.state = activeState
  observedState := VpcDocument.state
  remoteId := VpcDocument.projectVpcId
  matchesExisting := s.isSameNetwork
  needsUpdate _ := false

/-- The first VPC with the declared network that is not gone. -/
def find (base : Url) (s : ProjectVpcSpec) : Action VpcDocument := do
  ControlPlane.findOr (.notFound (ControlPlane.vpcText (s.networkCidr ++ " in " ++ s.cloudName)))
    (fun v => v.state ≠ deletedState && s.isSameNetwork v)
    (← ControlPlane.listVpcs base s.project)

/-- The VPC with an id, unless it is gone. -/
def getById (base : Url) (s : ProjectVpcSpec) (id : String) : Action VpcDocument := do
  let v ← ControlPlane.getVpc base s.project id
  if v.state = deletedState then Action.fail (.notFound (ControlPlane.vpcText id)) else return v

/-- The id of the VPC. -/
def resolve (base : Url) (s : ProjectVpcSpec) : Option String → Action String
  | some id => return id
  | none => return (← s.find base).projectVpcId

/-- The adapter of a VPC. -/
def adapter (base : Url) (r : Record) (s : ProjectVpcSpec) : Adapter VpcDocument where
  profile := s.profile
  sourceFingerprint := r.currentFingerprint
  checkPreconditions := r.ensureDependencies base
  create := do
    return (← ControlPlane.createVpc base s.project s.request).projectVpcId
  update _ := return ()
  get
    | some id => s.getById base id
    | none => s.find base
  delete id := do
    ControlPlane.deleteVpc base s.project (← s.resolve base id)
  connectionInfo _ := return .empty
  encode := VpcDocument.encode

end ServiceOperator.ProjectVpcSpec
