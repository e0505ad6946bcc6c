import ServiceOperator.Kinds.Adapter

/-!
# Topics

The partitions of a topic can only become more. A topic with too many of them, or with another
replication, cannot be taken over; one with too few has drifted.
-/

namespace ServiceOperator.KafkaTopicSpec

/-- The name of the topic of a record. -/
def topicNameOf (s : KafkaTopicSpec) (recordName : String) : String :=
  s.topicName.getD recordName

/-- The body that creates the topic with a name, or changes it without one. -/
def request (s : KafkaTopicSpec) (name : Option String) : TopicBody where
  topicName := name
  partitions := s.partitions
  replication := s.replication
  config := s.config.getD ⟨none, none, none⟩
  tags := (s.tags.getD .empty).toList
  terminationProtection := s.terminationProtection

/-- What a pass reads off a topic. -/
def profile (s : KafkaTopicSpec) : Profile TopicDocument where
  identity := .name
  requiresReplace := false
  isReady t := t.state = activeState
  observedState := TopicDocument.state
  remoteId := TopicDocument.topicName
  matchesExisting t := t.replication = s.replication && decide (t.partitionCount ≤ s.partitions)
  needsUpdate t := t.state = activeState && decide (t.partitionCount < s.partitions)

/-- The adapter of a topic. -/
def adapter (base : Url) (r : Record) (s : KafkaTopicSpec) : Adapter TopicDocument where
  profile := s.profile
  sourceFingerprint := r.currentFingerprint
  checkPreconditions := r.ensureDependencies base
  create := do
    let name := s.topicNameOf r.name
    ControlPlane.createTopic base s.project s.serviceName (s.request (some name))
    return name
  update id := ControlPlane.updateTopic base s.project s.serviceName id (s.request none)
  get id := ControlPlane.getTopic base s.project s.serviceName (id.getD (s.topicNameOf r.name))
  delete id := do
    let name := id.getD (s.topicNameOf r.name)
    Action.ofExcept (checkDeletable s.terminationProtection ("topic " ++ name))
    ControlPlane.deleteTopic base s.project s.serviceName name
  connectionInfo _ := return .empty
  encode := TopicDocument.encode

end ServiceOperator.KafkaTopicSpec
