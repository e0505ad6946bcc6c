import ServiceOperator.Proofs.Kinds.Passwords
import ServiceOperator.Proofs.Pass.SourceFingerprint

/-!
# Where the password of a source secret goes

A record that takes a password from a secret sends it to the control plane, to reset the credentials
of its user, and notes its fingerprint in its status.  Nothing else that is done for the record
depends on it.

This is a statement about two runs.  `Record.likeness` says how they are compared: questions are
alike if they are equal once the password of a reset and the fingerprint in a status are blotted out
(`Question.redacted`), and the answers to alike questions are equal, with two exceptions.  The
source secret may show one value in the first run and another one in the second
(`Record.ShownAlike`), and where both runs have the record written, each is shown what is stored
then, with the fingerprint that is noted in it (`Record.StoredAlike`).  From there the calls of an
adapter go abreast, and with them a pass (`Record.reconcile_abreast`).

### What a value may still decide

A value that cannot be used, because it is empty or no text, makes a pass fail, and with a value
that is noted already it leaves the password alone.  Both show from outside.  `Record.Shows`
therefore asks of each value that it is a text which is not empty and has yet to be noted.  Which of
two such values it is has no further part in anything, because both fingerprints compare alike with
the noted one (`Indistinct`).
-/

namespace ServiceOperator

open Program (Abreast Likeness)

/-! ## What is blotted out -/

/-- The text at a path of keys, blotted out. -/
def Json.blotted : List String → Json → Json
  | [], .string _ => .string ""
  | key :: rest, .object ms =>
    .object (ms.map fun m => if m.1 = key then (m.1, Json.blotted rest m.2) else m)
  | _, j => j

namespace Question

/-- A question without the password of a reset, and without the fingerprint in a status. -/
def redacted : Question → Question
  | .http request =>
    if Question.resets (.http request) then
      .http { request with body := request.body.map (Json.blotted ["new_password"]) }
    else .http request
  | .kube request =>
    .kube { request with patch := request.patch.map fun p =>
      { p with body := p.body.blotted ["status", "sourceFingerprint"] } }
  | q => q

/-- Of a request to the control plane nothing but the body is blotted out. -/
theorem redacted_http (request : HttpRequest) :
    ∃ body, redacted (.http request) = .http { request with body := body } := by
  rw [redacted]
  split
  · exact ⟨_, rfl⟩
  · exact ⟨_, rfl⟩

end Question

/-! ## What may differ -/

namespace Record

/-- The path at which a record has its source secret read. -/
def sourcePath? (r : Record) : Option String :=
  r.secretSource?.bind fun source => Kubernetes.sendablePath?
    ((Secret.collection (r.sourceNamespace source)).path ++ "/" ++ source.name)

/-- A reply shows the source secret of a record with a value in it that has yet to be noted: a text
that is not empty, with another fingerprint than the noted one. -/
structure Shows (r : Record) (source : SecretSource) (reply : KubeReply) (secret : Secret)
    (value : String) : Prop where
  declared : r.secretSource? = some source
  read : Kubernetes.ofReply Secret.decode reply = .ok secret
  holds : secret.bytesAt? source.passwordKey = some (Text.utf8Bytes value.toList)
  filled : value ≠ ""
  unnoted : r.currentStatus.sourceFingerprint ≠
    some (fingerprint (r.metadata.uid.getD "") value)

/-- Two replies show the source secret of a record, each with a value of its own. -/
def ShownAlike (r : Record) (x y : KubeReply) : Prop :=
  ∃ source a b v w, r.Shows source x a v ∧ r.Shows source y b w

/-- Two replies show records of the same kind. -/
def StoredAlike (r : Record) (x y : KubeReply) : Prop :=
  ∃ a b, Kubernetes.ofReply r.collection.decode x = .ok a ∧
    Kubernetes.ofReply r.collection.decode y = .ok b

/-- Answers to a request that are equal, unless they show the source secret of a record, or the
record as it is after a write. -/
def RepliesAlike (r : Record) (request : KubeRequest) (x y : KubeReply) : Prop :=
  x = y ∨ r.sourcePath? = some request.path ∧ r.ShownAlike x y ∨
    request.patch.isSome = true ∧ Kubernetes.OfRecords request.path ∧ r.StoredAlike x y

end Record

/-- Answers that are equal, except that two runs for a record may be shown what differs in them. -/
def Question.AnsweredAlike (r : Record) : (q q' : Question) → q.Answer → q'.Answer → Prop
  | .http _, .http _, x, y => x = y
  | .kube request, .kube _, x, y => r.RepliesAlike request x y
  | .patience _, .patience _, x, y => x = y
  | .now, .now, x, y => x = y
  | _, _, _, _ => True

/-- Two runs for a record that differ in nothing but the value in its source secret. -/
def Record.likeness (r : Record) : Likeness Question.Answer where
  Questions q q' := q.redacted = q'.redacted
  Answers := Question.AnsweredAlike r

/-! ## What does not look at the secret -/

namespace Record

variable {r : Record} {base : Url}

/-- What is read elsewhere than at the path of the source secret has no alike answers but equal
ones. -/
theorem exact_of_elsewhere {q : Question} (elsewhere : ∀ request, q = .kube request →
    request.patch = none ∧ r.sourcePath? ≠ some request.path) : r.likeness.Exact q := by
  refine ⟨rfl, fun x y answered => ?_⟩
  cases q with
  | kube request =>
      obtain ⟨reads, apart⟩ := elsewhere request rfl
      rcases answered with same | there | written
      · exact same
      · exact absurd there.1 apart
      · simp [reads] at written
  | http request => exact answered
  | patience peer => exact answered
  | now => exact answered
  | acquire key => rfl
  | release key => rfl
  | count event => rfl

theorem exact_of_internal {q : Question} (other : ∀ request, q ≠ .kube request) :
    r.likeness.Exact q :=
  exact_of_elsewhere fun request same => absurd same (other request)

theorem exact_http {request : HttpRequest} : r.likeness.Exact (.http request) :=
  exact_of_internal fun _ => Question.noConfusion

/-- A source secret is a secret. -/
theorem ofSecrets_of_sourcePath? {path : String} (there : r.sourcePath? = some path) :
    Kubernetes.OfSecrets path := by
  obtain ⟨source, -, sendable⟩ := Option.bind_eq_some_iff.mp there
  rw [String.append_assoc] at sendable
  exact Kubernetes.ofSecrets_of_sendable sendable

/-- The source secret does not lie among the records. -/
theorem sourcePath?_ne_of_ofRecords {path : String} (records : Kubernetes.OfRecords path) :
    r.sourcePath? ≠ some path := by
  intro there
  exact records.not_ofSecrets (ofSecrets_of_sourcePath? there)

theorem exact_of_ofRecords {path : String} (records : Kubernetes.OfRecords path) :
    r.likeness.Exact (.kube ⟨path, none⟩) := by
  refine exact_of_elsewhere ?_
  rintro _ ⟨⟩
  exact ⟨rfl, sourcePath?_ne_of_ofRecords records⟩

theorem permitsRecords_exact : PermitsRecords r.likeness.Exact where
  get _ := exact_of_internal fun _ => Question.noConfusion
  patience _ := exact_of_internal fun _ => Question.noConfusion
  count _ := exact_of_internal fun _ => Question.noConfusion
  record _ := exact_of_ofRecords

/-- A record without a source secret has nothing that may differ in what it reads. -/
theorem permits_exact (none : r.secretSource? = none) : Permits r.likeness.Exact where
  http _ := exact_http
  read path := by
    refine exact_of_elsewhere ?_
    rintro _ ⟨⟩
    simp [sourcePath?, none]
  patience := permitsRecords_exact.patience
  count := permitsRecords_exact.count

theorem patience_abreast (r : Record) (peer : Peer) :
    Abreast r.likeness Eq (Work.patience peer) (Work.patience peer) :=
  (Program.asks_question (permitsRecords_exact.patience peer)).abreast

theorem count_abreast (r : Record) (event : MetricEvent) :
    Abreast r.likeness Eq (Work.count event) (Work.count event) :=
  (Program.asks_question (permitsRecords_exact.count event)).abreast

end Record

/-! ## Values -/

/-- The bytes of a text are read as that text. -/
theorem textOfBytes?_utf8Bytes (value : String) :
    textOfBytes? (Text.utf8Bytes value.toList) = some value := by
  have bytes : (⟨(Text.utf8Bytes value.toList).toArray⟩ : ByteArray) = value.toByteArray := by
    rw [← String.utf8Encode_toList]
    exact ByteArray.ext List.data_toByteArray.symm
  rw [textOfBytes?, bytes, String.fromUTF8?, dif_pos value.isValidUTF8]
  rfl

/-- A text that a secret holds under a key is the value that is taken from it. -/
theorem Secret.valueAt_eq_ok {s : Secret} {key value : String}
    (holds : s.bytesAt? key = some (Text.utf8Bytes value.toList)) (filled : value ≠ "") :
    s.valueAt key = .ok value := by
  have bytes : (Text.utf8Bytes value.toList).isEmpty = false := by
    rw [List.isEmpty_eq_false_iff]
    intro nothing
    have read := textOfBytes?_utf8Bytes value
    rw [nothing] at read
    exact filled (Option.some.inj (read.symm.trans (textOfBytes?_utf8Bytes "")))
  simp only [valueAt, holds, bytes, textOfBytes?_utf8Bytes, Bool.false_eq_true, if_false]

namespace Record

variable {r : Record} {base : Url}

/-- A record takes values from two secrets whose fingerprints are compared alike, or fails alike. -/
def GivenAlike (r : Record) (a b : Secret) : Prop :=
  ∀ source, r.secretSource? = some source → SameOutcome
    (fun v w => Indistinct r.currentStatus.sourceFingerprint (some v.fingerprint)
      (some w.fingerprint))
    (SourceValue.ofSecret a source.passwordKey (r.metadata.uid.getD ""))
    (SourceValue.ofSecret b source.passwordKey (r.metadata.uid.getD ""))

/-- Replies that show a secret alike give values that are compared alike. -/
theorem givenAlike_of_replies {request : KubeRequest} {x y : KubeReply}
    (secrets : Kubernetes.OfSecrets request.path) (replies : r.RepliesAlike request x y) :
    SameOutcome r.GivenAlike (Kubernetes.ofReply Secret.decode x)
      (Kubernetes.ofReply Secret.decode y) := by
  rcases replies with rfl | ⟨-, source, a, b, v, w, shows, showsToo⟩ | ⟨-, records, -⟩
  · exact .refl (fun a _ _ => .refl (fun _ => .same _) _) _
  · rw [shows.read, showsToo.read]
    refine .ok fun source' declared => ?_
    cases shows.declared.symm.trans declared
    simp only [SourceValue.ofSecret, Secret.valueAt_eq_ok shows.holds shows.filled,
      Secret.valueAt_eq_ok showsToo.holds showsToo.filled]
    exact .ok (.changed shows.unnoted showsToo.unnoted)
  · exact absurd secrets records.not_ofSecrets

/-- A request for a secret, whether it reads or writes it, is understood alike. -/
theorem sendSecret_abreast {ns rest : String} {patch : Option KubePatch} :
    Abreast r.likeness (SameOutcome r.GivenAlike)
      (Kubernetes.sendTo ((Secret.collection ns).path ++ rest) patch Secret.decode)
      (Kubernetes.sendTo ((Secret.collection ns).path ++ rest) patch Secret.decode) := by
  unfold Kubernetes.sendTo
  split
  case h_1 path sendable =>
    have secrets : Kubernetes.OfSecrets path := Kubernetes.ofSecrets_of_sendable sendable
    have replied : Abreast r.likeness (fun x y => SameOutcome r.GivenAlike
        (Kubernetes.ofReply Secret.decode x) (Kubernetes.ofReply Secret.decode y))
        (Work.kube ⟨path, patch⟩) (Work.kube ⟨path, patch⟩) :=
      .ask rfl fun x y replies => .done (givenAlike_of_replies secrets replies)
    exact Abreast.bind replied fun x y same => .done same
  case h_2 => exact .done (.error _)

/-- The source secret of a record is read alike. -/
theorem readSecret_abreast {ns name : String} :
    Abreast r.likeness (SameOutcome (Option.Rel r.GivenAlike))
      (Kubernetes.read (Secret.collection ns) name).result
      (Kubernetes.read (Secret.collection ns) name).result := by
  refine Kubernetes.call_compares (K := r.likeness.comparison) ?_ (r.patience_abreast _)
  unfold Kubernetes.readOnce
  split
  · exact .done (.error _)
  · rw [String.append_assoc]
    refine Abreast.bind sendSecret_abreast fun x y same => ?_
    cases same with
    | ok related => exact .done (.ok (.some related))
    | error e =>
        cases e with
        | api code message reason =>
            dsimp only
            split
            · exact .done (.ok .none)
            · exact .done (.error _)
        | _ => exact .done (.error _)

/-- The values that two runs take from the source secret have fingerprints that are compared
alike. -/
theorem readSource_abreast :
    Abreast r.likeness
      (SameOutcome fun x y => Indistinct r.currentStatus.sourceFingerprint
        (x.map SourceValue.fingerprint) (y.map SourceValue.fingerprint))
      r.readSource.result r.readSource.result := by
  unfold readSource
  split
  case h_1 => exact .done (.ok (.same none))
  case h_2 source declared =>
    refine Action.bind_abreast readSecret_abreast ?_
    intro found found' given
    cases given with
    | none => exact .done (.error _)
    | some given =>
        refine Action.bind_abreast (.done (given source declared)) ?_
        exact fun v w indistinct => .done (.ok indistinct)

end Record

/-! ## The calls of a pass -/

namespace ServiceUserSpec

open ControlPlane

variable {base : Url} {r : Record} {s : ServiceUserSpec}

theorem fetch_abreast {α : Type} {c : ControlPlane.Call} {d : Json.Decoder α} :
    Abreast r.likeness (SameOutcome Eq) (fetch base c d).result (fetch base c d).result :=
  Action.Asks.abreast (fetch_asks Record.exact_http Record.permitsRecords_exact.count
    Record.permitsRecords_exact.patience)

theorem perform_abreast {c : ControlPlane.Call} :
    Abreast r.likeness (SameOutcome Eq) (perform base c).result (perform base c).result :=
  Action.Asks.abreast (perform_asks Record.exact_http Record.permitsRecords_exact.count
    Record.permitsRecords_exact.patience)

/-- The requests that give a user one password or another are alike, and so are their answers. -/
theorem resetCall_abreast {username v w : String} :
    Abreast r.likeness (SameOutcome Eq) (perform base (s.resetCall username v)).result
      (perform base (s.resetCall username w)).result := by
  have requested : Abreast r.likeness Eq (Work.http ((s.resetCall username v).request base))
      (Work.http ((s.resetCall username w).request base)) :=
    .ask rfl fun x y answered => .done answered
  refine Abreast.mono (perform_compares (K := r.likeness.comparison) requested r.count_abreast
    r.patience_abreast rfl rfl) ?_
  rintro x _ rfl
  exact .refl (fun _ => rfl) x

/-- Whatever the password, it is sent alike. -/
theorem applyPassword_abreast {username : String} :
    Abreast r.likeness (SameOutcome Eq) (s.applyPassword base r username).result
      (s.applyPassword base r username).result := by
  refine Action.bind_abreast Record.readSource_abreast ?_
  intro x y indistinct
  cases x with
  | none =>
      cases y with
      | none => exact .done (.ok rfl)
      | some w => cases indistinct
  | some v =>
      cases y with
      | none => cases indistinct
      | some w => exact resetCall_abreast

/-- The calls of a pass for a user are carried out alike. -/
theorem answer_abreast (c : ServiceOperator.Call UserDocument) :
    Abreast r.likeness (Calls.AnsweredAlike r.currentStatus.sourceFingerprint c c)
      ((s.adapter base r).answer c) ((s.adapter base r).answer c) := by
  have same {c : ServiceOperator.Call UserDocument}
      (abreast : Abreast r.likeness (SameOutcome Eq) ((s.adapter base r).answer c)
        ((s.adapter base r).answer c)) :
      Abreast r.likeness (Calls.AnsweredAlike r.currentStatus.sourceFingerprint c c)
        ((s.adapter base r).answer c) ((s.adapter base r).answer c) := by
    refine abreast.mono fun x y related => ?_
    obtain rfl := related.eq
    exact .same x
  cases c with
  -- The fingerprint is the one answer that differs.  The value itself is sent, where the two runs
  -- are compared with the value blotted out.
  | sourceFingerprint =>
      refine Abreast.mono (Action.bind_abreast Record.readSource_abreast fun x y indistinct =>
        .done (.ok indistinct)) ?_
      intro x y related
      cases related with
      | ok indistinct => exact .fingerprint indistinct
      | error e => exact .same _
  | checkPreconditions =>
      exact same (Action.Asks.abreast (Record.permitsRecords_exact.ensureDependencies base r))
  | create =>
      refine same (Action.bind_abreast fetch_abreast ?_)
      rintro user _ rfl
      refine Action.bind_abreast applyPassword_abreast ?_
      exact fun _ _ _ => .done (.ok rfl)
  | update id =>
      refine same ?_
      unfold Adapter.answer adapter
      dsimp only
      split
      · refine Action.bind_abreast perform_abreast ?_
        exact fun _ _ _ => applyPassword_abreast
      · exact applyPassword_abreast
  | get id => exact same fetch_abreast
  | delete id => exact same perform_abreast
  | connectionInfo remote =>
      refine same (Action.bind_abreast fetch_abreast ?_)
      rintro service _ rfl
      refine Action.bind_abreast fetch_abreast ?_
      rintro ca _ rfl
      exact .done (.refl (fun _ => rfl) _)

end ServiceUserSpec

/-- **A pass over a record does not mind the value in its source secret.** -/
theorem Record.reconcile_abreast {base : Url} {r : Record} {settings : Settings} {now : Instant} :
    Abreast r.likeness (Outcome.Alike r.currentStatus.sourceFingerprint)
      (r.reconcile base settings now) (r.reconcile base settings now) := by
  obtain ⟨metadata, spec, status⟩ := r
  cases spec with
  | serviceUser s =>
      let r : Record := ⟨metadata, .serviceUser s, status⟩
      let pass := (reconcileOnce ServiceUserSpec.profile r.subject settings now).interpret
        (s.adapter base r).answer
      change Abreast r.likeness _ pass pass
      refine Abreast.interpret (reconcileOnce_abreast _ r.subject settings now) ?_
      rintro c _ rfl
      exact ServiceUserSpec.answer_abreast c
  | _ =>
      refine ((permits_exact rfl).reconcile base _ settings now).abreast.mono ?_
      rintro o _ rfl
      exact .refl o

end ServiceOperator
