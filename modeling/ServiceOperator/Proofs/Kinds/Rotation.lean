import ServiceOperator.Proofs.Kinds.Passwords
import ServiceOperator.Proofs.Pass.Consistency

/-!
# Rotating the password of a user

A pass notes the fingerprint of the source secret beside the user, and a later pass that reads the
same fingerprint leaves the password alone.  What is noted is the value that the pass read before it
did anything, and it is noted only once the update has succeeded; what is sent is the value that the
update reads for itself, and it is sent whether or not the update succeeds in the end.
`RecordPass.Sends` is what a pass sends with what is noted behind it.

The two need not be the same value.  `password_lost_iff` says when a user that is reported to run,
without a failure, has another password than its source secret: exactly if the last pass that sent
one left another value noted.  That happens when an update sends a new value and fails, and the
secret then changes back, and it happens when the secret changes between the two reads of a pass,
and then changes back.

### What carries the induction

The invariant of a run is that what is noted in the status is what the last sender left noted
(`Lives.sentLast`).  A pass that sends nothing keeps both sides, and one that sends replaces both,
in a way that depends on whether its update came through (`RecordPass.Sends`); `RecordPass.rotates`
is this step.  The password itself is then out of the picture: a user that runs without a failure
has the fingerprint of what was read noted (`RecordPass.reads_noted`), so its password is another
one exactly if the last sender noted something else than it sent.
-/

namespace ServiceOperator

open Program (Worked)

/-! ## Passes over records -/

/-- A pass over a record, carried out on the peers, with what it asked of them. -/
structure RecordPass (base : Url) where
  record : Record
  settings : Settings
  now : Instant
  asked : Exchange
  outcome : Outcome
  yields : (record.reconcile base settings now).Yields asked outcome

namespace RecordPass

variable {base : Url}

/-- A pass over a record among peers that give to each question the same answer at any time. -/
def against (answer : (q : Question) → q.Answer) (record : Record) (settings : Settings)
    (now : Instant) : RecordPass base where
  record := record
  settings := settings
  now := now
  asked := (record.reconcile base settings now).trace (fun q (_ : Unit) => (answer q, ())) ()
  outcome := ((record.reconcile base settings now).run (fun q (_ : Unit) => (answer q, ())) ()).1
  yields := Program.yields_run _ _ _

/-- The value that a pass reads first in the source secret of its record. -/
def Reads (pass : RecordPass base) (value : String) : Prop :=
  ∃ read rest found, pass.asked = read ++ rest ∧
    pass.record.readSource.Yields read (.ok (some found)) ∧ found.value = value

end RecordPass

/-- A user whose password is taken from a secret: where it belongs, and the id of the record that
declares it, which salts the fingerprints. -/
structure SourcedUser where
  project : String
  service : String
  uid : String

namespace SourcedUser

/-- The target of the requests for the user, by the id that it has. -/
def target (base : Url) (user : SourcedUser) (id : String) : String :=
  base.target (ControlPlane.userPath user.project user.service id)

/-- A record declares the user, and has a source secret for it.  All else may change: what the
record declares besides, which secret it names, and what that holds. -/
structure Declared (user : SourcedUser) (r : Record) : Prop where
  spec : ∃ s, r.spec = .serviceUser s ∧ s.project = user.project ∧ s.serviceName = user.service
  sourced : r.secretSource?.isSome = true
  uid : r.metadata.uid.getD "" = user.uid

/-- Passes over records that declare the user, each from the status that the one before it left
behind and the first from no status, with the status that the last one leaves behind. -/
inductive Lives (base : Url) (user : SourcedUser) : List (RecordPass base) → ResourceStatus → Prop
  | nil : Lives base user [] .initial
  | snoc {run : List (RecordPass base)} {pass : RecordPass base}
      (earlier : Lives base user run pass.record.currentStatus)
      (declared : user.Declared pass.record) :
      Lives base user (run ++ [pass]) pass.outcome.status

end SourcedUser

/-! ## What a pass sends, and what it notes -/

namespace RecordPass

variable {base : Url} {user : SourcedUser} {pass : RecordPass base}

/-- A pass sent a password to a user with an id, and has this noted behind it as the fingerprint of
the source secret. -/
inductive Sends (pass : RecordPass base) (user : SourcedUser) (id password : String) :
    Option String → Prop
  /-- The update failed after the password was sent.  What was noted before is still noted. -/
  | refused {before sent : Exchange} {e : OperatorError} (asked : pass.asked = before ++ sent)
      (update : ((pass.record.adapter base).update id).Yields sent (.error e))
      (last : lastPassword (user.target base id) sent = some password)
      (found : pass.record.FindsIn sent password) :
      Sends pass user id password pass.record.currentStatus.sourceFingerprint
  /-- The user was created, or updated.  What the pass had read before is noted, and not what was
  sent. -/
  | applied {first : String} {before sent after : Exchange} (reads : pass.Reads first)
      (asked : pass.asked = before ++ (sent ++ after))
      (application : (pass.record.adapter base).create.Yields sent (.ok id) ∨
        ((pass.record.adapter base).update id).Yields sent (.ok ()))
      (last : lastPassword (user.target base id) sent = some password)
      (found : pass.record.FindsIn sent password) (nothing : ResetsNothing after) :
      Sends pass user id password (some (fingerprint user.uid first))

/-- What a pass sends is the last password of its exchange. -/
theorem Sends.lastPassword {id password : String} {noted : Option String}
    (sends : pass.Sends user id password noted) :
    lastPassword (user.target base id) pass.asked = some password := by
  cases sends with
  | refused asked update last =>
      rw [asked, lastPassword_append, last]
      rfl
  | applied reads asked application last found nothing =>
      rw [asked]
      exact lastPassword_of_append last nothing

/-- What becomes of the password of a user in a pass, and of what is noted of it. -/
inductive Rotates (pass : RecordPass base) (user : SourcedUser) : Prop
  | kept (nothing : ResetsNothing pass.asked)
      (id : pass.outcome.status.id = pass.record.currentStatus.id)
      (noted : pass.outcome.status.sourceFingerprint = pass.record.currentStatus.sourceFingerprint)
  /-- The user is not known, or not any more. -/
  | unknown (unknown : pass.outcome.status.id = none)
  | sent {id password : String} (known : pass.outcome.status.id = some id)
      (sends : pass.Sends user id password pass.outcome.status.sourceFingerprint)

end RecordPass

namespace ServiceUserSpec

variable {base : Url} {r : Record} {s : ServiceUserSpec} {t : Exchange}

/-- Nothing is remade, and nothing drifts, of a user. -/
theorem profile_plain : profile.Plain := ⟨rfl, rfl, fun _ => rfl⟩

/-- Calls that apply nothing reset nothing. -/
theorem worked_resetsNothing {calls : List (Calls.Entry UserDocument)}
    (worked : Worked (s.adapter base r).answer calls t) (nothing : AppliesNothing calls) :
    ResetsNothing t := by
  induction worked with
  | nil => simp [ResetsNothing]
  | cons head tail ih =>
      obtain ⟨rests, nothing⟩ := List.forall_mem_cons.mp nothing
      have quiet : Program.Asks (fun q => q.resets = false) ((s.adapter base r).answer _) :=
        answer_asks_noReset rests
      exact ResetsNothing.append (quiet.of_mem head) (ih nothing)

/-- The source secret of a user, as a pass asks for its fingerprint. -/
theorem fingerprint_reads {found : Option String} (sourced : r.secretSource?.isSome = true)
    (yields : ((s.adapter base r).answer .sourceFingerprint).Yields t (.ok found)) :
    ∃ value, r.readSource.Yields t (.ok (some value)) ∧
      found = some (fingerprint (r.metadata.uid.getD "") value.value) := by
  obtain ⟨result, reads, same⟩ := Action.yields_map.mp yields
  cases result with
  | error e => cases same
  | ok read =>
      obtain ⟨value, rfl, fingerprinted⟩ := Record.readSource_some sourced reads
      cases same
      exact ⟨value, reads, congrArg some fingerprinted⟩

/-- A call that applies a record to its user sends a password. -/
theorem applied_sends {entry : Calls.Entry UserDocument} {id : String}
    (sourced : r.secretSource?.isSome = true) (applied : entry.AppliedTo id)
    (yields : ((s.adapter base r).answer entry.1).Yields t entry.2) :
    ((s.adapter base r).create.Yields t (.ok id) ∨
        ((s.adapter base r).update id).Yields t (.ok ())) ∧
      ∃ password, lastPassword (s.target base id) t = some password ∧ r.FindsIn t password := by
  cases applied with
  | created => exact ⟨.inl yields, create_sends sourced yields⟩
  | updated =>
      refine ⟨.inr yields, ?_⟩
      rcases update_sends sourced yields with ⟨⟨e, failed⟩, -⟩ | sends
      · cases failed
      · exact sends

end ServiceUserSpec

namespace RecordPass

variable {base : Url} {user : SourcedUser} {pass : RecordPass base}

/-- The calls of a pass over a record of the user, each carried out by the adapter of users. -/
structure UserCalls (pass : RecordPass base) (user : SourcedUser) (s : ServiceUserSpec)
    (inner : CompletedPass UserDocument) : Prop where
  plain : inner.profile.Plain
  status : inner.subject.status = pass.record.currentStatus
  outcome : inner.outcome = pass.outcome
  worked : Worked (s.adapter base pass.record).answer inner.asked pass.asked
  create : (s.adapter base pass.record).create = (pass.record.adapter base).create
  update : (s.adapter base pass.record).update = (pass.record.adapter base).update
  target : ∀ id, s.target base id = user.target base id

/-- A pass over a record of the user makes the calls of a user. -/
theorem userCalls (pass : RecordPass base) (declared : user.Declared pass.record) :
    ∃ s inner, pass.UserCalls user s inner := by
  obtain ⟨⟨s, isUser, sameProject, sameService⟩, -, -⟩ := declared
  obtain ⟨⟨metadata, spec, status⟩, settings, now, asked, outcome, yields⟩ := pass
  cases isUser
  obtain ⟨calls, inner, worked⟩ := Program.yields_interpret.mp yields
  refine ⟨s, ⟨_, _, _, _, _, _, inner⟩, ?_⟩
  refine ⟨ServiceUserSpec.profile_plain, rfl, rfl, worked, rfl, rfl, ?_⟩
  intro id
  rw [ServiceUserSpec.target, SourcedUser.target, sameProject, sameService]

/-- **The step law of a rotation.**  A pass over a record of the user keeps the password and what is
noted of it, or has lost sight of the user, or sends a password. -/
theorem rotates (pass : RecordPass base) (declared : user.Declared pass.record)
    (paired : pass.record.currentStatus.Paired) : pass.Rotates user := by
  obtain ⟨s, inner, calls⟩ := pass.userCalls declared
  have sourced := declared.sourced
  have worked := calls.worked
  have application := inner.application calls.plain (calls.status ▸ paired)
  rw [calls.status, calls.outcome] at application
  -- Reading the source secret has sent nothing.  What may send a password is the call that applies
  -- the record, if there is one.
  rcases application with ⟨nothing, id, noted⟩ | ⟨fingerprint, rest, asked, application⟩
  · exact .kept (ServiceUserSpec.worked_resetsNothing worked nothing) id noted
  rw [asked] at worked
  obtain ⟨read, exchange, split, answered, afterRead⟩ := Program.worked_cons.mp worked
  obtain ⟨first, reads, rfl⟩ := ServiceUserSpec.fingerprint_reads sourced answered
  have readsFirst : pass.Reads first.value := ⟨read, exchange, first, split, reads, rfl⟩
  have readNothing : ResetsNothing read :=
    (permitsReading_noReset.readSource pass.record).of_mem reads
  cases application with
  | rested nothing id noted =>
      have nothingLater := ServiceUserSpec.worked_resetsNothing afterRead nothing
      refine .kept ?_ id noted
      rw [split]
      exact readNothing.append nothingLater
  | unknown unknown => exact .unknown unknown
  | @refused id e known asked sameId noted =>
      rw [asked] at afterRead
      obtain ⟨check, exchange, rfl, checked, afterCheck⟩ := Program.worked_cons.mp afterRead
      obtain ⟨sent, exchange, rfl, updated, nothingAsked⟩ := Program.worked_cons.mp afterCheck
      obtain rfl := Program.worked_nil.mp nothingAsked
      have checkNothing : ResetsNothing check :=
        (permitsReading_noReset.ensureDependencies base pass.record).of_mem checked
      rw [List.append_nil] at split
      -- An update that fails may have sent the password before.
      rcases ServiceUserSpec.update_sends sourced updated with ⟨-, nothing⟩ |
          ⟨password, last, found⟩
      · refine .kept ?_ sameId noted
        rw [split]
        exact readNothing.append (checkNothing.append nothing)
      · rw [← List.append_assoc] at split
        rw [calls.target] at last
        have update : ((pass.record.adapter base).update id).Yields sent (.error e) :=
          calls.update ▸ updated
        have sends : pass.Sends user id password pass.outcome.status.sourceFingerprint := by
          rw [noted]
          exact .refused split update last found
        exact .sent (sameId.trans known) sends
  | @applied id before after entry asked applied nothing known noted =>
      rw [asked] at afterRead
      obtain ⟨earlier, exchange, rfl, -, afterEarlier⟩ := Program.worked_append.mp afterRead
      obtain ⟨sent, later, rfl, done, afterSent⟩ := Program.worked_cons.mp afterEarlier
      have nothingLater := ServiceUserSpec.worked_resetsNothing afterSent nothing
      obtain ⟨application, password, last, found⟩ :=
        ServiceUserSpec.applied_sends sourced applied done
      rw [← List.append_assoc] at split
      rw [calls.target] at last
      rw [calls.create, calls.update] at application
      have sends : pass.Sends user id password pass.outcome.status.sourceFingerprint := by
        rw [noted, declared.uid]
        exact .applied readsFirst split application last found nothingLater
      exact .sent known sends

/-- A pass that ends with the user running, and without a failure, has read the value whose
fingerprint is noted. -/
theorem reads_noted (pass : RecordPass base) (declared : user.Declared pass.record)
    (consistent : pass.record.currentStatus.Consistent)
    (running : pass.outcome.status.isRunning = true)
    (unfailing : pass.outcome.status.isFailing = false) :
    ∃ id value, pass.outcome.status.id = some id ∧ pass.Reads value ∧
      pass.outcome.status.sourceFingerprint = some (fingerprint user.uid value) := by
  obtain ⟨s, inner, calls⟩ := pass.userCalls declared
  rw [← calls.status] at consistent
  rw [← calls.outcome] at running unfailing ⊢
  obtain ⟨fingerprint, rest, state, asked, settled, resourced⟩ :=
    settled_of_connectionInfo inner.yields (inner.connected consistent running unfailing)
  have worked := calls.worked
  rw [asked] at worked
  obtain ⟨read, exchange, split, answered, -⟩ := Program.worked_cons.mp worked
  obtain ⟨first, reads, rfl⟩ := ServiceUserSpec.fingerprint_reads declared.sourced answered
  obtain ⟨id, known⟩ := Option.isSome_iff_exists.mp settled.known
  refine ⟨id, first.value, known, ⟨read, exchange, first, split, reads, rfl⟩, ?_⟩
  rw [← resourced rfl, declared.uid]

end RecordPass

/-! ## The last password that was sent -/

namespace SourcedUser

variable {base : Url} {user : SourcedUser} {run : List (RecordPass base)} {pass : RecordPass base}
  {s : ResourceStatus} {id password : String} {noted : Option String}

/-- A run of passes ends with a pass over a record of the user, from the status that was left
before. -/
theorem lives_snoc :
    user.Lives base (run ++ [pass]) s ↔
      user.Lives base run pass.record.currentStatus ∧ user.Declared pass.record ∧
        s = pass.outcome.status := by
  constructor
  · intro lives
    generalize split : run ++ [pass] = whole at lives
    cases lives with
    | nil => simp at split
    | snoc earlier declared =>
        obtain ⟨rfl, rfl⟩ := List.append_singleton_inj.mp split
        exact ⟨earlier, declared, rfl⟩
  · rintro ⟨earlier, declared, rfl⟩
    exact .snoc earlier declared

/-- The status at the end of a run is consistent. -/
theorem Lives.consistent (lives : user.Lives base run s) : s.Consistent := by
  induction lives with
  | nil => exact ResourceStatus.consistent_initial
  | @snoc run pass earlier declared ih =>
      obtain ⟨s, inner, calls⟩ := pass.userCalls declared
      rw [← calls.outcome]
      rw [← calls.status] at ih
      exact inner.consistent ih

/-- The last pass of a run that reset any credentials sent a password to the user with an id, and
had this noted behind it. -/
def SentLast (user : SourcedUser) (run : List (RecordPass base)) (id password : String)
    (noted : Option String) : Prop :=
  ∃ earlier sender later, run = earlier ++ sender :: later ∧
    (∀ pass ∈ later, ResetsNothing pass.asked) ∧ sender.Sends user id password noted

/-- A pass that resets nothing leaves the last sender as it is. -/
theorem SentLast.snoc (sentLast : user.SentLast run id password noted)
    (nothing : ResetsNothing pass.asked) : user.SentLast (run ++ [pass]) id password noted := by
  obtain ⟨earlier, sender, later, rfl, nothingLater, sends⟩ := sentLast
  refine ⟨earlier, sender, later ++ [pass], by simp, ?_, sends⟩
  rw [List.forall_mem_append]
  exact ⟨nothingLater, by simpa using nothing⟩

/-- What the last sender sent is the last password of the whole run. -/
theorem SentLast.lastPassword (sentLast : user.SentLast run id password noted) :
    lastPassword (user.target base id) (run.flatMap RecordPass.asked) = some password := by
  obtain ⟨earlier, sender, later, rfl, nothingLater, sends⟩ := sentLast
  have nothing : ResetsNothing (later.flatMap RecordPass.asked) := by
    intro entry member
    obtain ⟨pass, isLater, asked⟩ := List.mem_flatMap.mp member
    exact nothingLater pass isLater entry asked
  rw [List.flatMap_append, List.flatMap_cons]
  exact lastPassword_of_append sends.lastPassword nothing

/-- **What is noted of the password is what the last sender left.**  As long as a status names the
user, some pass has sent a password to it, and none has reset anything since; and what is noted is
what that pass had noted behind it. -/
theorem Lives.sentLast (lives : user.Lives base run s) (known : s.id = some id) :
    ∃ password, user.SentLast run id password s.sourceFingerprint := by
  -- The induction follows the run, and `RecordPass.rotates` is what its last pass adds.
  induction lives with
  | nil => cases known
  | @snoc run pass earlier declared ih =>
      cases pass.rotates declared earlier.consistent.paired with
      | kept nothing sameId noted =>
          obtain ⟨password, sentLast⟩ := ih (sameId.symm.trans known)
          rw [noted]
          exact ⟨password, sentLast.snoc nothing⟩
      | unknown unknown => cases unknown.symm.trans known
      | @sent other password knownToo sends =>
          cases knownToo.symm.trans known
          exact ⟨password, run, pass, [], rfl, by simp, sends⟩

/-- **When a rotation is lost.**  Consider passes over records of a user with a source secret, from
no status on, whatever the secret holds at each of its reads and whatever the peers answer.  Let the
last of them end with the user running and without a failure, and let it reset no credentials.

Then it has read a value, and some pass before it was the last to reset credentials: it sent a
password to the user, which is the last password that the user was sent.  The password is another
one than the value, by its fingerprint, if and only if that pass left something else noted than what
it sent: what was noted before it, because its update failed behind the request, or what it had read
before the secret changed. -/
theorem password_lost_iff {last : RecordPass base} (lives : user.Lives base (run ++ [last]) s)
    (running : last.outcome.status.isRunning = true)
    (unfailing : last.outcome.status.isFailing = false) (nothing : ResetsNothing last.asked) :
    ∃ id value password noted, last.outcome.status.id = some id ∧ last.Reads value ∧
      lastPassword (user.target base id) ((run ++ [last]).flatMap RecordPass.asked) =
        some password ∧
      user.SentLast run id password noted ∧
      (fingerprint user.uid password ≠ fingerprint user.uid value ↔
        noted ≠ some (fingerprint user.uid password)) := by
  obtain ⟨earlier, declared, rfl⟩ := lives_snoc.mp lives
  have consistent := earlier.consistent
  obtain ⟨id, value, known, reads, noted⟩ :=
    last.reads_noted declared consistent running unfailing
  cases last.rotates declared consistent.paired with
  | unknown unknown => cases unknown.symm.trans known
  | sent knownToo sends => exact absurd nothing (not_resetsNothing sends.lastPassword)
  | kept nothing sameId notedStill =>
      obtain ⟨password, sentLast⟩ := earlier.sentLast (sameId.symm.trans known)
      refine ⟨id, value, password, _, known, reads, (sentLast.snoc nothing).lastPassword,
        sentLast, ?_⟩
      rw [← notedStill, noted, Ne, Ne, Option.some.injEq, eq_comm]

end SourcedUser

/-! ## A secret that changes back -/

namespace Reverted

/-- The base URL of the control plane. -/
def base : Url := ⟨"http", some [""], "", none, none⟩

/-- The user. -/
def user : SourcedUser := ⟨"p", "s", "1"⟩

/-- A record of the user, with a status. -/
def record (status : Option ResourceStatus) : Record where
  metadata := { Metadata.empty with name := some "u", namespaceName := some "ns", uid := some "1" }
  spec := .serviceUser ⟨"p", "s", none, none, none, some ⟨"src", none, "k"⟩⟩
  status := status

/-- The user, as the control plane shows it. -/
def shownUser : String := "\x7b\"user\":\x7b\"username\":\"u\",\"password\":\"x\"\x7d\x7d"

/-- The service of the user, as the control plane shows it. -/
def shownService : String :=
  "\x7b\"service\":\x7b\"service_name\":\"s\"," ++
    "\"service_uri_params\":\x7b\"host\":\"h\",\"port\":\"1\"\x7d\x7d\x7d"

/-- The record of the service, which is declared and runs. -/
def service : String :=
  "\x7b\"metadata\":\x7b\x7d,\"spec\":\x7b\"project\":\"p\",\"plan\":\"x\"\x7d," ++
    "\"status\":\x7b\"conditions\":[\x7b\"type\":\"Running\",\"status\":\"True\"\x7d]\x7d\x7d"

/-- The source secret when it holds a value. -/
def secret (value : String) : String :=
  "\x7b\"metadata\":\x7b\x7d,\"stringData\":\x7b\"k\":\"" ++ value ++ "\"\x7d\x7d"

/-- Peers of which one has the secret with a value, and the other one has the user and gives one
reply to every request that changes it. -/
def answer (value : String) (reply : HttpReply) : (q : Question) → q.Answer
  | .http request =>
    if request.method = .put then reply
    else if request.method = .post ∨ request.target = user.target base "u" then
      .answered 200 shownUser
    else if request.target = base.target (ControlPlane.servicePath "p" "s") then
      .answered 200 shownService
    else .answered 200 "\x7b\"certificate\":\"c\"\x7d"
  | .kube request =>
    if request.path = (Secret.collection "ns").path ++ "/src" then .answered 200 (secret value)
    else .answered 200 service
  | .patience _ => 0
  | .now => ⟨0, 0⟩
  | .acquire _ => ()
  | .release _ => ()
  | .count _ => ()

/-- A pass among those peers, from a status at a second. -/
def pass (value : String) (reply : HttpReply) (status : Option ResourceStatus) (second : Int) :
    RecordPass base :=
  .against (answer value reply) (record status) .standard ⟨second, 0⟩

/-- The pass that creates the user. -/
def first : RecordPass base := pass "old" (.answered 200 "") none 0

/-- The secret has changed.  The control plane takes the new password, and answers with an error. -/
def second : RecordPass base := pass "new" (.answered 503 "") (some first.outcome.status) 300

/-- The secret has changed back. -/
def third : RecordPass base := pass "old" (.answered 200 "") (some second.outcome.status) 315

/-- What is seen of the three passes, all at once. -/
theorem seen :
    third.outcome.status.isRunning = true ∧ third.outcome.status.isFailing = false ∧
      third.outcome.status.id = some "u" ∧
      (third.asked.all fun entry => !entry.1.resets) = true ∧
      lastPassword (user.target base "u") second.asked = some "new" := by
  decide +kernel

theorem nothing : ResetsNothing third.asked := by
  intro entry member
  obtain ⟨-, -, -, quiet, -⟩ := seen
  simpa using List.all_eq_true.mp quiet entry member

/-- The last password that was sent is the new one. -/
theorem lastPassword_new :
    lastPassword (user.target base "u") ([first, second, third].flatMap RecordPass.asked) =
      some "new" := by
  obtain ⟨-, -, -, -, last⟩ := seen
  have whole : [first, second, third].flatMap RecordPass.asked =
      first.asked ++ (second.asked ++ third.asked) := by simp
  rw [whole]
  exact lastPassword_of_append last nothing

/-- The record declares the user, whatever its status is. -/
theorem declared (status : Option ResourceStatus) : user.Declared (record status) where
  spec := ⟨_, rfl, rfl, rfl⟩
  sourced := rfl
  uid := rfl

theorem lives_pass {run : List (RecordPass base)} {status : ResourceStatus} {value : String}
    {reply : HttpReply} {second : Int} (lives : user.Lives base run status) :
    user.Lives base (run ++ [pass value reply (some status) second])
      (pass value reply (some status) second).outcome.status :=
  .snoc lives (declared _)

theorem lives : user.Lives base ([first, second] ++ [third]) third.outcome.status := by
  have one : user.Lives base ([] ++ [first]) first.outcome.status := .snoc .nil (declared none)
  have two : user.Lives base [first, second] second.outcome.status := lives_pass one
  exact lives_pass two

/-- What is to be read in the secret, whoever reads it. -/
def readable (value : String) (reply : HttpReply) : Except OperatorError (Option SourceValue) :=
  ((record none).readSource.result.run (fun q (_ : Unit) => (answer value reply q, ())) ()).1

/-- What a pass reads first is what is to be read in the secret. -/
theorem readable_of_reads {value found : String} {reply : HttpReply}
    {status : Option ResourceStatus} {second : Int}
    (reads : (pass value reply status second).Reads found) :
    ∃ source, readable value reply = .ok (some source) ∧ source.value = found := by
  obtain ⟨read, rest, source, split, readsSource, same⟩ := reads
  have answered : ∀ entry ∈ read, entry.2 = answer value reply entry.1 := by
    intro entry member
    have asked : entry ∈ (pass value reply status second).asked := by
      rw [split]
      exact List.mem_append_left _ member
    exact Program.answer_of_mem_trace asked
  -- Neither the status nor the time of the record has a part in what it reads.
  have sameRead : (record status).readSource = (record none).readSource := rfl
  change (record status).readSource.Yields read (.ok (some source)) at readsSource
  rw [sameRead] at readsSource
  exact ⟨source, (readsSource.result_of_answered answered).symm, same⟩

/-- The third pass reads the old value. -/
theorem reads_old {value : String} (reads : third.Reads value) : value = "old" := by
  obtain ⟨source, same, rfl⟩ := readable_of_reads reads
  have old : ((readable "old" (.answered 200 "")).map
      (Option.map SourceValue.value)).toOption = some (some "old") := by
    decide +kernel
  rw [same] at old
  exact Option.some.inj (Option.some.inj old)

end Reverted

/-- The control plane took the new password and answered with an error; the secret changed back, and
the user is left with the new password. -/
theorem password_lost_iff_reverted :
    Reverted.third.outcome.status.isRunning = true ∧
      Reverted.third.outcome.status.isFailing = false ∧ ResetsNothing Reverted.third.asked ∧
      Reverted.third.Reads "old" ∧
      ∃ noted, Reverted.user.SentLast [Reverted.first, Reverted.second] "u" "new" noted ∧
        noted ≠ some (fingerprint "1" "new") := by
  obtain ⟨running, unfailing, known, -, -⟩ := Reverted.seen
  obtain ⟨id, value, password, noted, knownToo, reads, last, sentLast, lost⟩ :=
    SourcedUser.password_lost_iff Reverted.lives running unfailing Reverted.nothing
  cases known.symm.trans knownToo
  cases Reverted.lastPassword_new.symm.trans last
  cases Reverted.reads_old reads
  have differs : fingerprint "1" "new" ≠ fingerprint "1" "old" := by decide +kernel
  exact ⟨running, unfailing, Reverted.nothing, reads, noted, sentLast, lost.mp differs⟩

/-- It is not so that a user that runs, without a failure, has the password that was read last, even
where the last pass reset no credentials. -/
theorem not_password_of_source :
    ¬ ∀ (base : Url) (user : SourcedUser) (run : List (RecordPass base)) (last : RecordPass base)
      (id value password : String), user.Lives base (run ++ [last]) last.outcome.status →
      last.outcome.status.isRunning = true → last.outcome.status.isFailing = false →
      ResetsNothing last.asked → last.outcome.status.id = some id → last.Reads value →
      lastPassword (user.target base id) ((run ++ [last]).flatMap RecordPass.asked) =
        some password → password = value := by
  intro kept
  obtain ⟨running, unfailing, known, -, -⟩ := Reverted.seen
  obtain ⟨earlier, declared, -⟩ := SourcedUser.lives_snoc.mp Reverted.lives
  obtain ⟨id, value, -, reads, -⟩ :=
    Reverted.third.reads_noted declared earlier.consistent running unfailing
  have same := kept Reverted.base Reverted.user [Reverted.first, Reverted.second] Reverted.third
    "u" value "new" Reverted.lives running unfailing Reverted.nothing known reads
    Reverted.lastPassword_new
  rw [Reverted.reads_old reads] at same
  exact absurd same (by decide)

end ServiceOperator
