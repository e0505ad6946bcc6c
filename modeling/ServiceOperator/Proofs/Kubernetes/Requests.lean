import ServiceOperator.Kubernetes.Records
import ServiceOperator.Proofs.ControlPlane.Calls
import ServiceOperator.Proofs.Program.InStep

/-!
# What is asked of the peers

`Permits` is what a frame has to allow so that everything that is done for a resource stays inside
it: requests to the control plane, requests to Kubernetes that only read, patience and counting.
Calls, reads and lists stay inside every such frame.  A patch does not, and `patch_asks` says that
its requests are all it asks besides.  `PermitsReading` is what it has to allow for looking things
up: the same, with no request to the control plane but for a document.  `PermitsRecords` leaves out
what lies not under the records of a cluster, and `PermitsGetting` leaves out Kubernetes.

Records and secrets lie apart: a request for the one never goes to a path of the other
(`Kubernetes.OfRecords.not_ofSecrets`), whatever texts its address is made from.

A call to Kubernetes comes to what one of its attempts came to (`Kubernetes.call_reports`), and a
read of an object makes of an answer what `Kubernetes.ReadAs` says.
-/

namespace ServiceOperator

/-- A frame allows to talk to the control plane and to read from Kubernetes. -/
structure Permits (P : Question → Prop) : Prop where
  http : ∀ request, P (.http request)
  read : ∀ path, P (.kube ⟨path, none⟩)
  patience : ∀ peer, P (.patience peer)
  count : ∀ event, P (.count event)

/-- A frame allows to read from the control plane. -/
structure PermitsGetting (P : Question → Prop) : Prop where
  get : ∀ target, P (.http ⟨.get, target, none⟩)
  patience : ∀ peer, P (.patience peer)
  count : ∀ event, P (.count event)

/-- A frame allows to read from both peers. -/
structure PermitsReading (P : Question → Prop) : Prop extends PermitsGetting P where
  read : ∀ path, P (.kube ⟨path, none⟩)

namespace Kubernetes

/-- A path under the records of a cluster. -/
def OfRecords (path : String) : Prop := "/apis/".toList <+: path.toList

/-- A path under the secrets of a cluster, or its other plain objects. -/
def OfSecrets (path : String) : Prop := "/api/v1/".toList <+: path.toList

theorem OfRecords.not_ofSecrets {path : String} (records : OfRecords path) : ¬ OfSecrets path := by
  intro secrets
  have apart : ¬ "/apis/".toList <+: "/api/v1/".toList := by decide +kernel
  exact apart (List.prefix_of_prefix_length_le records secrets (by decide +kernel))

end Kubernetes

/-- A frame allows to read from the control plane, and records from Kubernetes. -/
structure PermitsRecords (P : Question → Prop) : Prop extends PermitsGetting P where
  record : ∀ path, Kubernetes.OfRecords path → P (.kube ⟨path, none⟩)

theorem PermitsReading.records {P : Question → Prop} (permits : PermitsReading P) :
    PermitsRecords P where
  toPermitsGetting := permits.toPermitsGetting
  record path _ := permits.read path

/-- Who may talk to the control plane and read from Kubernetes may read from both. -/
theorem Permits.reading {P : Question → Prop} (permits : Permits P) : PermitsReading P where
  get _ := permits.http _
  read := permits.read
  patience := permits.patience
  count := permits.count

variable {α : Type} {P : Question → Prop}

namespace Kubernetes

/-- What an address begins with, the path begins with that a request is sent to. -/
theorem prefix_of_sendable {start : List Char} {address path : String}
    (plain : ∀ c ∈ start, c ≠ '#' ∧ c ≠ '?') (starts : start <+: address.toList)
    (sendable : sendablePath? address = some path) : start <+: path.toList := by
  obtain ⟨rest, split⟩ := starts
  unfold sendablePath? at sendable
  dsimp only at sendable
  split at sendable
  case isTrue =>
    cases sendable
    rw [String.toList_ofList, ← split,
      List.takeWhile_append_of_pos fun c listed => by simpa using (plain c listed).1,
      List.takeWhile_append_of_pos fun c listed => by simpa using (plain c listed).2]
    exact List.prefix_append _ _
  case isFalse => cases sendable

/-- Whatever follows the address of records, the request goes to a path under the records. -/
theorem ofRecords_of_sendable {k : Kind} {ns rest path : String}
    (sendable : sendablePath? ((k.collection ns).path ++ rest) = some path) : OfRecords path := by
  have plain : ∀ c ∈ "/apis/".toList, c ≠ '#' ∧ c ≠ '?' := by simp
  refine prefix_of_sendable plain ?_ sendable
  simp only [Kind.collection, String.toList_append, List.append_assoc]
  exact List.prefix_append _ _

/-- Whatever follows the address of secrets, the request goes to a path under the secrets. -/
theorem ofSecrets_of_sendable {ns rest path : String}
    (sendable : sendablePath? ((Secret.collection ns).path ++ rest) = some path) :
    OfSecrets path := by
  have plain : ∀ c ∈ "/api/v1/".toList, c ≠ '#' ∧ c ≠ '?' := by simp
  refine prefix_of_sendable plain ?_ sendable
  have start : "/api/v1/namespaces/".toList = "/api/v1/".toList ++ "namespaces/".toList := by
    decide +kernel
  change _ <+: ("/api/v1/namespaces/" ++ ns ++ "/secrets" ++ rest).toList
  simp only [String.toList_append, start, List.append_assoc]
  exact List.prefix_append _ _

/-- A request asks for itself only, and only if its address can be sent. -/
theorem sendTo_asks {address : String} {patch : Option KubePatch} {d : Json.Decoder α}
    (request : ∀ path, sendablePath? address = some path → P (.kube ⟨path, patch⟩)) :
    Program.Asks P (sendTo address patch d) := by
  unfold sendTo
  split
  case h_1 path sendable => exact .ask (request path sendable) fun _ => .done _
  case h_2 => exact .done _

/-- Further attempts ask what the first one asks. -/
theorem retry_asks {once : Work (Except KubeError α)} (asks : Program.Asks P once) (left : Nat)
    (e : KubeError) : Program.Asks P (retry once left e) := by
  induction left generalizing e with
  | zero => exact .done _
  | succ left ih =>
      refine Program.Asks.bind asks fun result => ?_
      cases result with
      | ok a => exact .done _
      | error e =>
          dsimp only
          split
          · exact ih e
          · exact .done _

/-- A call asks what its attempts ask, and for patience. -/
theorem call_asks {once : Work (Except KubeError α)} (asks : Program.Asks P once)
    (patience : P (.patience .kubernetes)) : (call once).Asks P := by
  refine Program.Asks.bind (Program.Asks.bind asks fun result => ?_) fun result => ?_
  · cases result with
    | ok a => exact .done _
    | error e =>
        dsimp only
        split
        · exact .ask patience fun left => retry_asks asks left e
        · exact .done _
  · cases result <;> exact .done _

section Compared

variable {β : Type} {K : Program.Comparison Question.Answer} {R : α → β → Prop}
  {once : Work (Except KubeError α)} {once' : Work (Except KubeError β)}

/-- Further attempts compare as the first ones do. -/
theorem retry_compares (attempt : K.Holds (SameOutcome R) once once') (left : Nat)
    (e : KubeError) : K.Holds (SameOutcome R) (retry once left e) (retry once' left e) := by
  induction left generalizing e with
  | zero => exact K.done (.error e)
  | succ left ih =>
      refine K.bind attempt ?_
      intro x y same
      cases same with
      | ok related => exact K.done (.ok related)
      | error e =>
          dsimp only
          split
          · exact ih e
          · exact K.done (.error e)

/-- Two calls compare as their attempts do. -/
theorem call_compares (attempt : K.Holds (SameOutcome R) once once')
    (patience : K.Holds Eq (Work.patience .kubernetes) (Work.patience .kubernetes)) :
    K.Holds (SameOutcome R) (call once).result (call once').result := by
  have persists : K.Holds (SameOutcome R) (persist once) (persist once') := by
    refine K.bind attempt ?_
    intro x y same
    cases same with
    | ok related => exact K.done (.ok related)
    | error e =>
        dsimp only
        split
        · exact K.bind_same patience fun left => retry_compares attempt left e
        · exact K.done (.error e)
  refine K.bind persists ?_
  intro x y same
  cases same with
  | ok related => exact K.done (.ok related)
  | error e => exact K.done (.error _)

end Compared

/-- The attempts after the first one come to what one of them came to. -/
theorem retry_reports {once : Work (Except KubeError α)} {left : Nat} {first : KubeError}
    {t : Exchange} {result : Except KubeError α}
    (yields : Program.Yields (retry once left first) t result) :
    (t = [] ∧ result = .error first) ∨
      ∃ before last, t = before ++ last ∧ Program.Yields once last result := by
  -- By induction on the attempts that are left; the last of them is the one that counts.
  induction left generalizing t first with
  | zero => exact .inl (Program.yields_done.mp yields)
  | succ left ih =>
      obtain ⟨attempted, outcome, rest, rfl, attempt, afterAttempt⟩ := Program.yields_bind.mp yields
      refine .inr ?_
      cases outcome with
      | ok a =>
          obtain ⟨rfl, rfl⟩ := Program.yields_done.mp afterAttempt
          exact ⟨[], attempted, by simp, attempt⟩
      | error e =>
          dsimp only at afterAttempt
          split at afterAttempt
          · rcases ih afterAttempt with ⟨rfl, rfl⟩ | ⟨before, last, rfl, later⟩
            · exact ⟨[], attempted, by simp, attempt⟩
            · exact ⟨attempted ++ before, last, by simp, later⟩
          · obtain ⟨rfl, rfl⟩ := Program.yields_done.mp afterAttempt
            exact ⟨[], attempted, by simp, attempt⟩

/-- A call comes to what one of its attempts came to. -/
theorem call_reports {once : Work (Except KubeError α)} {t : Exchange}
    {result : Except OperatorError α} (yields : (call once).Yields t result) :
    ∃ before last after outcome, t = before ++ (last ++ after) ∧
      Program.Yields once last outcome ∧ result = outcome.mapError .kube := by
  obtain ⟨persisting, outcome, rest, rfl, persisted, ending⟩ := Program.yields_bind.mp yields
  have same : rest = [] ∧ result = outcome.mapError .kube := by
    cases outcome <;> exact Program.yields_done.mp ending
  obtain ⟨rfl, rfl⟩ := same
  obtain ⟨attempted, first, rest, rfl, attempt, afterAttempt⟩ := Program.yields_bind.mp persisted
  cases first with
  | ok a =>
      obtain ⟨rfl, rfl⟩ := Program.yields_done.mp afterAttempt
      exact ⟨[], attempted, [], .ok a, by simp, attempt, rfl⟩
  | error e =>
      dsimp only at afterAttempt
      split at afterAttempt
      · obtain ⟨left, later, rfl, retried⟩ := Program.yields_question_bind.mp afterAttempt
        rcases retry_reports retried with ⟨rfl, rfl⟩ | ⟨before, last, rfl, again⟩
        · exact ⟨[], attempted, [⟨.patience .kubernetes, left⟩], .error e, by simp, attempt, rfl⟩
        · refine ⟨attempted ++ ⟨.patience .kubernetes, left⟩ :: before, last, [], outcome, ?_,
            again, rfl⟩
          simp
      · obtain ⟨rfl, rfl⟩ := Program.yields_done.mp afterAttempt
        exact ⟨[], attempted, [], .error e, by simp, attempt, rfl⟩

/-- A call to Kubernetes fails with an error of Kubernetes. -/
theorem call_ofCall {once : Work (Except KubeError α)} {t : Exchange} {e : OperatorError}
    (yields : (call once).Yields t (.error e)) : e.OfCall := by
  obtain ⟨before, last, after, outcome, rfl, -, same⟩ := call_reports yields
  cases outcome with
  | ok a => cases same
  | error failure =>
      cases same
      exact ⟨Reason.noConfusion, Reason.noConfusion, Reason.noConfusion⟩

/-- A request is sent once, to the path of its address, or not at all. -/
theorem sendTo_course {address : String} {patch : Option KubePatch} {d : Json.Decoder α}
    {t : Exchange} {result : Except KubeError α}
    (yields : Program.Yields (sendTo address patch d) t result) :
    (t = [] ∧ result = .error .unsendable) ∨ ∃ path reply, sendablePath? address = some path ∧
      t = [⟨.kube ⟨path, patch⟩, reply⟩] ∧ result = ofReply d reply := by
  unfold sendTo at yields
  split at yields
  case h_1 path sendable =>
    obtain ⟨reply, rest, rfl, answered⟩ := Program.yields_question_bind.mp yields
    obtain ⟨rfl, meaning⟩ := Program.yields_done.mp answered
    exact .inr ⟨path, reply, sendable, rfl, meaning⟩
  case h_2 => exact .inl (Program.yields_done.mp yields)

/-- A patch that succeeds was sent, and answered with the object. -/
theorem patch_succeeds {c : Collection α} {name part : String} {p : KubePatch} {t : Exchange}
    {a : α} (yields : (patch c name part p).Yields t (.ok a)) : ∃ path reply,
      ⟨.kube ⟨path, some p⟩, reply⟩ ∈ t ∧
        sendablePath? (c.path ++ "/" ++ name ++ part) = some path ∧
          ofReply c.decode reply = .ok a := by
  obtain ⟨before, last, after, outcome, rfl, attempt, same⟩ := call_reports yields
  cases outcome with
  | error e => cases same
  | ok b =>
      cases same
      split at attempt
      · cases (Program.yields_done.mp attempt).2
      · rcases sendTo_course attempt with ⟨-, failed⟩ | ⟨path, reply, sendable, rfl, meaning⟩
        · cases failed
        · refine ⟨path, reply, ?_, sendable, meaning.symm⟩
          simp

/-- A patch was sent, unless it could not be. -/
theorem patch_sent {c : Collection α} {name part : String} {p : KubePatch} {t : Exchange}
    {result : Except OperatorError α} (yields : (patch c name part p).Yields t result)
    (sendable : result ≠ .error (.kube .unsendable)) :
    ∃ path reply, ⟨.kube ⟨path, some p⟩, reply⟩ ∈ t := by
  obtain ⟨before, last, after, outcome, rfl, attempt, rfl⟩ := call_reports yields
  split at attempt
  · obtain ⟨-, rfl⟩ := Program.yields_done.mp attempt
    exact absurd rfl sendable
  · rcases sendTo_course attempt with ⟨-, rfl⟩ | ⟨path, reply, -, rfl, -⟩
    · exact absurd rfl sendable
    · exact ⟨path, reply, by simp⟩

/-- A patch asks for itself at the path of its address, and for patience. -/
theorem patch_asks {c : Collection α} {name part : String} {p : KubePatch}
    (request : ∀ path, sendablePath? (c.path ++ "/" ++ name ++ part) = some path →
      P (.kube ⟨path, some p⟩)) (patience : P (.patience .kubernetes)) :
    (patch c name part p).Asks P := by
  refine call_asks ?_ patience
  split
  · exact .done _
  · exact sendTo_asks request

/-- A read of an object asks for the object at the path of its address. -/
theorem readOnce_asks {c : Collection α} {name : String}
    (read : ∀ path, sendablePath? (c.path ++ "/" ++ name) = some path → P (.kube ⟨path, none⟩)) :
    Program.Asks P (readOnce c name) := by
  unfold readOnce
  split
  · exact .done _
  · refine Program.Asks.bind (sendTo_asks read) fun result => ?_
    split
    · exact .done _
    · split <;> exact .done _
    · exact .done _

/-- What a read of an object makes of an answer.  By its reason alone an answer says that there is
no such object; every other failure is one of the read. -/
inductive ReadAs : Except KubeError α → Except KubeError (Option α) → Prop
  | found (a : α) : ReadAs (.ok a) (.ok (some a))
  | absent (code : Nat) (message : String) :
      ReadAs (.error (.api code message "NotFound")) (.ok none)
  | failed {e : KubeError} (other : ∀ code message, e ≠ .api code message "NotFound") :
      ReadAs (.error e) (.error e)

theorem ReadAs.answer_found {answer : Except KubeError α} {a : α}
    (read : ReadAs answer (.ok (some a))) : answer = .ok a := by
  cases read
  rfl

/-- An object is read with one request at most. -/
theorem readOnce_course {c : Collection α} {name : String} {t : Exchange}
    {result : Except KubeError (Option α)} (yields : Program.Yields (readOnce c name) t result) :
    (t = [] ∧ result = .error .unsendable) ∨ ∃ path reply,
      sendablePath? (c.path ++ "/" ++ name) = some path ∧ t = [⟨.kube ⟨path, none⟩, reply⟩] ∧
        ReadAs (ofReply c.decode reply) result := by
  unfold readOnce at yields
  split at yields
  case isTrue => exact .inl (Program.yields_done.mp yields)
  case isFalse =>
    obtain ⟨first, read, second, rfl, sent, afterSend⟩ := Program.yields_bind.mp yields
    -- Whatever the reading comes to, nothing is asked after it.
    have ending : second = [] ∧ ReadAs read result := by
      split at afterSend
      case h_1 a =>
        obtain ⟨rfl, rfl⟩ := Program.yields_done.mp afterSend
        exact ⟨rfl, .found a⟩
      case h_2 code message reason =>
        split at afterSend
        case isTrue absent =>
          obtain ⟨rfl, rfl⟩ := Program.yields_done.mp afterSend
          subst absent
          exact ⟨rfl, .absent code message⟩
        case isFalse other =>
          obtain ⟨rfl, rfl⟩ := Program.yields_done.mp afterSend
          exact ⟨rfl, .failed fun _ _ same => other (KubeError.api.inj same).2.2⟩
      case h_3 e notApi =>
        obtain ⟨rfl, rfl⟩ := Program.yields_done.mp afterSend
        exact ⟨rfl, .failed fun code message same => notApi _ _ _ same⟩
    obtain ⟨rfl, readAs⟩ := ending
    rcases sendTo_course sent with ⟨rfl, rfl⟩ | ⟨path, reply, sendable, rfl, rfl⟩
    · cases readAs
      exact .inl ⟨rfl, rfl⟩
    · exact .inr ⟨path, reply, sendable, List.append_nil _, readAs⟩

end Kubernetes

namespace Permits

variable (permits : Permits P)
include permits

theorem fetch {base : Url} {c : ControlPlane.Call} {d : Json.Decoder α} :
    (ControlPlane.fetch base c d).Asks P :=
  ControlPlane.fetch_asks (permits.http _) permits.count permits.patience

theorem perform {base : Url} {c : ControlPlane.Call} : (ControlPlane.perform base c).Asks P :=
  ControlPlane.perform_asks (permits.http _) permits.count permits.patience

end Permits

namespace PermitsGetting

variable (permits : PermitsGetting P)
include permits

theorem fetch {base : Url} {address : List String} {text : String} {d : Json.Decoder α} :
    (ControlPlane.fetch base ⟨.get, address, none, text⟩ d).Asks P :=
  ControlPlane.fetch_asks (permits.get _) permits.count permits.patience

end PermitsGetting

/-- To get the source value of a record only its source secret is read. -/
theorem Record.readSource_asks {r : Record}
    (read : ∀ s, r.secretSource? = some s →
      (Kubernetes.read (Secret.collection (r.sourceNamespace s)) s.name).Asks P) :
    r.readSource.Asks P := by
  unfold Record.readSource
  split
  case h_1 => exact Action.asks_pure
  case h_2 source declared =>
    refine Action.Asks.bind (read source declared) fun found => ?_
    cases found with
    | none => exact Action.asks_fail
    | some secret => exact Action.Asks.bind Action.asks_ofExcept fun _ => Action.asks_pure

namespace PermitsReading

variable (permits : PermitsReading P)
include permits

theorem kubeRead {c : Kubernetes.Collection α} {name : String} :
    (Kubernetes.read c name).Asks P :=
  Kubernetes.call_asks (Kubernetes.readOnce_asks fun path _ => permits.read path)
    (permits.patience _)

theorem readSource (r : Record) : r.readSource.Asks P :=
  Record.readSource_asks fun _ _ => permits.kubeRead

end PermitsReading

end ServiceOperator
