import ServiceOperator.Proofs.Controller.FinalizerFirst
import ServiceOperator.Proofs.Controller.SourceSecrecy
import ServiceOperator.Proofs.Kubernetes.Places

/-!
# When a source secret is overwritten

A source secret belongs to someone else, and is there to be read.  A reconcile writes two kinds of
objects: its own record, and the connection secret of the record.  So a source secret is written
exactly where it is the connection secret as well (`source_written_iff`), and nothing keeps the two
apart: each of them is named by a text of the record, or by its name and namespace where the record
says nothing, and a record may well be given a source secret of its own name.

`Record.WritesOnly` is the frame of a reconcile that says so.

### Why it is an equivalence

That a reconcile writes no secret but the connection secret is half of the law, and it holds in
every case (`controlCounted_writes`).  The other half is about names.  The two secrets lie at one
path exactly if they have one namespace and one name (`connectionPath?_eq_iff`), as far as the texts
of the record stand for themselves in a path.  So `source_written_iff` gives for every reconcile the
condition on its record under which a source secret is written, and the record at the end of this
module meets it.
-/

namespace ServiceOperator

/-! ## Writes -/

/-- A request to Kubernetes that writes at a path. -/
def Question.writesAt (path : String) : Question → Bool
  | .kube ⟨there, some _⟩ => there = path
  | _ => false

/-- A question that writes at a path may change something. -/
theorem Question.mayChange_of_writesAt {q : Question} {path : String}
    (writes : q.writesAt path = true) : q.mayChange = true := by
  unfold writesAt at writes
  split at writes
  · rfl
  · cases writes

namespace Exchange

/-- Along an exchange something is written at a path. -/
def Writes (t : Exchange) (path : String) : Prop := ∃ entry ∈ t, entry.1.writesAt path = true

/-- Along an exchange a secret is written. -/
def WritesSecret (t : Exchange) : Prop := ∃ path, Kubernetes.OfSecrets path ∧ t.Writes path

variable {t : Exchange} {path : String}

/-- What writes changes something. -/
theorem Writes.changes (writes : t.Writes path) : ∃ entry ∈ t, entry.1.mayChange = true := by
  obtain ⟨entry, member, writes⟩ := writes
  exact ⟨entry, member, Question.mayChange_of_writesAt writes⟩

theorem not_writes_of_calm (calm : ∀ entry ∈ t, entry.1.mayChange = false) : ¬ t.Writes path := by
  intro writes
  obtain ⟨entry, member, changes⟩ := writes.changes
  cases (calm entry member).symm.trans changes

end Exchange

namespace Record

variable {base : Url} {r : Record} {settings : Settings} {t : Exchange} {path : String}

/-! ## What a reconcile writes -/

/-- A question writes nothing, or writes a record or the connection secret of one. -/
def WritesOnly (r : Record) (q : Question) : Prop :=
  ∀ path, q.writesAt path = true → Kubernetes.OfRecords path ∨ r.connectionPath? = some path

/-- To write records and the connection secret of one of them is a frame of its reconcile. -/
theorem permitsReconcile_writesOnly : PermitsReconcile r r.WritesOnly where
  http _ _ writes := by cases writes
  read _ _ writes := by cases writes
  patience _ _ writes := by cases writes
  count _ _ writes := by cases writes
  now _ writes := by cases writes
  record _ _ records _ writes := .inl (of_decide_eq_true writes ▸ records)
  secret _ _ connection _ writes := .inr (of_decide_eq_true writes ▸ connection)

/-- Only a record that wants a connection secret has a path for one. -/
theorem hasConnectionSecret_of_connectionPath? (connection : r.connectionPath? = some path) :
    r.hasConnectionSecret = true := by
  unfold connectionPath? at connection
  split at connection
  case isTrue wanted => exact wanted
  case isFalse => cases connection

/-- A reconcile that writes a secret has found its record, and writes the connection secret of the
record as it is stored. -/
theorem controlCounted_writes {result : Except OperatorError ControllerAction}
    (yields : (r.controlCounted base settings).Yields t result) (secret : Kubernetes.OfSecrets path)
    (writes : t.Writes path) :
    ∃ stored, r.Finds stored t ∧ stored.connectionPath? = some path := by
  rcases controlCounted_passes yields with
    ⟨calm, -⟩ | ⟨stored, front, passing, closing, rfl, finds, passes, calm, quiet⟩
  · exact absurd writes (Exchange.not_writes_of_calm calm)
  obtain ⟨entry, member, writes⟩ := writes
  refine ⟨stored, finds.ahead, ?_⟩
  rw [List.mem_append, List.mem_append] at member
  rcases member with member | member | member
  · exact absurd ⟨entry, member, writes⟩ (Exchange.not_writes_of_calm calm)
  · have only := permitsReconcile_writesOnly.passIfHeld.of_mem passes entry member path writes
    exact only.resolve_left fun records => records.not_ofSecrets secret
  · exact absurd ⟨entry, member, writes⟩ (Exchange.not_writes_of_calm quiet)

/-! ## Where the two secrets lie -/

/-- **The two secrets of a record are one exactly if they have one namespace and one name**, as far
as all of these texts stand for themselves in a path. -/
theorem connectionPath?_eq_iff {source : SecretSource} (declared : r.secretSource? = some source)
    (wanted : r.hasConnectionSecret = true)
    (plain : (Kubernetes.Place.secret (r.sourceNamespace source) source.name).Plain)
    (plain' : (Kubernetes.Place.secret r.namespaceName r.secretName).Plain)
    (read : r.sourcePath? = some path) :
    r.connectionPath? = some path ↔
      r.namespaceName = r.sourceNamespace source ∧ r.secretName = source.name := by
  rw [sourcePath?, declared, Option.bind_some] at read
  rw [connectionPath?, if_pos wanted]
  constructor
  · intro written
    have from_source := Kubernetes.Place.sendablePath?_path plain read
    have from_target := Kubernetes.Place.sendablePath?_path plain' written
    have place := Kubernetes.Place.path_inj plain' plain (from_target.symm.trans from_source)
    simpa using place
  · rintro ⟨sameNamespace, sameName⟩
    rw [sameNamespace, sameName]
    exact read

end Record

section Writes

variable {base : Url} {r : Record} {settings : Settings} {t : Exchange}
  {result : Except OperatorError ControllerAction}

/-- A reconcile that finds no record writes nothing. -/
theorem not_writes_of_lost (yields : (r.controlCounted base settings).Yields t result)
    (lost : ∀ stored, ¬ r.Finds stored t) (path : String) : ¬ t.Writes path := by
  rcases Record.controlCounted_passes yields with
    ⟨calm, -⟩ | ⟨stored, front, passing, closing, rfl, finds, -, -, -⟩
  · exact Exchange.not_writes_of_calm calm
  · exact absurd finds.ahead (lost stored)

/-- A reconcile writes the source secret exactly if it writes a secret and the two secrets of the
record share a path. -/
theorem writes_source_iff (yields : (r.controlCounted base settings).Yields t result)
    {stored : Record} {path : String} (finds : r.Finds stored t)
    (source : stored.sourcePath? = some path) :
    t.Writes path ↔ t.WritesSecret ∧ stored.connectionPath? = some path := by
  have secret := Record.ofSecrets_of_sourcePath? source
  constructor
  · intro writes
    obtain ⟨found, finds', connection⟩ := Record.controlCounted_writes yields secret writes
    obtain rfl := finds.unique finds'
    exact ⟨⟨path, secret, writes⟩, connection⟩
  · rintro ⟨⟨written, secret', writes⟩, connection⟩
    obtain ⟨found, finds', connection'⟩ := Record.controlCounted_writes yields secret' writes
    obtain rfl := finds.unique finds'
    obtain rfl := Option.some.inj (connection.symm.trans connection')
    exact writes

/-- **A source secret is written exactly where it is the connection secret as well.**  Let a
reconcile, of any record of any kind, ask along an exchange, whatever its peers answer.  If it finds
no record, it writes nothing.  Otherwise let the record that it finds have a source secret: the
reconcile writes that secret exactly if it writes a secret at all and the connection secret of the
record lies at the same path, which is to say, for texts that stand for themselves in a path, in the
same namespace and under the same name. -/
theorem source_written_iff (yields : (r.controlCounted base settings).Yields t result) :
    ((∀ stored, ¬ r.Finds stored t) → ∀ path, ¬ t.Writes path) ∧
      ∀ stored path, r.Finds stored t → stored.sourcePath? = some path →
        (t.Writes path ↔ t.WritesSecret ∧ stored.connectionPath? = some path) ∧
        ∀ source, stored.secretSource? = some source →
          (Kubernetes.Place.secret (stored.sourceNamespace source) source.name).Plain →
          (Kubernetes.Place.secret stored.namespaceName stored.secretName).Plain →
          (t.Writes path ↔ t.WritesSecret ∧
            stored.namespaceName = stored.sourceNamespace source ∧
            stored.secretName = source.name) := by
  refine ⟨not_writes_of_lost yields, ?_⟩
  intro stored path finds there
  have shared := writes_source_iff yields finds there
  refine ⟨shared, ?_⟩
  intro source declared plain plain'
  rw [shared]
  refine and_congr_right ?_
  -- Where a secret is written at all, the record has a connection secret.
  rintro ⟨written, secret, writes⟩
  obtain ⟨found, finds', connection⟩ := Record.controlCounted_writes yields secret writes
  obtain rfl := finds.unique finds'
  have wanted := Record.hasConnectionSecret_of_connectionPath? connection
  exact Record.connectionPath?_eq_iff declared wanted plain plain' there

end Writes

/-! ## A source secret with the name of its record -/

namespace SelfSourced

open Reverted (base)

/-- A record of a user that gets its password from the secret of its own name, before any pass. -/
def record : Record where
  metadata := { Metadata.empty with name := some "u", namespaceName := some "ns" }
  spec := .serviceUser ⟨"p", "s", none, none, none, some ⟨"u", none, "k"⟩⟩
  status := none

/-- The record as it is stored. -/
def document : String :=
  "\x7b\"metadata\":\x7b\"name\":\"u\",\"namespace\":\"ns\"\x7d," ++
    "\"spec\":\x7b\"project\":\"p\",\"serviceName\":\"s\"," ++
    "\"connInfoSecretSource\":\x7b\"name\":\"u\",\"passwordKey\":\"k\"\x7d\x7d\x7d"

/-- The answer to every patch of the record.  It need not say more than that the record is there. -/
def updated : String :=
  "\x7b\"metadata\":\x7b\x7d,\"spec\":\x7b\"project\":\"p\",\"serviceName\":\"s\"\x7d\x7d"

/-- Where the record is stored. -/
def path : String := record.collection.path ++ "/" ++ record.name

/-- Where the secret is stored. -/
def secretPath : String := (Secret.collection "ns").path ++ "/u"

/-- Peers of which one has the record and the secret, and the other one has the user. -/
def answer : (q : Question) → q.Answer
  | .kube ⟨there, some _⟩ =>
    .answered 200 (if there = secretPath then Reverted.secret "old" else updated)
  | .kube ⟨there, none⟩ =>
    .answered 200 (if there = path then document
      else if there = secretPath then Reverted.secret "old" else Reverted.service)
  | q => Reverted.answer "old" (.answered 200 "") q

/-- What is asked along a reconcile of the record, with the answers. -/
def exchange : Exchange :=
  (record.controlCounted base .standard).trace (fun q (_ : Unit) => (answer q, ())) ()

theorem yields : ∃ result, (record.controlCounted base .standard).Yields exchange result :=
  ⟨_, Program.yields_run _ _ _⟩

theorem writes : exchange.Writes secretPath :=
  List.any_eq_true.mp (by decide +kernel)

/-- Where the source secret of the record is, as the document says. -/
def source : SecretSource := ⟨"u", none, "k"⟩

/-- A record has one secret that plays both parts. -/
structure PlaysBoth (r : Record) : Prop where
  read : r.sourcePath? = some secretPath
  declared : r.secretSource? = some source
  sameNamespace : r.namespaceName = "ns"
  sameName : r.secretName = "u"

theorem decoded :
    (Kubernetes.ofReply record.collection.decode (.answered 200 document)).toOption.map
    (fun r => (r.sourcePath?, r.secretSource?, r.namespaceName, r.secretName)) =
      some (some secretPath, some source, "ns", "u") := by
  decide +kernel

/-- The reconcile finds its record, and the record has one secret for both parts. -/
theorem finds : ∃ stored, record.Finds stored exchange ∧ PlaysBoth stored := by
  have secret : Kubernetes.OfSecrets secretPath := by
    apply Record.ofSecrets_of_sourcePath? (r := record)
    decide +kernel
  obtain ⟨result, yields⟩ := yields
  obtain ⟨stored, finds, -⟩ := Record.controlCounted_writes yields secret writes
  refine ⟨stored, finds, ?_⟩
  obtain ⟨there, sendable, meaning⟩ :=
    finds.answered fun _ member => Program.answer_of_mem_trace member
  have plain : Kubernetes.sendablePath? path = some path := by decide +kernel
  have same : there = path := Option.some.inj (sendable.symm.trans plain)
  have shown : answer (.kube ⟨there, none⟩) = .answered 200 document := by
    rw [answer, if_pos same]
  have seen := decoded
  rw [← shown, meaning] at seen
  obtain ⟨read, rest⟩ := Prod.mk.inj (Option.some.inj seen)
  obtain ⟨declared, rest⟩ := Prod.mk.inj rest
  obtain ⟨sameNamespace, sameName⟩ := Prod.mk.inj rest
  exact ⟨read, declared, sameNamespace, sameName⟩

end SelfSourced

/-- The source secret with the name of its record is written: it has the namespace and the name of
the connection secret. -/
theorem source_written_iff_selfSourced : SelfSourced.exchange.Writes SelfSourced.secretPath := by
  obtain ⟨result, yields⟩ := SelfSourced.yields
  obtain ⟨stored, finds, both⟩ := SelfSourced.finds
  have writes : SelfSourced.exchange.WritesSecret :=
    ⟨_, Record.ofSecrets_of_sourcePath? both.read, SelfSourced.writes⟩
  have sameNamespace : stored.sourceNamespace SelfSourced.source = "ns" := both.sameNamespace
  have plain : (Kubernetes.Place.secret "ns" "u").Plain := by decide +kernel
  obtain ⟨-, written⟩ := source_written_iff yields
  obtain ⟨-, named⟩ := written stored _ finds both.read
  refine (named SelfSourced.source both.declared ?_ ?_).mpr ⟨writes, ?_, ?_⟩
  · rw [sameNamespace]
    exact plain
  · rw [both.sameNamespace, both.sameName]
    exact plain
  · exact both.sameNamespace.trans sameNamespace.symm
  · exact both.sameName

/-- So it is not true that a source secret is only read. -/
theorem not_source_read_only :
    ¬ ∀ (base : Url) (r stored : Record) (settings : Settings) (t : Exchange)
      (result : Except OperatorError ControllerAction) (path : String),
      (r.controlCounted base settings).Yields t result → r.Finds stored t →
        stored.sourcePath? = some path → ¬ t.Writes path := by
  intro readOnly
  obtain ⟨result, yields⟩ := SelfSourced.yields
  obtain ⟨stored, finds, both⟩ := SelfSourced.finds
  exact readOnly _ _ stored _ _ _ _ yields finds both.read SelfSourced.writes

end ServiceOperator
