import ServiceOperator.Kubernetes.Records
import ServiceOperator.Proofs.Kubernetes.Requests
import ServiceOperator.Proofs.Text.Paths

/-!
# Places in a cluster

What the operator reads from Kubernetes lies at a `Place`: a record or a secret in a namespace, or
all the records of a kind there.  The path of a place is made from texts that users write, so it
leads to the place only if each of them stands for itself (`IsSegment`).  A text with a question
mark in it, for one, is cut there on the way.

Of a plain place the request goes to its path and no other (`Place.sendablePath?_path`), and no two
plain places share one (`Place.path_inj`).

### Why plainness is asked for

The code pastes these texts between slashes and leaves it to the client to make a URL of the result,
where a slash makes two segments of a text, a question mark or a number sign ends the path, and a
percent sign begins an escape.  `IsSegment` excludes just these four characters.  It is decidable,
so that it can be checked of a given record, and it is asked for only where a path has to lead back
to its place.
-/

namespace ServiceOperator.Kubernetes

/-- A text that stands for itself as one segment of a path: nothing in it separates segments, ends
the path or encodes another text. -/
def IsSegment (s : String) : Prop := ∀ c ∈ s.toList, c ∉ ['/', '?', '#', '%']

/-- This goes through the characters of the text, not through all there are. -/
instance (s : String) : Decidable (IsSegment s) :=
  List.decidableBAll (fun c => c ∉ ['/', '?', '#', '%']) s.toList

/-- Where something lies in a cluster. -/
inductive Place where
  | record (k : Kind) (namespaceName name : String)
  /-- All the records of a kind in a namespace. -/
  | records (k : Kind) (namespaceName : String)
  | secret (namespaceName name : String)

namespace Place

/-- The path at which the operator asks for a place. -/
def path : Place → String
  | record k ns name => (k.collection ns).path ++ "/" ++ name
  | records k ns => (k.collection ns).path
  | secret ns name => (Secret.collection ns).path ++ "/" ++ name

/-- The request that reads what lies at a place. -/
def request (p : Place) : KubeRequest := ⟨p.path, none⟩

/-- The texts that a path is made from. -/
def segments : Place → List String
  | record k ns name => ["apis", apiGroup, apiVersion, "namespaces", ns, k.plural, name]
  | records k ns => ["apis", apiGroup, apiVersion, "namespaces", ns, k.plural]
  | secret ns name => ["api", "v1", "namespaces", ns, "secrets", name]

/-- Each text that the path is made from stands for itself. -/
def Plain (p : Place) : Prop := ∀ s ∈ p.segments, IsSegment s

instance (p : Place) : Decidable p.Plain :=
  List.decidableBAll IsSegment p.segments

/-! ## Plain places -/

variable {p p' : Place}

theorem plain_plural (k : Kind) : IsSegment k.plural := by
  cases k <;> decide +kernel

/-- The texts of a path that no user writes. -/
theorem plain_fixed : ∀ s ∈ ["apis", apiGroup, apiVersion, "namespaces", "api", "v1", "secrets"],
    IsSegment s := by
  decide +kernel

/-- The records of a kind in a namespace lie at a plain place, if the namespace stands for
itself. -/
theorem plain_records {k : Kind} {ns : String} (plain : IsSegment ns) : (records k ns).Plain := by
  have fixed := plain_fixed
  simp_all [Plain, segments, plain_plural]

/-! ## Paths -/

/-- The characters of a path: each of its texts, with a slash before it. -/
theorem toList_path (p : Place) :
    p.path.toList = p.segments.flatMap fun s => '/' :: s.toList := by
  have slash : "/".toList = ['/'] := by simp
  have ofRecords (k : Kind) (ns : String) : (k.collection ns).path.toList =
      (records k ns).segments.flatMap fun s => '/' :: s.toList := by
    have apis : "/apis/".toList = '/' :: ("apis".toList ++ ['/']) := by simp
    have namespaces : "/namespaces/".toList = '/' :: ("namespaces".toList ++ ['/']) := by simp
    simp only [Kind.collection, String.toList_append, apis, namespaces, slash, segments,
      List.flatMap_cons, List.flatMap_nil, List.append_assoc, List.cons_append, List.nil_append,
      List.append_nil]
  have ofSecrets (ns : String) : (Secret.collection ns).path.toList =
      ["api", "v1", "namespaces", ns, "secrets"].flatMap fun s => '/' :: s.toList := by
    have start : "/api/v1/namespaces/".toList = '/' :: ("api".toList ++ '/' :: ("v1".toList ++
        '/' :: ("namespaces".toList ++ ['/']))) := by simp
    have stop : "/secrets".toList = '/' :: "secrets".toList := by simp
    change ("/api/v1/namespaces/" ++ ns ++ "/secrets").toList = _
    rw [String.toList_append, String.toList_append, start, stop]
    simp only [List.flatMap_cons, List.flatMap_nil, List.append_assoc, List.cons_append,
      List.nil_append, List.append_nil]
  cases p with
  | records k ns => exact ofRecords k ns
  | record k ns name =>
      rw [path, String.toList_append, String.toList_append, ofRecords, slash]
      simp only [segments, List.flatMap_cons, List.flatMap_nil, List.append_assoc,
        List.cons_append, List.nil_append, List.append_nil]
  | secret ns name =>
      rw [path, String.toList_append, String.toList_append, ofSecrets, slash]
      simp only [segments, List.flatMap_cons, List.flatMap_nil, List.append_assoc,
        List.cons_append, List.nil_append, List.append_nil]

theorem slashless_of_isSegment {s : String} (plain : IsSegment s) : Text.Slashless s :=
  fun member => plain '/' member (List.mem_cons_self ..)

theorem plural_inj : ∀ k ∈ Kind.all, ∀ k' ∈ Kind.all, k.plural = k'.plural → k = k' := by
  decide +kernel

/-- **No two plain places share a path.** -/
theorem path_inj (plain : p.Plain) (plain' : p'.Plain) (same : p.path = p'.path) : p = p' := by
  have segments : p.segments = p'.segments :=
    Text.slashed_inj (fun s listed => slashless_of_isSegment (plain s listed))
      (fun s listed => slashless_of_isSegment (plain' s listed))
      (by rw [Text.slashed, Text.slashed, ← toList_path, ← toList_path, same])
  have plural (k k' : Kind) : k.plural = k'.plural ↔ k = k' :=
    ⟨plural_inj k k.mem_all k' k'.mem_all, fun same => same ▸ rfl⟩
  cases p <;> cases p' <;> simp_all [Place.segments]

/-- Of a plain place the request goes to its path, if it can be sent. -/
theorem sendablePath?_path {sent : String} (plain : p.Plain)
    (sendable : sendablePath? p.path = some sent) : sent = p.path := by
  have whole : ∀ c ∈ p.path.toList, c ≠ '#' ∧ c ≠ '?' := by
    intro c member
    rw [toList_path] at member
    obtain ⟨s, listed, member⟩ := List.mem_flatMap.mp member
    rcases List.mem_cons.mp member with rfl | member
    · decide
    · have other := plain s listed c member
      simp_all
  have uncut (test : Char → Bool) (all : ∀ c ∈ p.path.toList, test c = true) :
      p.path.toList.takeWhile test = p.path.toList := by
    simpa using @List.takeWhile_append_of_pos _ test p.path.toList [] all
  have noFragment := uncut (fun c => c ≠ '#') fun c member => by
    simpa using (whole c member).1
  have noQuery := uncut (fun c => c ≠ '?') fun c member => by
    simpa using (whole c member).2
  simp only [sendablePath?, noFragment, noQuery] at sendable
  split at sendable
  · cases sendable
    exact String.ofList_toList
  · cases sendable

end Place

end ServiceOperator.Kubernetes
