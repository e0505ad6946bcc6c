import ServiceOperator.Proofs.ControlPlane.Calls

/-!
# Looking a resource up

Every kind looks its resource up in one answer of the control plane: in the document of the resource
itself, in that of the service that holds it, or in a list.  `Finds` is that pattern.  An action
that `Finds` asks for the document at one address, reads the resources that the document shows, and
takes the first one that is sought.  So it returns only what the control plane has shown, and it
fails with an absence only when the control plane has reported one.

The absence is a predicate on the exchange alone (`ReportsAbsence`): an answer with the status 404,
or a document that can be read and shows nothing that is sought.

### Why the documents are a parameter

A kind differs from another in the address that it asks, in what it reads off the document there,
and in how it knows its resource.  `Finds` takes these three as parameters, and has two clauses, one
for a value and one for an absence.  So `finds_document`, `finds_among` and `finds_listed` cover all
the ways of looking something up, and each kind is an instance of one of them.
-/

namespace ServiceOperator.ControlPlane

variable {α β : Type} {base : Url} {address : List String} {t : Exchange} {body text : String}

/-- The document in a body, if it can be read.  A body of white space counts as `null`. -/
def document? (d : Json.Decoder α) (body : String) : Option α :=
  (Json.parse? (if Text.isBlank body then "null" else body)).bind d

/-- A body is read without an error exactly if it holds a document. -/
theorem readBody_ok_iff {d : Json.Decoder α} {x : α} :
    readBody text d body = .ok x ↔ document? d body = some x := by
  dsimp only [readBody, document?]
  generalize (Json.parse? _).bind d = parsed
  cases parsed <;> simp

/-- The request for the document at an address. -/
def lookupRequest (base : Url) (address : List String) : HttpRequest :=
  ⟨.get, base.target address, none⟩

/-- The document at an address was answered, with success and this body. -/
def Shown (base : Url) (address : List String) (t : Exchange) (body : String) : Prop :=
  ∃ reply, ⟨.http (lookupRequest base address), reply⟩ ∈ t ∧ Succeeds reply body

/-- An answer that the resource at an address is absent: the address leads to nothing, or its
document can be read and shows no resource that is sought. -/
def ReportsAbsence (base : Url) (address : List String) (documents : String → Option (List β))
    (sought : β → Bool) (entry : Sigma Question.Answer) : Prop :=
  ∃ reply, entry = ⟨.http (lookupRequest base address), reply⟩ ∧
    ((∃ body, reply = .answered 404 body) ∨
      ∃ body shown, Succeeds reply body ∧ documents body = some shown ∧
        ∀ d ∈ shown, sought d = false)

/-- An action takes the first resource that is sought among those that one document shows. -/
structure Finds (base : Url) (address : List String) (documents : String → Option (List β))
    (sought : β → Bool) (a : Action β) : Prop where
  ok : ∀ {t d}, a.Yields t (.ok d) → ∃ body shown, Shown base address t body ∧
    documents body = some shown ∧ shown.find? sought = some d
  notFound : ∀ {t e}, a.Yields t (.error e) → e.isNotFound = true →
    ∃ entry ∈ t, ReportsAbsence base address documents sought entry
  asks : ∀ {P : Question → Prop}, P (.http (lookupRequest base address)) →
    (∀ event, P (.count event)) → (∀ peer, P (.patience peer)) → a.Asks P

variable {documents : String → Option (List β)} {sought : β → Bool}

/-- An action that reads the document of the resource itself. -/
theorem finds_document {d : Json.Decoder β} :
    Finds base address (fun body => (document? d body).map fun x => [x]) (fun _ => true)
      (fetch base ⟨.get, address, none, text⟩ d) where
  ok := by
    intro t x yields
    obtain ⟨reply, body, replied, succeeds, read⟩ := fetch_ok yields
    exact ⟨body, [x], ⟨reply, replied, succeeds⟩, by simp [readBody_ok_iff.mp read], rfl⟩
  notFound := by
    intro t e yields absent
    obtain ⟨body, replied⟩ := fetch_notFound yields absent
    exact ⟨_, replied, _, rfl, .inl ⟨body, rfl⟩⟩
  asks request count patience := fetch_asks request count patience

/-- To pick one of several things asks nothing: it comes to the first that is sought, or to the
error that is meant for there being none. -/
theorem yields_findOr {missing : OperatorError} {l : List β} {r : Except OperatorError β} :
    (findOr missing sought l).Yields t r ↔
      t = [] ∧ ((∃ x, l.find? sought = some x ∧ r = .ok x) ∨
        l.find? sought = none ∧ r = .error missing) := by
  unfold findOr
  cases found : l.find? sought with
  | some x => simp [Action.yields_pure]
  | none => simp [Action.yields_fail]

/-- To pick one of the things that a call is answered with fails with an error of the call, or for
want of that one. -/
theorem fetch_findOr_ofCall {c : Call} {d : Json.Decoder (List β)} {missing e : OperatorError}
    (absence : missing.OfCall)
    (failed : (fetch base c d >>= findOr missing sought).Yields t (.error e)) : e.OfCall := by
  obtain ⟨e, listed, same⟩ | ⟨first, l, second, rfl, -, rest⟩ := Action.yields_bind.mp failed
  · cases same
    exact fetch_ofCall listed
  · obtain ⟨rfl, ⟨x, -, same⟩ | ⟨-, same⟩⟩ := yields_findOr.mp rest
    · cases same
    · cases same
      exact absence

theorem findOr_asks {P : Question → Prop} {missing : OperatorError} {l : List β} :
    (findOr missing sought l).Asks P := by
  unfold findOr
  split
  · exact Action.asks_pure
  · exact Action.asks_fail

/-- An action that reads a document and looks for the resource among those that it shows. -/
theorem finds_among {d : Json.Decoder α} {pick : α → List β} {missing : OperatorError} :
    Finds base address (fun body => (document? d body).map pick) sought
      (fetch base ⟨.get, address, none, text⟩ d >>= fun x => findOr missing sought (pick x)) where
  ok := by
    intro t found yields
    obtain ⟨e, -, same⟩ | ⟨first, x, second, rfl, fetched, picked⟩ := Action.yields_bind.mp yields
    · cases same
    · obtain ⟨reply, body, replied, succeeds, read⟩ := fetch_ok fetched
      obtain ⟨rfl, ⟨y, found, same⟩ | ⟨-, same⟩⟩ := yields_findOr.mp picked
      · cases same
        exact ⟨body, pick x, ⟨reply, List.mem_append_left _ replied, succeeds⟩,
          by simp [readBody_ok_iff.mp read], found⟩
      · cases same
  notFound := by
    intro t e yields absent
    obtain ⟨e, fetched, same⟩ | ⟨first, x, second, rfl, fetched, picked⟩ :=
      Action.yields_bind.mp yields
    · cases same
      obtain ⟨body, replied⟩ := fetch_notFound fetched absent
      exact ⟨_, replied, _, rfl, .inl ⟨body, rfl⟩⟩
    · obtain ⟨reply, body, replied, succeeds, read⟩ := fetch_ok fetched
      obtain ⟨rfl, ⟨y, -, same⟩ | ⟨none, -⟩⟩ := yields_findOr.mp picked
      · cases same
      · refine ⟨_, List.mem_append_left _ replied, reply, rfl, .inr ?_⟩
        refine ⟨body, pick x, succeeds, ?_, ?_⟩
        · simp [readBody_ok_iff.mp read]
        · simpa using none
  asks request count patience :=
    Action.Asks.bind (fetch_asks request count patience) fun _ => findOr_asks

/-- An action that looks for the resource in a list. -/
theorem finds_listed {d : Json.Decoder (List β)} {missing : OperatorError} :
    Finds base address (document? d) sought
      (fetch base ⟨.get, address, none, text⟩ d >>= findOr missing sought) := by
  have documents : document? d = fun body => (document? d body).map id := by
    funext body
    rw [Option.map_id, id]
  rw [documents]
  exact finds_among

end ServiceOperator.ControlPlane
