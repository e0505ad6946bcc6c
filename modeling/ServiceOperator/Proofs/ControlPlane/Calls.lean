import ServiceOperator.ControlPlane.Endpoints
import ServiceOperator.Proofs.Program.InStep

/-!
# What a call to the control plane reports

A call may make several attempts, but it reports what one reply says.  `Replied base c t reply` says
that a reply is among the answers to a call, and the lemmas here lead from the result of a call back
to such a reply: a value to a success with the body that it was read from (`fetch_ok`), an absence
to an answer with the status 404 and to nothing else (`fetch_notFound`).  Such an answer is the last
one of a call, so that none comes before a success (`send_not_answersNotFound`).  No reply makes a
call say anything about a dependency or find fault with the record (`OperatorError.OfCall`): such
errors are for those who look one up, or read what a record declares.

Whatever it is answered, a call sends one and the same request (`send_asks`), and it sends it at
least once (`send_first`).  Of its request only the method and the text for it have a part in what
it reports, and not the body (`perform_compares`).

### How a call is taken apart

The attempts of a call are opened here and nowhere else.  `retry_reports` is the induction over the
attempts that are left, and what it hands on is one reply that was among the answers (`Replied`)
with what that reply means (`Reports`).  So whatever is said about `fetch` and `perform` is a case
split over a single reply.  That an answer with the status 404 is final (`final_of_answersNotFound`)
is what ties an absence to the exchange: it is the last answer of its call, so that a call that
succeeds has had none.
-/

namespace ServiceOperator

/-- An error that comes from a call to a peer.  It says nothing about a dependency, and it finds no
fault with the record. -/
structure OperatorError.OfCall (e : OperatorError) : Prop where
  notMissing : e.reason ≠ .dependencyMissing
  notUnready : e.reason ≠ .dependencyNotReady
  notInvalid : e.reason ≠ .invalidSpec

theorem OperatorError.OfCall.transport {text : String} : (OperatorError.transport text).OfCall :=
  ⟨Reason.noConfusion, Reason.noConfusion, Reason.noConfusion⟩

theorem OperatorError.OfCall.notFound {resource : String} :
    (OperatorError.notFound resource).OfCall :=
  ⟨Reason.noConfusion, Reason.noConfusion, Reason.noConfusion⟩

/-- Whatever the status of an answer, the error that it stands for is one of a call. -/
theorem HttpStatus.failure_ofCall {method : HttpMethod} {status : Nat} {resource body : String} :
    (HttpStatus.failure method status resource body).OfCall := by
  unfold HttpStatus.failure
  dsimp only
  split
  case h_2 => split <;> exact ⟨Reason.noConfusion, Reason.noConfusion, Reason.noConfusion⟩
  all_goals exact ⟨Reason.noConfusion, Reason.noConfusion, Reason.noConfusion⟩

/-- An answer with a status of 404 is the only one that means an absence. -/
theorem HttpStatus.failure_isNotFound {method : HttpMethod} {status : Nat} {resource body : String}
    (absent : (HttpStatus.failure method status resource body).isNotFound = true) :
    status = 404 := by
  unfold HttpStatus.failure at absent
  dsimp only at absent
  split at absent
  case h_1 => rfl
  case h_2 => split at absent <;> cases absent
  all_goals cases absent

namespace Question

/-- A request to the control plane. -/
def isExternal : Question → Bool
  | .http _ => true
  | _ => false

/-- A request to the control plane that deletes. -/
def deletes : Question → Bool
  | .http request => request.method = .delete
  | _ => false

/-- A request to the control plane that deletes what is at a target. -/
def deletesAt (target : String) : Question → Bool
  | .http request => request.method = .delete && request.target = target
  | _ => false

/-- What deletes nothing. -/
abbrev Spares (q : Question) : Prop := q.deletes = false

/-- What deletes nothing deletes nothing at any target. -/
theorem Spares.deletesAt {q : Question} (spares : q.Spares) (target : String) :
    q.deletesAt target = false := by
  cases q with
  | http request =>
      dsimp only [Spares, deletes] at spares
      simp [Question.deletesAt, spares]
  | _ => rfl

end Question

namespace ControlPlane

variable {α : Type} {base : Url} {c : Call} {t : Exchange} {reply : HttpReply} {e : OperatorError}
  {body : String}

/-- The request that every attempt of a call sends. -/
def Call.request (base : Url) (c : Call) : HttpRequest := ⟨c.method, base.target c.address, c.body⟩

/-- A reply is among the answers to a call. -/
def Replied (base : Url) (c : Call) (t : Exchange) (reply : HttpReply) : Prop :=
  ⟨.http (c.request base), reply⟩ ∈ t

/-! ## Replies -/

/-- A reply is an answer of success with a body. -/
def Succeeds (reply : HttpReply) (body : String) : Prop :=
  ∃ status, reply = .answered status body ∧ 200 ≤ status ∧ status ≤ 299

/-- What a reply means for an attempt that fails with an error. -/
def FailsWith (c : Call) (reply : HttpReply) (e : OperatorError) : Prop :=
  Attempt.ofReply c reply = .retryable e ∨ Attempt.ofReply c reply = .final e

/-- What a reply means for a call that ends with it. -/
def Reports (c : Call) (reply : HttpReply) : Except OperatorError String → Prop
  | .ok body => Succeeds reply body
  | .error e => FailsWith c reply e

/-- Only an answer whose status is one of success ends a call with a body. -/
theorem succeeds_of_success (success : Attempt.ofReply c reply = .success body) :
    Succeeds reply body := by
  cases reply with
  | answered status text =>
      dsimp only [Attempt.ofReply] at success
      split at success
      case isTrue range =>
        cases success
        exact ⟨status, rfl, range⟩
      case isFalse => split at success <;> cases success
  | _ => cases success

/-- An attempt fails with what the status of its answer means, or in transport. -/
theorem failsWith_cases (fails : FailsWith c reply e) :
    (∃ status body, reply = .answered status body ∧
      HttpStatus.failure c.method status c.resource body = e) ∨ ∃ text, .transport text = e := by
  unfold FailsWith at fails
  cases reply with
  | answered status text =>
      refine .inl ⟨status, text, rfl, ?_⟩
      dsimp only [Attempt.ofReply] at fails
      split at fails
      case isTrue => simp at fails
      case isFalse => split at fails <;> simpa using fails
  | broken status => exact .inr ⟨_, by simpa [Attempt.ofReply] using fails⟩
  | unreachable => exact .inr ⟨_, by simpa [Attempt.ofReply] using fails⟩
  | timedOut => exact .inr ⟨_, by simpa [Attempt.ofReply] using fails⟩
  | lost => exact .inr ⟨_, by simpa [Attempt.ofReply] using fails⟩

/-- Among the replies only an answer with the status 404 can mean that something is absent. -/
theorem answered_of_failsWith (fails : FailsWith c reply e) (absent : e.isNotFound = true) :
    ∃ body, reply = .answered 404 body := by
  rcases failsWith_cases fails with ⟨status, body, rfl, rfl⟩ | ⟨text, rfl⟩
  · rw [HttpStatus.failure_isNotFound absent]
    exact ⟨body, rfl⟩
  · cases absent

theorem ofCall_of_failsWith (fails : FailsWith c reply e) : e.OfCall := by
  rcases failsWith_cases fails with ⟨status, body, -, rfl⟩ | ⟨text, rfl⟩
  · exact HttpStatus.failure_ofCall
  · exact .transport

/-! ## Attempts -/

/-- An attempt sends the request of its call once, counts the reply, and comes to what the reply
means. -/
theorem yields_attempt {result : Attempt} :
    (attempt base c).Yields t result ↔ ∃ reply,
      t = [⟨.http (c.request base), reply⟩,
        ⟨.count (.requested c.method.token (replyClass reply)), ()⟩] ∧
      result = Attempt.ofReply c reply := by
  constructor
  · intro yields
    obtain ⟨reply, rest, rfl, afterReply⟩ := Program.yields_question_bind.mp yields
    obtain ⟨⟨⟩, rest, rfl, ending⟩ := Program.yields_question_bind.mp afterReply
    obtain ⟨rfl, rfl⟩ := Program.yields_done.mp ending
    exact ⟨reply, rfl, rfl⟩
  · rintro ⟨reply, rfl, rfl⟩
    exact .ask (.ask (.done _))

/-- The attempts after the first one report what one of them was answered. -/
theorem retry_reports {left : Nat} {first : OperatorError} {result : Except OperatorError String}
    (yields : (retry base c left first).Yields t result) :
    (t = [] ∧ result = .error first) ∨
      ∃ reply, Replied base c t reply ∧ Reports c reply result := by
  -- By induction on the attempts that are left; an attempt that fails for good ends the rest.
  induction left generalizing first t with
  | zero =>
      obtain ⟨rfl, rfl⟩ := Program.yields_done.mp yields
      exact .inl ⟨rfl, rfl⟩
  | succ left ih =>
      obtain ⟨head, outcome, tail, rfl, attempted, afterAttempt⟩ := Program.yields_bind.mp yields
      obtain ⟨reply, rfl, rfl⟩ := yields_attempt.mp attempted
      refine .inr ?_
      cases meaning : Attempt.ofReply c reply with
      | success body =>
          simp only [meaning] at afterAttempt
          obtain ⟨rfl, rfl⟩ := Program.yields_done.mp afterAttempt
          exact ⟨reply, List.mem_cons_self, succeeds_of_success meaning⟩
      | final e =>
          simp only [meaning] at afterAttempt
          obtain ⟨rfl, rfl⟩ := Program.yields_done.mp afterAttempt
          exact ⟨reply, List.mem_cons_self, .inr meaning⟩
      | retryable e =>
          simp only [meaning] at afterAttempt
          rcases ih afterAttempt with ⟨rfl, rfl⟩ | ⟨later, repliedLater, reports⟩
          · exact ⟨reply, List.mem_cons_self, .inl meaning⟩
          · exact ⟨later, List.mem_append_right _ repliedLater, reports⟩

/-- A call sends its request at least once. -/
theorem send_first {result : Except OperatorError String} (yields : (send base c).Yields t result) :
    ∃ reply rest, t = ⟨.http (c.request base), reply⟩ :: rest := by
  obtain ⟨head, outcome, tail, rfl, attempted, -⟩ := Program.yields_bind.mp yields
  obtain ⟨reply, rfl, -⟩ := yields_attempt.mp attempted
  exact ⟨reply, _, rfl⟩

/-- A call reports what one of its attempts was answered. -/
theorem send_reports {result : Except OperatorError String}
    (yields : (send base c).Yields t result) :
    ∃ reply, Replied base c t reply ∧ Reports c reply result := by
  obtain ⟨head, outcome, tail, rfl, attempted, afterAttempt⟩ := Program.yields_bind.mp yields
  obtain ⟨reply, rfl, rfl⟩ := yields_attempt.mp attempted
  cases meaning : Attempt.ofReply c reply with
  | success body =>
      simp only [meaning] at afterAttempt
      obtain ⟨rfl, rfl⟩ := Program.yields_done.mp afterAttempt
      exact ⟨reply, List.mem_cons_self, succeeds_of_success meaning⟩
  | final e =>
      simp only [meaning] at afterAttempt
      obtain ⟨rfl, rfl⟩ := Program.yields_done.mp afterAttempt
      exact ⟨reply, List.mem_cons_self, .inr meaning⟩
  | retryable e =>
      simp only [meaning] at afterAttempt
      obtain ⟨left, rest, rfl, afterPatience⟩ := Program.yields_question_bind.mp afterAttempt
      rcases retry_reports afterPatience with ⟨rfl, rfl⟩ | ⟨later, repliedLater, reports⟩
      · exact ⟨reply, List.mem_cons_self, .inl meaning⟩
      · refine ⟨later, List.mem_append_right _ ?_, reports⟩
        exact List.mem_cons_of_mem _ repliedLater

/-- A call that fails with an absence has an answer with the status 404. -/
theorem send_notFound (yields : (send base c).Yields t (.error e)) (absent : e.isNotFound = true) :
    ∃ body, Replied base c t (.answered 404 body) := by
  obtain ⟨reply, replied, reports⟩ := send_reports yields
  obtain ⟨body, rfl⟩ := answered_of_failsWith reports absent
  exact ⟨body, replied⟩

/-! ## Answers with the status 404 -/

/-- The control plane answers a request with the status 404. -/
def AnswersNotFound (t : Exchange) : Prop :=
  ∃ request body, ⟨.http request, .answered 404 body⟩ ∈ t

theorem answersNotFound_append {first second : Exchange} :
    AnswersNotFound (first ++ second) ↔ AnswersNotFound first ∨ AnswersNotFound second := by
  simp only [AnswersNotFound, List.mem_append, exists_or]

/-- An attempt that is answered with the status 404 is the last one of its call. -/
theorem final_of_answersNotFound {outcome : Attempt} (attempted : (attempt base c).Yields t outcome)
    (absent : AnswersNotFound t) : ∃ e, outcome = .final e := by
  obtain ⟨reply, rfl, rfl⟩ := yields_attempt.mp attempted
  obtain ⟨request, body, answered⟩ := absent
  rcases List.mem_cons.mp answered with same | counted
  · cases same
    exact ⟨_, rfl⟩
  · cases List.mem_singleton.mp counted

/-- Attempts that end with success have no answer with the status 404 among them, as it would
have ended them. -/
theorem retry_not_answersNotFound {left : Nat} {first : OperatorError}
    (yields : (retry base c left first).Yields t (.ok body)) : ¬ AnswersNotFound t := by
  -- By induction on the attempts that are left; without any there is no success.
  induction left generalizing first t with
  | zero => cases (Program.yields_done.mp yields).2
  | succ left ih =>
      obtain ⟨head, outcome, tail, rfl, attempted, afterAttempt⟩ := Program.yields_bind.mp yields
      rw [answersNotFound_append]
      rintro (absent | absent)
      · obtain ⟨e, rfl⟩ := final_of_answersNotFound attempted absent
        cases (Program.yields_done.mp afterAttempt).2
      · cases outcome with
        | success text =>
            obtain ⟨rfl, -⟩ := Program.yields_done.mp afterAttempt
            simp [AnswersNotFound] at absent
        | final e => cases (Program.yields_done.mp afterAttempt).2
        | retryable e => exact ih afterAttempt absent

/-- A call that succeeds was never answered with the status 404. -/
theorem send_not_answersNotFound (yields : (send base c).Yields t (.ok body)) :
    ¬ AnswersNotFound t := by
  obtain ⟨head, outcome, tail, rfl, attempted, afterAttempt⟩ := Program.yields_bind.mp yields
  rw [answersNotFound_append]
  rintro (absent | absent)
  · obtain ⟨e, rfl⟩ := final_of_answersNotFound attempted absent
    cases (Program.yields_done.mp afterAttempt).2
  · cases outcome with
    | success text =>
        obtain ⟨rfl, -⟩ := Program.yields_done.mp afterAttempt
        simp [AnswersNotFound] at absent
    | final e => cases (Program.yields_done.mp afterAttempt).2
    | retryable e =>
        obtain ⟨left, rest, rfl, afterPatience⟩ := Program.yields_question_bind.mp afterAttempt
        refine retry_not_answersNotFound afterPatience ?_
        simpa [AnswersNotFound] using absent

section Asks

variable {P : Question → Prop}

/-- Whatever it is answered, a call asks for its request, and besides it counts and is patient. -/
theorem send_asks (request : P (.http (c.request base))) (count : ∀ event, P (.count event))
    (patience : ∀ peer, P (.patience peer)) : (send base c).Asks P := by
  have attempts : Program.Asks P (attempt base c) :=
    .ask request fun _ => .ask (count _) fun _ => .done _
  have retries (left : Nat) (e : OperatorError) : Program.Asks P (retry base c left e) := by
    induction left generalizing e with
    | zero => exact .done _
    | succ left ih =>
        refine Program.Asks.bind attempts fun outcome => ?_
        cases outcome with
        | success body => exact .done _
        | final e => exact .done _
        | retryable e => exact ih e
  refine Program.Asks.bind attempts fun outcome => ?_
  cases outcome with
  | success body => exact .done _
  | final e => exact .done _
  | retryable e => exact .ask (patience _) fun left => retries left e

theorem fetch_asks {d : Json.Decoder α} (request : P (.http (c.request base)))
    (count : ∀ event, P (.count event)) (patience : ∀ peer, P (.patience peer)) :
    (fetch base c d).Asks P :=
  Action.Asks.bind (send_asks request count patience) fun _ => .done _

theorem perform_asks (request : P (.http (c.request base))) (count : ∀ event, P (.count event))
    (patience : ∀ peer, P (.patience peer)) : (perform base c).Asks P :=
  Action.Asks.bind (send_asks request count patience) fun _ => .done _

end Asks

section Compared

variable {K : Program.Comparison Question.Answer} {c' : Call}
  (asked : K.Holds Eq (Work.http (c.request base)) (Work.http (c'.request base)))
  (count : ∀ event, K.Holds Eq (Work.count event) (Work.count event))
  (patience : ∀ peer, K.Holds Eq (Work.patience peer) (Work.patience peer))
  (method : c.method = c'.method) (resource : c.resource = c'.resource)
include asked count method resource

/-- One attempt compares with another of the same method and the same text for its resource, as
these decide what a reply means. -/
theorem attempt_compares : K.Holds Eq (attempt base c) (attempt base c') := by
  have meaning (reply : HttpReply) : Attempt.ofReply c reply = Attempt.ofReply c' reply := by
    unfold Attempt.ofReply
    rw [method, resource]
  refine K.bind_same asked fun reply => ?_
  rw [method, meaning]
  exact K.bind_same (count _) fun _ => K.done rfl

theorem retry_compares (left : Nat) (e : OperatorError) :
    K.Holds Eq (retry base c left e) (retry base c' left e) := by
  induction left generalizing e with
  | zero => exact K.done rfl
  | succ left ih =>
      refine K.bind_same (attempt_compares asked count method resource) fun outcome => ?_
      cases outcome with
      | success body => exact K.done rfl
      | final e => exact K.done rfl
      | retryable e => exact ih e

include patience

/-- Two calls that differ in their bodies alone report the same, if their requests are answered the
same. -/
theorem perform_compares : K.Holds Eq (perform base c).result (perform base c').result := by
  have sends : K.Holds Eq (send base c).result (send base c').result := by
    refine K.bind_same (attempt_compares asked count method resource) fun outcome => ?_
    cases outcome with
    | success body => exact K.done rfl
    | final e => exact K.done rfl
    | retryable e =>
        exact K.bind_same (patience _) fun left => retry_compares asked count method resource left e
  unfold perform
  rw [Action.result_bind, Action.result_bind]
  refine K.bind_same sends fun sent => ?_
  cases sent <;> exact K.done rfl

end Compared

/-! ## Documents -/

/-- A body that cannot be read counts as a failure in transport. -/
theorem readBody_error {resource : String} {d : Json.Decoder α}
    (failed : readBody resource d body = .error e) : ∃ text, e = .transport text := by
  dsimp only [readBody] at failed
  generalize (Json.parse? _).bind d = parsed at failed
  cases parsed with
  | some x => cases failed
  | none =>
      cases failed
      exact ⟨_, rfl⟩

/-- A document that a call is answered with stands in the body of an answer of success. -/
theorem fetch_ok {d : Json.Decoder α} {x : α} (yields : (fetch base c d).Yields t (.ok x)) :
    ∃ reply body, Replied base c t reply ∧ Succeeds reply body ∧
      readBody c.resource d body = .ok x := by
  obtain ⟨e, -, same⟩ | ⟨first, body, second, rfl, sent, afterSend⟩ := Action.yields_bind.mp yields
  · cases same
  · obtain ⟨reply, replied, reports⟩ := send_reports sent
    obtain ⟨rfl, same⟩ := Action.yields_ofExcept.mp afterSend
    exact ⟨reply, body, by simpa using replied, reports, same.symm⟩

/-- A call that is answered with an absence has an answer with the status 404. -/
theorem fetch_notFound {d : Json.Decoder α} (yields : (fetch base c d).Yields t (.error e))
    (absent : e.isNotFound = true) : ∃ body, Replied base c t (.answered 404 body) := by
  obtain ⟨e, sent, same⟩ | ⟨first, body, second, rfl, sent, afterSend⟩ :=
    Action.yields_bind.mp yields
  · cases same
    exact send_notFound sent absent
  · obtain ⟨rfl, same⟩ := Action.yields_ofExcept.mp afterSend
    obtain ⟨text, rfl⟩ := readBody_error same.symm
    cases absent

/-- To read what a call is answered with fails with an error of a call: one that a reply means,
or the body cannot be read. -/
theorem fetch_ofCall {d : Json.Decoder α} (yields : (fetch base c d).Yields t (.error e)) :
    e.OfCall := by
  obtain ⟨e, sent, same⟩ | ⟨first, body, second, rfl, sent, afterSend⟩ :=
    Action.yields_bind.mp yields
  · cases same
    obtain ⟨reply, -, reports⟩ := send_reports sent
    exact ofCall_of_failsWith reports
  · obtain ⟨rfl, same⟩ := Action.yields_ofExcept.mp afterSend
    obtain ⟨text, rfl⟩ := readBody_error same.symm
    exact .transport

/-- A call whose answer does not matter sends its request at least once. -/
theorem perform_first {result : Except OperatorError Unit}
    (yields : (perform base c).Yields t result) :
    ∃ reply rest, t = ⟨.http (c.request base), reply⟩ :: rest := by
  obtain ⟨e, sent, -⟩ | ⟨first, body, second, rfl, sent, -⟩ := Action.yields_bind.mp yields
  · exact send_first sent
  · obtain ⟨reply, rest, rfl⟩ := send_first sent
    exact ⟨reply, rest ++ second, rfl⟩

/-- A call whose answer does not matter fails with an absence only if it has an answer with the
status 404. -/
theorem perform_notFound (yields : (perform base c).Yields t (.error e))
    (absent : e.isNotFound = true) : ∃ body, Replied base c t (.answered 404 body) := by
  obtain ⟨e, sent, same⟩ | ⟨first, body, second, rfl, -, ending⟩ := Action.yields_bind.mp yields
  · cases same
    exact send_notFound sent absent
  · cases (Action.yields_pure.mp ending).2

theorem perform_ofCall (yields : (perform base c).Yields t (.error e)) : e.OfCall := by
  obtain ⟨e, sent, same⟩ | ⟨first, body, second, rfl, -, ending⟩ := Action.yields_bind.mp yields
  · cases same
    obtain ⟨reply, -, reports⟩ := send_reports sent
    exact ofCall_of_failsWith reports
  · cases (Action.yields_pure.mp ending).2

/-- A call whose answer does not matter was never answered with the status 404 if it succeeds. -/
theorem perform_not_answersNotFound (yields : (perform base c).Yields t (.ok ())) :
    ¬ AnswersNotFound t := by
  obtain ⟨e, -, same⟩ | ⟨first, body, second, rfl, sent, ending⟩ := Action.yields_bind.mp yields
  · cases same
  · obtain ⟨rfl, -⟩ := Action.yields_pure.mp ending
    rw [List.append_nil]
    exact send_not_answersNotFound sent

end ControlPlane

end ServiceOperator
