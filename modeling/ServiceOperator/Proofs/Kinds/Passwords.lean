import ServiceOperator.Proofs.Kinds.Frames
import ServiceOperator.Proofs.Pass.Application

/-!
# Which passwords are sent to a user

A user whose record has a source secret gets its password by a request that resets its credentials.
Only a create and an update send such a request (`answer_asks_noReset`), and both do it at their
end: they read the secret, send what they read, and succeed only if that succeeds
(`applyPassword_course`).  So an update that fails may still have sent a password, and one that
succeeds has sent one.

A password is read off the exchange and not off the call, for two reasons.  A request may be tried
several times, and the control plane may have taken it although its answer was lost.  So what is
followed here is the last password that was sent to a target (`lastPassword`), and every lemma about
a call says what it sends whether or not the call succeeds.
-/

namespace ServiceOperator

open ControlPlane

/-! ## Requests that reset credentials -/

namespace Question

/-- A request to the control plane that resets the credentials of a user. -/
def resets : Question → Bool
  | .http request =>
    (request.body.bind (·.get? "operation")).bind Json.text? = some "reset-credentials"
  | _ => false

/-- The password that a request sets for the user at a target. -/
def password? (target : String) : Question → Option String
  | .http request =>
    if Question.resets (.http request) && request.target = target then
      (request.body.bind (·.get? "new_password")).bind Json.text?
    else none
  | _ => none

/-- Nothing but a reset sets a password. -/
theorem password?_of_not_resets {q : Question} {target : String} (other : q.resets = false) :
    q.password? target = none := by
  cases q with
  | http request => simp [password?, other]
  | _ => rfl

end Question

/-- No credentials are reset in an exchange. -/
def ResetsNothing (t : Exchange) : Prop :=
  ∀ entry ∈ t, entry.1.resets = false

/-- The last password that an exchange sends to the user at a target. -/
def lastPassword (target : String) (t : Exchange) : Option String :=
  (t.filterMap fun entry => entry.1.password? target).getLast?

section Exchange

variable {target : String} {t first second : Exchange}

theorem ResetsNothing.append (nothing : ResetsNothing first) (nothingLater : ResetsNothing second) :
    ResetsNothing (first ++ second) :=
  List.forall_mem_append.mpr ⟨nothing, nothingLater⟩

theorem lastPassword_append :
    lastPassword target (first ++ second) =
      (lastPassword target second).or (lastPassword target first) := by
  rw [lastPassword, List.filterMap_append, List.getLast?_append]
  rfl

/-- Without a reset no password is sent. -/
theorem ResetsNothing.lastPassword (nothing : ResetsNothing t) : lastPassword target t = none := by
  have none : (t.filterMap fun entry => entry.1.password? target) = [] := by
    refine List.filterMap_eq_nil_iff.mpr ?_
    intro entry member
    exact Question.password?_of_not_resets (nothing entry member)
  rw [ServiceOperator.lastPassword, none]
  rfl

/-- Where the last password is sent, credentials are reset. -/
theorem not_resetsNothing {password : String} (last : lastPassword target t = some password) :
    ¬ ResetsNothing t := by
  intro nothing
  rw [nothing.lastPassword] at last
  cases last

/-- A password stays the last one through whatever resets nothing behind it. -/
theorem lastPassword_of_append {password : String} (last : lastPassword target t = some password)
    (nothing : ResetsNothing second) :
    lastPassword target (first ++ (t ++ second)) = some password := by
  rw [lastPassword_append, lastPassword_append, nothing.lastPassword, last]
  rfl

end Exchange

/-- Looking things up resets nothing. -/
theorem permitsReading_noReset : PermitsReading fun q => q.resets = false where
  get _ := rfl
  read _ := rfl
  patience _ := rfl
  count _ := rfl

/-! ## The source secret -/

namespace Record

variable {r : Record} {t before : Exchange} {value : String}

/-- Somewhere in an exchange the source secret of a record is read, with a value. -/
def FindsIn (r : Record) (t : Exchange) (value : String) : Prop :=
  ∃ before read after found, t = before ++ (read ++ after) ∧
    r.readSource.Yields read (.ok (some found)) ∧ found.value = value

theorem FindsIn.behind (finds : r.FindsIn t value) : r.FindsIn (before ++ t) value := by
  obtain ⟨earlier, read, after, found, rfl, reads, same⟩ := finds
  exact ⟨before ++ earlier, read, after, found, by simp, reads, same⟩

/-- A record with a source secret reads a value from it or fails, and the value comes with its
fingerprint. -/
theorem readSource_some {found : Option SourceValue} (sourced : r.secretSource?.isSome = true)
    (yields : r.readSource.Yields t (.ok found)) :
    ∃ value, found = some value ∧
      value.fingerprint = fingerprint (r.metadata.uid.getD "") value.value := by
  unfold readSource at yields
  split at yields
  case h_1 unsourced =>
      rw [unsourced] at sourced
      cases sourced
  case h_2 source _ =>
      obtain ⟨e, -, same⟩ | ⟨first, secret, second, rfl, -, afterRead⟩ :=
        Action.yields_bind.mp yields
      · cases same
      · cases secret with
        | none => cases (Action.yields_fail.mp afterRead).2
        | some secret =>
            obtain ⟨e, -, same⟩ | ⟨first, value, second, rfl, valued, ending⟩ :=
              Action.yields_bind.mp afterRead
            · cases same
            · obtain ⟨-, same⟩ := Action.yields_pure.mp ending
              obtain ⟨-, valued⟩ := Action.yields_ofExcept.mp valued
              cases same
              refine ⟨value, rfl, ?_⟩
              unfold SourceValue.ofSecret at valued
              split at valued
              · cases valued
                rfl
              · cases valued

end Record

/-! ## The password of a user -/

namespace ServiceUserSpec

variable {base : Url} {r : Record} {s : ServiceUserSpec} {t : Exchange} {username : String}

/-- The request that gives a user a password. -/
def resetCall (s : ServiceUserSpec) (username password : String) : ControlPlane.Call :=
  ⟨.put, userPath s.project s.serviceName username,
    some (ModifyUser.resetCredentials (some password)).encode, userText username s.serviceName⟩

/-- The target of the requests for a user. -/
def target (base : Url) (s : ServiceUserSpec) (username : String) : String :=
  base.target (userPath s.project s.serviceName username)

/-- The request that gives a user a password sends it to that user. -/
theorem password?_resetCall {password : String} :
    Question.password? (s.target base username)
      (.http ((s.resetCall username password).request base)) = some password := by
  have resets : Question.resets (.http ((s.resetCall username password).request base)) = true := rfl
  rw [Question.password?, resets]
  simp only [resetCall, Call.request, target, Bool.true_and, decide_true, if_true]
  rfl

/-- However often the request is sent, it sends one password. -/
theorem lastPassword_resetCall {password : String} {result : Except OperatorError Unit}
    (performed : (perform base (s.resetCall username password)).Yields t result) :
    lastPassword (s.target base username) t = some password := by
  let sets (q : Question) : Option String := q.password? (s.target base username)
  have asks : (perform base (s.resetCall username password)).Asks fun q =>
      ∀ other, sets q = some other → other = password := by
    refine perform_asks ?_ (fun _ _ impossible => by cases impossible)
      (fun _ _ impossible => by cases impossible)
    intro other same
    exact Option.some.inj (same.symm.trans password?_resetCall)
  have only : ∀ other ∈ t.filterMap (fun entry => sets entry.1), other = password := by
    intro other sent
    obtain ⟨entry, member, same⟩ := List.mem_filterMap.mp sent
    exact asks.of_mem performed entry member other same
  obtain ⟨reply, later, rfl⟩ := perform_first performed
  cases last : lastPassword (s.target base username) _ with
  | none =>
      have nothing := List.getLast?_eq_none_iff.mp last
      rw [List.filterMap_cons, password?_resetCall] at nothing
      cases nothing
  | some other => rw [only other (List.mem_of_getLast? last)]

/-! ## The calls of a pass -/

/-- Only a create and an update reset credentials. -/
theorem answer_asks_noReset {c : ServiceOperator.Call UserDocument} (rests : c.applies = false) :
    Program.Asks (fun q => q.resets = false) ((s.adapter base r).answer c) := by
  have reading := permitsReading_noReset
  cases c with
  | sourceFingerprint => exact reading.currentFingerprint r
  | checkPreconditions => exact reading.ensureDependencies base r
  | create => cases rests
  | update => cases rests
  | get id => exact reading.fetch
  | delete id => exact perform_asks rfl (fun _ => rfl) (fun _ => rfl)
  | connectionInfo remote =>
      refine Action.Asks.bind reading.fetch fun service => ?_
      exact Action.Asks.bind reading.fetch fun _ => Action.asks_ofExcept

/-- Giving a user its password sends what is read, or fails before it sends anything. -/
theorem applyPassword_course {result : Except OperatorError Unit}
    (sourced : r.secretSource?.isSome = true)
    (yields : (s.applyPassword base r username).Yields t result) :
    ((∃ e, result = .error e) ∧ ResetsNothing t) ∨
      ∃ password, lastPassword (s.target base username) t = some password ∧
        r.FindsIn t password := by
  have quiet : r.readSource.Asks fun q => q.resets = false := permitsReading_noReset.readSource r
  obtain ⟨e, failed, rfl⟩ | ⟨read, found, sent, rfl, found?, afterRead⟩ :=
    Action.yields_bind.mp yields
  · exact .inl ⟨⟨e, rfl⟩, quiet.of_mem failed⟩
  · obtain ⟨value, rfl, -⟩ := Record.readSource_some sourced found?
    have last : lastPassword (s.target base username) sent = some value.value :=
      lastPassword_resetCall afterRead
    refine .inr ⟨value.value, ?_, [], read, sent, value, rfl, found?, rfl⟩
    rw [lastPassword_append, last]
    rfl

/-- An update that fails may have sent a password.  One that succeeds has sent one. -/
theorem update_sends {id : String} {result : Except OperatorError Unit}
    (sourced : r.secretSource?.isSome = true)
    (yields : ((s.adapter base r).update id).Yields t result) :
    ((∃ e, result = .error e) ∧ ResetsNothing t) ∨
      ∃ password, lastPassword (s.target base id) t = some password ∧ r.FindsIn t password := by
  unfold adapter at yields
  dsimp only at yields
  split at yields
  case h_1 authentication _ =>
      have quiet : (modifyUser base s.project s.serviceName id
          (.setAuthentication authentication)).Asks fun q => q.resets = false :=
        perform_asks rfl (fun _ => rfl) (fun _ => rfl)
      obtain ⟨e, failed, rfl⟩ | ⟨first, u, second, rfl, modified, applied⟩ :=
        Action.yields_bind.mp yields
      · exact .inl ⟨⟨e, rfl⟩, quiet.of_mem failed⟩
      · have nothing : ResetsNothing first := quiet.of_mem modified
        rcases applyPassword_course sourced applied with ⟨failed, nothingLater⟩ |
            ⟨password, last, found⟩
        · exact .inl ⟨failed, nothing.append nothingLater⟩
        · refine .inr ⟨password, ?_, found.behind⟩
          rw [lastPassword_append, last]
          rfl
  case h_2 => exact applyPassword_course sourced yields

/-- A create that succeeds has sent a password to the user that it made. -/
theorem create_sends {id : String} (sourced : r.secretSource?.isSome = true)
    (yields : (s.adapter base r).create.Yields t (.ok id)) :
    ∃ password, lastPassword (s.target base id) t = some password ∧ r.FindsIn t password := by
  obtain ⟨e, -, same⟩ | ⟨first, user, second, rfl, made, afterMade⟩ := Action.yields_bind.mp yields
  · cases same
  · obtain ⟨e, -, same⟩ | ⟨applying, u, rest, rfl, applied, ending⟩ :=
      Action.yields_bind.mp afterMade
    · cases same
    · obtain ⟨rfl, same⟩ := Action.yields_pure.mp ending
      cases same
      rcases applyPassword_course sourced applied with ⟨⟨e, failed⟩, -⟩ | ⟨password, last, found⟩
      · cases failed
      · refine ⟨password, ?_, ?_⟩
        · rw [List.append_nil, lastPassword_append, last]
          rfl
        · rw [List.append_nil]
          exact found.behind

end ServiceUserSpec

end ServiceOperator
