import ServiceOperator.Proofs.Program.Yields
import ServiceOperator.World

/-!
# What an action asks, and what it can come to

An action is a program whose result may be an error.  `Action.Yields` and `Action.Asks` are
`Program.Yields` and `Program.Asks` of that program, and the lemmas here let both be worked out
along the text of an action: where a step fails, all that follows is left out.

To rewrite with them turns a statement about an action into one about the exchanges of its steps, in
the order in which they are written.
-/

namespace ServiceOperator

/-- Surroundings without a state, in which each peer answers by a function.  They have no patience,
and it is always the same time. -/
def Question.answerBy (http : HttpRequest → HttpReply) (kube : KubeRequest → KubeReply) :
    (q : Question) → q.Answer
  | .http request => http request
  | .kube request => kube request
  | .patience _ => 0
  | .now => ⟨0, 0⟩
  | .acquire _ => ()
  | .release _ => ()
  | .count _ => ()

/-- What is asked, with the answers. -/
abbrev Exchange := List (Sigma Question.Answer)

namespace Action

variable {α β : Type} {a : Action α} {f : α → Action β} {t : Exchange} {r : Except OperatorError β}

/-- Asked along an exchange, an action comes to a result. -/
abbrev Yields (a : Action α) (t : Exchange) (r : Except OperatorError α) : Prop :=
  Program.Yields a.result t r

/-- Whatever it is answered, an action asks only questions that satisfy `P`. -/
abbrev Asks (P : Question → Prop) (a : Action α) : Prop :=
  Program.Asks P a.result

theorem yields_pure {x : α} {r : Except OperatorError α} :
    (pure x : Action α).Yields t r ↔ t = [] ∧ r = .ok x :=
  Program.yields_done

theorem yields_ofExcept {x r : Except OperatorError α} :
    (ofExcept x).Yields t r ↔ t = [] ∧ r = x :=
  Program.yields_done

theorem yields_fail {e : OperatorError} {r : Except OperatorError α} :
    (fail e : Action α).Yields t r ↔ t = [] ∧ r = .error e :=
  Program.yields_done

/-- The program of two actions is the program of the first, followed by that of the second if the
first has a value. -/
theorem result_bind : (a >>= f).result = a.result >>= fun x =>
    match x with
    | .ok x => (f x).result
    | .error e => Program.done (.error e) := by
  change (a >>= f).run = _
  rw [ExceptT.run_bind]
  congr 1
  funext x
  cases x <;> rfl

/-- An action that goes on with the result of another fails with it, or goes on. -/
theorem yields_bind :
    (a >>= f).Yields t r ↔
      (∃ e, a.Yields t (.error e) ∧ r = .error e) ∨
      ∃ first x second, t = first ++ second ∧ a.Yields first (.ok x) ∧ (f x).Yields second r := by
  rw [Yields, result_bind, Program.yields_bind]
  constructor
  · rintro ⟨first, x, second, rfl, head, tail⟩
    cases x with
    | ok x => exact .inr ⟨first, x, second, rfl, head, tail⟩
    | error e =>
        obtain ⟨rfl, rfl⟩ := Program.yields_done.mp tail
        exact .inl ⟨e, by simpa using head, rfl⟩
  · rintro (⟨e, head, rfl⟩ | ⟨first, x, second, rfl, head, tail⟩)
    · exact ⟨t, .error e, [], by simp, head, .done _⟩
    · exact ⟨first, .ok x, second, rfl, head, tail⟩

/-- An action that only works its result over. -/
theorem yields_map {g : α → β} :
    (a >>= fun x => pure (g x)).Yields t r ↔ ∃ x, a.Yields t x ∧ r = x.map g := by
  rw [yields_bind]
  constructor
  · rintro (⟨e, head, rfl⟩ | ⟨first, x, second, rfl, head, tail⟩)
    · exact ⟨.error e, head, rfl⟩
    · obtain ⟨rfl, rfl⟩ := yields_pure.mp tail
      exact ⟨.ok x, by simpa using head, rfl⟩
  · rintro ⟨x, head, rfl⟩
    cases x with
    | error e => exact .inl ⟨e, head, rfl⟩
    | ok x => exact .inr ⟨t, x, [], by simp, head, yields_pure.mpr ⟨rfl, rfl⟩⟩

/-- Such an action fails as it does without the working over. -/
theorem yields_map_error {g : α → β} {e : OperatorError} :
    (a >>= fun x => pure (g x)).Yields t (.error e) ↔ a.Yields t (.error e) := by
  rw [yields_map]
  constructor
  · rintro ⟨x, head, same⟩
    cases x with
    | ok x => cases same
    | error e' =>
        cases same
        exact head
  · exact fun failed => ⟨.error e, failed, rfl⟩

/-- Work that cannot fail, as a part of an action. -/
theorem yields_lift_bind {w : Work α} :
    ((liftM w : Action α) >>= f).Yields t r ↔
      ∃ first x second, t = first ++ second ∧ w.Yields first x ∧ (f x).Yields second r := by
  have lifted : (liftM w : Action α).result = w >>= fun x => Program.done (.ok x) := rfl
  rw [Yields, result_bind, lifted, Program.bind_assoc, Program.yields_bind]
  rfl

/-- A part that is done only in one case, on the way to a result. -/
theorem yields_when {b : Bool} {first : Action Unit} {x : α}
    (yields : (if b then first >>= fun _ => a else a).Yields t (.ok x)) :
    (b = true → ∃ done ⊆ t, first.Yields done (.ok ())) ∧ ∃ rest ⊆ t, a.Yields rest (.ok x) := by
  cases b with
  | false => exact ⟨nofun, t, List.Subset.refl t, yields⟩
  | true =>
      rw [if_pos rfl] at yields
      obtain ⟨e, -, failed⟩ | ⟨done, u, rest, rfl, did, yields⟩ := yields_bind.mp yields
      · cases failed
      · exact ⟨fun _ => ⟨done, List.subset_append_left .., did⟩, rest,
          List.subset_append_right .., yields⟩

section Asks

variable {P : Question → Prop}

theorem asks_pure {x : α} : (pure x : Action α).Asks P := .done _

theorem asks_ofExcept {x : Except OperatorError α} : (ofExcept x).Asks P := .done _

theorem asks_fail {e : OperatorError} : (fail e : Action α).Asks P := .done _

/-- Two actions, one behind the other, ask what each of them may. -/
theorem Asks.bind (first : a.Asks P) (second : ∀ x, (f x).Asks P) : (a >>= f).Asks P := by
  rw [Asks, result_bind]
  refine Program.Asks.bind first fun result => ?_
  cases result with
  | ok x => exact second x
  | error e => exact .done _

/-- A part that is done only in one case, with the rest behind it. -/
theorem asks_when {b : Bool} {first : Action Unit} (asksFirst : first.Asks P)
    (asksRest : a.Asks P) : (if b then first >>= fun _ => a else a).Asks P := by
  split
  · exact Asks.bind asksFirst fun _ => asksRest
  · exact asksRest

theorem Asks.lift {w : Work α} (asks : Program.Asks P w) : (liftM w : Action α).Asks P :=
  Program.Asks.bind asks fun _ => .done _

end Asks

end Action

end ServiceOperator
