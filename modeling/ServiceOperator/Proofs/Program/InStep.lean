import ServiceOperator.Proofs.Program.Actions

/-!
# Programs in step

Two surroundings may differ in something that a program does not look at, or looks at without
minding.  `Twins` are two surroundings with a relation between their states, and `InStep` says that
two programs, run against one each from alike states, end in related results and in alike states
again.

Where both surroundings answer a question alike (`Twins.Agree`), a program that asks nothing else
goes the same way in both (`Asks.inStep`).  Where they do not, the two runs go on with different
answers, so that the relation is between two programs and not about one; `InStep.bind` carries it
on from there.

That a way to compare programs is carried on is all that many arguments need.  They are made once,
for every `Comparison`.

`Abreast` of the module `Proofs.Program.Abreast` is the other way to compare.  It names no
surroundings and no states.  `InStep` is the one to use where both runs act on a store, and the
store is what has to stay alike.
-/

namespace ServiceOperator

/-- Two results that fail alike, or succeed with related values. -/
inductive SameOutcome {ε α β : Type} (R : α → β → Prop) : Except ε α → Except ε β → Prop
  | ok {a : α} {b : β} (related : R a b) : SameOutcome R (.ok a) (.ok b)
  | error (e : ε) : SameOutcome R (.error e) (.error e)

theorem SameOutcome.refl {ε α : Type} {R : α → α → Prop} (related : ∀ a, R a a)
    (x : Except ε α) : SameOutcome R x x := by
  cases x with
  | ok a => exact .ok (related a)
  | error e => exact .error e

theorem SameOutcome.eq {ε α : Type} {x y : Except ε α} (same : SameOutcome Eq x y) : x = y := by
  cases same with
  | ok related => rw [related]
  | error e => rfl

namespace Program

variable {Q : Type} {A : Q → Type} {α β γ δ σ τ : Type}

/-- A way to compare two programs, given how their results compare, that is carried on from two
programs to what follows them. -/
structure Comparison (A : Q → Type) where
  Holds : {α β : Type} → (α → β → Prop) → Program Q A α → Program Q A β → Prop
  done : ∀ {α β : Type} {R : α → β → Prop} {a : α} {b : β}, R a b → Holds R (done a) (done b)
  bind : ∀ {α β γ δ : Type} {R : α → β → Prop} {S : γ → δ → Prop} {p : Program Q A α}
    {p' : Program Q A β} {f : α → Program Q A γ} {g : β → Program Q A δ}, Holds R p p' →
    (∀ a b, R a b → Holds S (f a) (g b)) → Holds S (p >>= f) (p' >>= g)

namespace Comparison

variable {K : Comparison A} {S : γ → δ → Prop}

/-- Where the first results are the same, both go on from it. -/
theorem bind_same {p p' : Program Q A α} {f : α → Program Q A γ} {g : α → Program Q A δ}
    (first : K.Holds Eq p p') (second : ∀ a, K.Holds S (f a) (g a)) :
    K.Holds S (p >>= f) (p' >>= g) := by
  refine K.bind first ?_
  rintro a _ rfl
  exact second a

end Comparison

/-- Two surroundings, and what their states have in common. -/
structure Twins (A : Q → Type) (σ τ : Type) where
  first : (q : Q) → σ → A q × σ
  second : (q : Q) → τ → A q × τ
  Alike : σ → τ → Prop

/-- From alike states a question gets related answers and leaves alike states. -/
def Twins.Relate (w : Twins A σ τ) (q : Q) (R : A q → A q → Prop) : Prop :=
  ∀ s t, w.Alike s t → R (w.first q s).1 (w.second q t).1 ∧ w.Alike (w.first q s).2 (w.second q t).2

/-- From alike states a question gets the same answer and leaves alike states. -/
abbrev Twins.Agree (w : Twins A σ τ) (q : Q) : Prop := w.Relate q Eq

/-- Run from alike states, two programs end in related results and in alike states. -/
def InStep (w : Twins A σ τ) (R : α → β → Prop) (p : Program Q A α) (p' : Program Q A β) : Prop :=
  ∀ s t, w.Alike s t → R (p.run w.first s).1 (p'.run w.second t).1 ∧
    w.Alike (p.run w.first s).2 (p'.run w.second t).2

variable {w : Twins A σ τ} {R : α → β → Prop} {S : γ → δ → Prop}

theorem InStep.done {a : α} {b : β} (related : R a b) :
    InStep w R (done a : Program Q A α) (done b) :=
  fun _ _ alike => ⟨related, alike⟩

/-- Programs in step that are followed by programs in step are in step. -/
theorem InStep.bind {p : Program Q A α} {p' : Program Q A β} {f : α → Program Q A γ}
    {g : β → Program Q A δ} (first : InStep w R p p')
    (second : ∀ a b, R a b → InStep w S (f a) (g b)) : InStep w S (p >>= f) (p' >>= g) := by
  intro s t alike
  rw [run_bind, run_bind]
  obtain ⟨related, alike⟩ := first s t alike
  exact second _ _ related _ _ alike

/-- To run in step is a way to compare programs. -/
def Twins.comparison (w : Twins A σ τ) : Comparison A where
  Holds := InStep w
  done := InStep.done
  bind := InStep.bind

/-- Where the first results are the same, both go on from it. -/
theorem InStep.bind_same {p p' : Program Q A α} {f : α → Program Q A γ} {g : α → Program Q A δ}
    (first : InStep w Eq p p') (second : ∀ a, InStep w S (f a) (g a)) :
    InStep w S (p >>= f) (p' >>= g) :=
  w.comparison.bind_same first second

theorem InStep.question {q : Q} {R : A q → A q → Prop} (answers : w.Relate q R) :
    InStep w R (question q) (question q) :=
  answers

/-- A program that asks only what is answered alike goes the same way in both surroundings. -/
theorem Asks.inStep {p : Program Q A α} (asks : p.Asks w.Agree) : InStep w Eq p p := by
  induction asks with
  | done a => exact .done rfl
  | ask agree rest ih => exact InStep.bind_same (InStep.question agree) ih

/-- If each question that a program may ask is worked out in step, so is the program. -/
theorem Asks.interpret_inStep {Q' : Type} {A' : Q' → Type} {w : Twins A' σ τ}
    {work : (q : Q) → Program Q' A' (A q)} {P : Q → Prop} {p : Program Q A α} (asks : p.Asks P)
    (each : ∀ q, P q → InStep w Eq (work q) (work q)) :
    InStep w Eq (p.interpret work) (p.interpret work) := by
  induction asks with
  | done a => exact .done rfl
  | ask asked rest ih => exact InStep.bind_same (each _ asked) ih

end Program

namespace Action

variable {α β γ δ : Type} {K : Program.Comparison Question.Answer} {R : α → β → Prop}
  {S : γ → δ → Prop}

/-- Two actions that go on with the values of others fail alike, or go on with related values. -/
theorem compares_bind {a : Action α} {b : Action β} {f : α → Action γ} {g : β → Action δ}
    (first : K.Holds (SameOutcome R) a.result b.result)
    (second : ∀ x y, R x y → K.Holds (SameOutcome S) (f x).result (g y).result) :
    K.Holds (SameOutcome S) (a >>= f).result (b >>= g).result := by
  rw [result_bind, result_bind]
  refine K.bind first ?_
  intro x y same
  cases same with
  | ok related => exact second _ _ related
  | error e => exact K.done (.error e)

/-- A part that is done only in one case, with the rest behind it. -/
theorem compares_when {b : Bool} {first first' : Action Unit} {a : Action γ} {a' : Action δ}
    {T : Unit → Unit → Prop} (comparesFirst : K.Holds (SameOutcome T) first.result first'.result)
    (comparesRest : K.Holds (SameOutcome S) a.result a'.result) :
    K.Holds (SameOutcome S) (if b then first >>= fun _ => a else a).result
      (if b then first' >>= fun _ => a' else a').result := by
  split
  · exact compares_bind comparesFirst fun _ _ _ => comparesRest
  · exact comparesRest

/-- Work that cannot fail, as a part of two actions. -/
theorem compares_lift {w : Work α} {w' : Work β} (compares : K.Holds R w w') :
    K.Holds (SameOutcome R) (liftM w : Action α).result (liftM w' : Action β).result :=
  K.bind compares fun _ _ related => K.done (.ok related)

end Action

/-- An action that goes on with the value of another fails alike in both surroundings, or goes on
with related values. -/
theorem Action.inStep_bind {α β σ τ : Type} {w : Program.Twins Question.Answer σ τ}
    {R : α → α → Prop} {a : Action α} {f : α → Action β}
    (first : Program.InStep w (SameOutcome R) a.result a.result)
    (second : ∀ x y, R x y → Program.InStep w Eq (f x).result (f y).result) :
    Program.InStep w Eq (a >>= f).result (a >>= f).result := by
  rw [Action.result_bind]
  refine Program.InStep.bind first ?_
  intro x y same
  cases same with
  | ok related => exact second _ _ related
  | error e => exact .done rfl

end ServiceOperator
