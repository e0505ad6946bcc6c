import Mathlib.Data.List.Forall2
import ServiceOperator.Proofs.Program.InStep

/-!
# Programs abreast

What a program does may depend on something only where it is meant to.  To say so, two runs are
compared in which that something differs: their questions have to be alike, as long as their answers
are.  A `Likeness` says which questions are alike, and which answers to them.

`Abreast` says of two programs that they ask alike questions, and from alike answers go on abreast,
until they end in related results.  It names no surroundings: `Abreast.yields` is about any two
lists of answers that are alike for as long as the questions are.

### Alike as long as they are asked

The condition on the answers cannot be about two lists as such: once the questions differ, nothing
is known of what their answers have to do with each other.  So `Likeness.Answered` is about each
answer behind questions that have been alike so far, and `Likeness.Asked`, that they are alike to
the end, is part of what `Abreast.yields` proves.
-/

namespace ServiceOperator

namespace Program

variable {Q : Type} {A : Q → Type} {α β γ δ : Type}

/-- What counts as alike: two questions, and two answers to them. -/
structure Likeness (A : Q → Type) where
  Questions : Q → Q → Prop
  Answers : (q q' : Q) → A q → A q' → Prop

/-- Two programs ask alike questions and go on abreast from alike answers, until they end in related
results. -/
inductive Abreast (l : Likeness A) (R : α → β → Prop) : Program Q A α → Program Q A β → Prop
  | done {a : α} {b : β} (related : R a b) : Abreast l R (.done a) (.done b)
  | ask {q q' : Q} {next : A q → Program Q A α} {next' : A q' → Program Q A β}
      (alike : l.Questions q q')
      (rest : ∀ x y, l.Answers q q' x y → Abreast l R (next x) (next' y)) :
      Abreast l R (.ask q next) (.ask q' next')

namespace Likeness

/-- The answers are alike for as long as the questions are. -/
def Answered (l : Likeness A) : List (Sigma A) → List (Sigma A) → Prop
  | x :: t, y :: t' => l.Questions x.1 y.1 → l.Answers x.1 y.1 x.2 y.2 ∧ l.Answered t t'
  | _, _ => True

/-- The questions are alike from the first to the last. -/
abbrev Asked (l : Likeness A) (t t' : List (Sigma A)) : Prop :=
  List.Forall₂ (fun x y => l.Questions x.1 y.1) t t'

/-- A question that is like itself, and has no alike answers but equal ones. -/
def Exact (l : Likeness A) (q : Q) : Prop :=
  l.Questions q q ∧ ∀ x y, l.Answers q q x y → x = y

/-- The same, except that of two answers the first has to satisfy a condition, too. -/
def given (l : Likeness A) (P : (q : Q) → A q → Prop) : Likeness A where
  Questions := l.Questions
  Answers q q' x y := l.Answers q q' x y ∧ P q x

/-- Answers that are alike, and of which the first ones satisfy a condition, are alike under it. -/
theorem Answered.given {l : Likeness A} {P : (q : Q) → A q → Prop} {t t' : List (Sigma A)}
    (answered : l.Answered t t') (holds : ∀ entry ∈ t, P entry.1 entry.2) :
    (l.given P).Answered t t' := by
  induction t generalizing t' with
  | nil => trivial
  | cons x t ih =>
      obtain ⟨holdsFirst, holdsLater⟩ := List.forall_mem_cons.mp holds
      cases t' with
      | nil => trivial
      | cons y t' =>
          intro alike
          obtain ⟨same, later⟩ := answered alike
          exact ⟨⟨same, holdsFirst⟩, ih later holdsLater⟩

/-- If two surroundings without a state give alike answers to alike questions, so they do along the
runs of two programs. -/
theorem answered_trace {l : Likeness A} {answer answer' : (q : Q) → A q}
    (alike : ∀ q q', l.Questions q q' → l.Answers q q' (answer q) (answer' q'))
    (p : Program Q A α) (p' : Program Q A β) :
    l.Answered (p.trace (fun q (_ : Unit) => (answer q, ())) ())
      (p'.trace (fun q (_ : Unit) => (answer' q, ())) ()) := by
  induction p generalizing p' with
  | done a => trivial
  | ask q next ih =>
      cases p' with
      | done b => trivial
      | ask q' next' => exact fun same => ⟨alike q q' same, ih _ _⟩

end Likeness

namespace Abreast

variable {l : Likeness A} {R : α → β → Prop} {S : γ → δ → Prop} {p : Program Q A α}
  {p' : Program Q A β}

/-- **Programs abreast tell nothing apart.**  Where the answers are alike for as long as the
questions are, the questions are alike to the end, and so are the results. -/
theorem yields {t t' : List (Sigma A)} {a : α} {b : β} (abreast : Abreast l R p p')
    (first : p.Yields t a) (second : p'.Yields t' b) (answered : l.Answered t t') :
    l.Asked t t' ∧ R a b := by
  induction abreast generalizing t t' with
  | done related =>
      obtain ⟨rfl, rfl⟩ := yields_done.mp first
      obtain ⟨rfl, rfl⟩ := yields_done.mp second
      exact ⟨.nil, related⟩
  | ask alike rest ih =>
      obtain ⟨x, t, rfl, firstRest⟩ := yields_ask.mp first
      obtain ⟨y, t', rfl, secondRest⟩ := yields_ask.mp second
      obtain ⟨same, later⟩ := answered alike
      obtain ⟨asked, related⟩ := ih x y same firstRest secondRest later
      exact ⟨.cons alike asked, related⟩

theorem bind {f : α → Program Q A γ} {g : β → Program Q A δ} (first : Abreast l R p p')
    (second : ∀ a b, R a b → Abreast l S (f a) (g b)) : Abreast l S (p >>= f) (p' >>= g) := by
  induction first with
  | done related => exact second _ _ related
  | ask alike rest ih => exact .ask alike ih

theorem mono {T : α → β → Prop} (abreast : Abreast l R p p') (weaker : ∀ a b, R a b → T a b) :
    Abreast l T p p' := by
  induction abreast with
  | done related => exact .done (weaker _ _ related)
  | ask alike rest ih => exact .ask alike ih

/-- Fewer answers to go on from are easier to keep abreast from. -/
theorem given {P : (q : Q) → A q → Prop} (abreast : Abreast l R p p') :
    Abreast (l.given P) R p p' := by
  induction abreast with
  | done related => exact .done related
  | ask alike rest ih => exact .ask alike fun x y same => ih x y same.1

/-- Questions that are worked out abreast keep a program abreast. -/
theorem interpret {Q' : Type} {A' : Q' → Type} {l' : Likeness A'}
    {work : (q : Q) → Program Q' A' (A q)} (abreast : Abreast l R p p')
    (each : ∀ q q', l.Questions q q' → Abreast l' (l.Answers q q') (work q) (work q')) :
    Abreast l' R (p.interpret work) (p'.interpret work) := by
  induction abreast with
  | done related => exact .done related
  | ask alike rest ih => exact Abreast.bind (each _ _ alike) ih

end Abreast

/-- To go abreast is a way to compare programs. -/
def Likeness.comparison (l : Likeness A) : Comparison A where
  Holds := Abreast l
  done := .done
  bind := Abreast.bind

/-- A program that asks only what has no alike answers but equal ones keeps abreast of itself. -/
theorem Asks.abreast {l : Likeness A} {p : Program Q A α} (asks : p.Asks l.Exact) :
    Abreast l Eq p p := by
  induction asks with
  | done a => exact .done rfl
  | ask exact rest ih =>
      refine .ask exact.1 fun x y same => ?_
      obtain rfl := exact.2 x y same
      exact ih x

end Program

namespace Action

variable {α β γ δ : Type} {l : Program.Likeness Question.Answer} {R : α → β → Prop}
  {S : γ → δ → Prop}

/-- Two actions that go on abreast with the values of others. -/
theorem bind_abreast {a : Action α} {b : Action β} {f : α → Action γ} {g : β → Action δ}
    (first : Program.Abreast l (SameOutcome R) a.result b.result)
    (second : ∀ x y, R x y → Program.Abreast l (SameOutcome S) (f x).result (g y).result) :
    Program.Abreast l (SameOutcome S) (a >>= f).result (b >>= g).result :=
  compares_bind (K := l.comparison) first second

/-- Work that cannot fail, as a part of two actions. -/
theorem lift_abreast {w : Work α} {w' : Work β} (abreast : Program.Abreast l R w w') :
    Program.Abreast l (SameOutcome R) (liftM w : Action α).result (liftM w' : Action β).result :=
  compares_lift (K := l.comparison) abreast

end Action

/-- An action that asks only what is answered alike fails alike, or ends in the same. -/
theorem Action.Asks.abreast {α : Type} {l : Program.Likeness Question.Answer} {a : Action α}
    (asks : a.Asks l.Exact) : Program.Abreast l (SameOutcome Eq) a.result a.result := by
  refine (Program.Asks.abreast asks).mono ?_
  rintro x _ rfl
  exact .refl (fun _ => rfl) x

end ServiceOperator
