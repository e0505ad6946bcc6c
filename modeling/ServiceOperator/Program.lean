/-!
# Programs that ask their surroundings

A program either is done or asks a question and goes on with the answer. What a program does is
therefore a value: it can be run against any surroundings that answer its questions (`run`), each
of its questions can be worked out by another program (`interpret`), and what it asks on the way
can be listed (`trace`).
-/

namespace ServiceOperator

/-- A computation that asks questions `q : Q`, each answered by a value of `A q`. -/
inductive Program (Q : Type) (A : Q → Type) (α : Type) where
  | done (result : α)
  | ask (question : Q) (next : A question → Program Q A α)

namespace Program

variable {Q : Type} {A : Q → Type} {α β γ : Type}

/-- Runs a second program on the result of a first. -/
def bind : Program Q A α → (α → Program Q A β) → Program Q A β
  | done a, f => f a
  | ask q next, f => ask q fun a => (next a).bind f

instance : Monad (Program Q A) where
  pure := done
  bind := bind

/-- The program that asks one question and returns the answer. -/
def question (q : Q) : Program Q A (A q) :=
  ask q done

@[simp] theorem pure_def (a : α) : (pure a : Program Q A α) = done a := rfl

@[simp] theorem done_bind (a : α) (f : α → Program Q A β) : (done a >>= f) = f a := rfl

@[simp] theorem ask_bind (q : Q) (next : A q → Program Q A α) (f : α → Program Q A β) :
    (ask q next >>= f) = ask q fun a => next a >>= f := rfl

theorem bind_done (p : Program Q A α) : (p >>= done) = p := by
  induction p with
  | done a => rfl
  | ask q next ih => simp [ih]

theorem bind_assoc (p : Program Q A α) (f : α → Program Q A β) (g : β → Program Q A γ) :
    (p >>= f >>= g) = p >>= fun a => f a >>= g := by
  induction p with
  | done a => rfl
  | ask q next ih => simp [ih]

/-- Runs a program against surroundings with a state, each question answered in turn. -/
def run {σ : Type} (answer : (q : Q) → σ → A q × σ) : Program Q A α → σ → α × σ
  | done a, s => (a, s)
  | ask q next, s =>
    let (a, s) := answer q s
    (next a).run answer s

/-- Each question worked out by a program of other questions. -/
def interpret {Q' : Type} {A' : Q' → Type} (work : (q : Q) → Program Q' A' (A q)) :
    Program Q A α → Program Q' A' α
  | done a => done a
  | ask q next => (work q).bind fun a => (next a).interpret work

/-- The questions that a run asks, in order, each with its answer. -/
def trace {σ : Type} (answer : (q : Q) → σ → A q × σ) : Program Q A α → σ → List (Sigma A)
  | done _, _ => []
  | ask q next, s =>
    let (a, s) := answer q s
    ⟨q, a⟩ :: (next a).trace answer s

@[simp] theorem run_done {σ : Type} (answer : (q : Q) → σ → A q × σ) (a : α) (s : σ) :
    (done a).run answer s = (a, s) := rfl

theorem run_bind {σ : Type} (answer : (q : Q) → σ → A q × σ) (p : Program Q A α)
    (f : α → Program Q A β) (s : σ) :
    (p >>= f).run answer s = (f (p.run answer s).1).run answer (p.run answer s).2 := by
  induction p generalizing s with
  | done a => rfl
  | ask q next ih => simpa [run] using ih (answer q s).1 (answer q s).2

end Program

end ServiceOperator
