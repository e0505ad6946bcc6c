import ServiceOperator.Program

/-!
# What a program can ask, and what it can come to

`Program.run` fixes one way of answering; a statement about every adapter or every peer is about all
of them.  `Yields p t b` is the relation behind both: asked along `t`, a list of questions with
their answers, the program `p` ends in `b`.  An answer is free at every question, and may differ
between two questions that are alike, so `Yields` covers surroundings with any hidden state.

* `yields_iff_exists_run` pins it down: the lists and results that a program yields are exactly the
  traces and results of its runs against some surroundings.
* `Yields.unique` says that the answers leave a program no choice: along one list of them it ends
  at one point and in one result.
* `yields_bind` cuts a list where one program hands over to the next, and `yields_interpret` cuts
  it at the questions of the outer program.
* `Asks P p` says that `p` asks only questions that satisfy `P`, whatever it is answered.  It is
  the frame condition: what a part of a program never asks need not be looked for in its lists.

### Possibility and necessity

A statement that some answers lead to a result is a derivation of `Yields`.  A statement about all
answers is a case split over such derivations, and a list that the program cannot ask along has
none.  The engine asks its adapter, and the adapters and the reconcile loop ask their peers; all of
them are programs, so the relation and the lemmas that cut a list are the same.
-/

namespace ServiceOperator

namespace Program

variable {Q : Type} {A : Q → Type} {α β : Type}

/-- Asked along a list of questions with their answers, a program ends in a result. -/
inductive Yields : Program Q A α → List (Sigma A) → α → Prop
  | done (a : α) : Yields (.done a) [] a
  | ask {q : Q} {next : A q → Program Q A α} {answer : A q} {t : List (Sigma A)} {b : α}
      (rest : Yields (next answer) t b) : Yields (.ask q next) (⟨q, answer⟩ :: t) b

/-- A program that is done asks nothing. -/
@[simp] theorem yields_done {a b : α} {t : List (Sigma A)} :
    (done a : Program Q A α).Yields t b ↔ t = [] ∧ b = a := by
  constructor
  · intro h
    cases h
    exact ⟨rfl, rfl⟩
  · rintro ⟨rfl, rfl⟩
    exact .done _

/-- A program that asks goes on with any answer. -/
theorem yields_ask {q : Q} {next : A q → Program Q A α} {t : List (Sigma A)} {b : α} :
    (ask q next).Yields t b ↔
      ∃ answer rest, t = ⟨q, answer⟩ :: rest ∧ (next answer).Yields rest b := by
  constructor
  · intro h
    cases h with
    | ask rest => exact ⟨_, _, rfl, rest⟩
  · rintro ⟨answer, rest, rfl, h⟩
    exact .ask h

/-- What two programs yield one after the other splits into what each of them yields. -/
theorem yields_bind {p : Program Q A α} {f : α → Program Q A β} {t : List (Sigma A)} {b : β} :
    (p >>= f).Yields t b ↔
      ∃ first a second, t = first ++ second ∧ p.Yields first a ∧ (f a).Yields second b := by
  -- The list is cut where the first program is done, so the induction is on that one.
  induction p generalizing t with
  | done a =>
      rw [done_bind]
      constructor
      · intro h
        exact ⟨[], a, t, rfl, .done a, h⟩
      · rintro ⟨_, _, second, rfl, ⟨⟩, h⟩
        exact h
  | ask q next ih =>
      simp only [ask_bind, yields_ask, ih]
      constructor
      · rintro ⟨answer, _, rfl, first, a, second, rfl, h₁, h₂⟩
        exact ⟨⟨q, answer⟩ :: first, a, second, rfl, ⟨answer, first, rfl, h₁⟩, h₂⟩
      · rintro ⟨_, a, second, rfl, ⟨answer, first, rfl, h₁⟩, h₂⟩
        exact ⟨answer, first ++ second, rfl, first, a, second, rfl, h₁, h₂⟩

/-- A program that asks one question and goes on with the answer. -/
theorem yields_question_bind {q : Q} {f : A q → Program Q A β} {t : List (Sigma A)} {b : β} :
    (question q >>= f).Yields t b ↔
      ∃ answer rest, t = ⟨q, answer⟩ :: rest ∧ (f answer).Yields rest b :=
  yields_ask

/-- The answers decide where a program ends, and in what. -/
theorem Yields.unique {p : Program Q A α} {first second first' second' : List (Sigma A)} {a b : α}
    (yields : p.Yields first a) (again : p.Yields first' b)
    (same : first ++ second = first' ++ second') : first = first' ∧ a = b := by
  induction yields generalizing first' with
  | done a =>
      cases again
      exact ⟨rfl, rfl⟩
  | ask rest ih =>
      cases again with
      | ask restAgain =>
          rw [List.cons_append, List.cons_append] at same
          cases List.head_eq_of_cons_eq same
          obtain ⟨rfl, rfl⟩ := ih restAgain (List.tail_eq_of_cons_eq same)
          exact ⟨rfl, rfl⟩

/-! ## Runs -/

/-- Every run is one of the ways that a program can go. -/
theorem yields_run {σ : Type} (answer : (q : Q) → σ → A q × σ) (p : Program Q A α) (s : σ) :
    p.Yields (p.trace answer s) (p.run answer s).1 := by
  induction p generalizing s with
  | done a => exact .done a
  | ask q next ih => exact .ask (ih (answer q s).1 (answer q s).2)

/-- An answer in a trace is one that the surroundings gave, in some state. -/
theorem exists_answer_of_mem_trace {σ : Type} {answer : (q : Q) → σ → A q × σ} {p : Program Q A α}
    {s : σ} {entry : Sigma A} (asked : entry ∈ p.trace answer s) :
    ∃ s', entry.2 = (answer entry.1 s').1 := by
  induction p generalizing s with
  | done a => cases asked
  | ask q next ih =>
      rcases List.mem_cons.mp asked with rfl | later
      · exact ⟨s, rfl⟩
      · exact ih _ later

/-- Surroundings without a state give to a question the same answer each time. -/
theorem answer_of_mem_trace {answer : (q : Q) → A q} {p : Program Q A α} {entry : Sigma A}
    (asked : entry ∈ p.trace (fun q (_ : Unit) => (answer q, ())) ()) :
    entry.2 = answer entry.1 := by
  obtain ⟨_, same⟩ := exists_answer_of_mem_trace asked
  exact same

/-- What a program comes to is decided by its surroundings, if they have no state. -/
theorem Yields.result_of_answered {answer : (q : Q) → A q} {p : Program Q A α} {t : List (Sigma A)}
    {b : α} (h : p.Yields t b) (answered : ∀ entry ∈ t, entry.2 = answer entry.1) :
    b = (p.run (fun q (_ : Unit) => (answer q, ())) ()).1 := by
  induction h with
  | done a => rfl
  | @ask q next given t b rest ih =>
      obtain ⟨same, later⟩ := List.forall_mem_cons.mp answered
      rw [show given = answer q from same] at ih
      exact ih later

open Classical in
/-- Surroundings that give the answers of a list as long as its questions are asked, and any answer
after that. -/
noncomputable def replay [∀ q, Nonempty (A q)] (q : Q) : List (Sigma A) → A q × List (Sigma A)
  | [] => (Classical.ofNonempty, [])
  | ⟨asked, answer⟩ :: rest =>
      if same : asked = q then (same ▸ answer, rest) else (Classical.ofNonempty, rest)

@[simp] theorem replay_cons [∀ q, Nonempty (A q)] (q : Q) (answer : A q) (t : List (Sigma A)) :
    replay q (⟨q, answer⟩ :: t) = (answer, t) := by
  simp [replay]

/-- Replaying the list of a way that a program can go takes it along that way. -/
theorem Yields.replay [∀ q, Nonempty (A q)] {p : Program Q A α} {t : List (Sigma A)} {b : α}
    (h : p.Yields t b) :
    p.trace Program.replay t = t ∧ (p.run Program.replay t).1 = b := by
  induction h with
  | done a => exact ⟨rfl, rfl⟩
  | ask rest ih => simpa [trace, run] using ih

/-- **The ways that a program can go are its runs.**  Nothing is gained or lost by speaking of lists
of answers instead of surroundings with a state. -/
theorem yields_iff_exists_run [∀ q, Nonempty (A q)] {p : Program Q A α} {t : List (Sigma A)}
    {b : α} :
    p.Yields t b ↔ ∃ (σ : Type) (answer : (q : Q) → σ → A q × σ) (s : σ),
      p.trace answer s = t ∧ (p.run answer s).1 = b := by
  constructor
  · intro h
    exact ⟨_, Program.replay, t, h.replay⟩
  · rintro ⟨σ, answer, s, rfl, rfl⟩
    exact yields_run answer p s

/-! ## Questions worked out by other programs -/

section Interpret

variable {Q' : Type} {A' : Q' → Type} {work : (q : Q) → Program Q' A' (A q)}

/-- What is asked while each question of a list is worked out to its answer. -/
inductive Worked (work : (q : Q) → Program Q' A' (A q)) :
    List (Sigma A) → List (Sigma A') → Prop
  | nil : Worked work [] []
  | cons {q : Q} {answer : A q} {t : List (Sigma A)} {inner rest : List (Sigma A')}
      (head : (work q).Yields inner answer) (tail : Worked work t rest) :
      Worked work (⟨q, answer⟩ :: t) (inner ++ rest)

/-- Where nothing is asked, nothing is worked out. -/
@[simp] theorem worked_nil {t : List (Sigma A')} : Worked work [] t ↔ t = [] := by
  constructor
  · intro h
    cases h
    rfl
  · rintro rfl
    exact .nil

/-- The first question is worked out before the others. -/
theorem worked_cons {q : Q} {answer : A q} {t : List (Sigma A)} {t' : List (Sigma A')} :
    Worked work (⟨q, answer⟩ :: t) t' ↔
      ∃ inner rest, t' = inner ++ rest ∧ (work q).Yields inner answer ∧ Worked work t rest := by
  constructor
  · intro h
    cases h with
    | cons head tail => exact ⟨_, _, rfl, head, tail⟩
  · rintro ⟨inner, rest, rfl, head, tail⟩
    exact .cons head tail

/-- Two lists of questions are worked out one after the other. -/
theorem worked_append {first second : List (Sigma A)} {t : List (Sigma A')} :
    Worked work (first ++ second) t ↔
      ∃ inner rest, t = inner ++ rest ∧ Worked work first inner ∧ Worked work second rest := by
  induction first generalizing t with
  | nil =>
      constructor
      · intro worked
        exact ⟨[], t, rfl, .nil, worked⟩
      · rintro ⟨_, rest, rfl, ⟨⟩, worked⟩
        exact worked
  | cons entry first ih =>
      obtain ⟨q, answer⟩ := entry
      rw [List.cons_append, worked_cons]
      constructor
      · rintro ⟨inner, rest, rfl, head, tail⟩
        obtain ⟨middle, rest, rfl, tail, later⟩ := ih.mp tail
        exact ⟨inner ++ middle, rest, by simp, .cons head tail, later⟩
      · rintro ⟨_, rest, rfl, worked, later⟩
        obtain ⟨inner, middle, rfl, head, tail⟩ := worked_cons.mp worked
        exact ⟨inner, middle ++ rest, by simp, head, ih.mpr ⟨middle, rest, rfl, tail, later⟩⟩

/-- Each question of a list is worked out to its answer. -/
theorem Worked.of_mem {t : List (Sigma A)} {t' : List (Sigma A')} {entry : Sigma A}
    (worked : Worked work t t') (member : entry ∈ t) :
    ∃ inner, (work entry.1).Yields inner entry.2 := by
  induction worked with
  | nil => cases member
  | cons head tail ih =>
      rcases List.mem_cons.mp member with rfl | later
      · exact ⟨_, head⟩
      · exact ih later

/-- To work out two programs, one behind the other, is to work out each. -/
theorem interpret_bind {p : Program Q A α} {f : α → Program Q A β} :
    (p >>= f).interpret work = p.interpret work >>= fun a => (f a).interpret work := by
  induction p with
  | done a => rfl
  | ask q next ih =>
      change (work q >>= fun a => (next a >>= f).interpret work) =
        (work q >>= fun a => (next a).interpret work) >>= fun a => (f a).interpret work
      simp only [ih, bind_assoc]

/-- What an interpreted program yields is what the program yields, each question worked out. -/
theorem yields_interpret {p : Program Q A α} {t : List (Sigma A')} {b : α} :
    (p.interpret work).Yields t b ↔ ∃ outer, p.Yields outer b ∧ Worked work outer t := by
  induction p generalizing t with
  | done a =>
      constructor
      · rintro ⟨⟩
        exact ⟨[], .done b, .nil⟩
      · rintro ⟨_, ⟨⟩, ⟨⟩⟩
        exact .done b
  | ask q next ih =>
      change (work q >>= fun a => (next a).interpret work).Yields t b ↔ _
      simp only [yields_bind, yields_ask, ih]
      constructor
      · rintro ⟨inner, answer, rest, rfl, head, outer, h, tail⟩
        exact ⟨_, ⟨answer, outer, rfl, h⟩, .cons head tail⟩
      · rintro ⟨_, ⟨answer, outer, rfl, h⟩, worked⟩
        obtain ⟨inner, rest, rfl, head, tail⟩ := worked_cons.mp worked
        exact ⟨inner, answer, rest, rfl, head, outer, h, tail⟩

end Interpret

/-! ## What is never asked -/

section Asks

variable {P : Q → Prop}

/-- Whatever it is answered, a program asks only questions that satisfy `P`. -/
inductive Asks (P : Q → Prop) : Program Q A α → Prop
  | done (a : α) : Asks P (.done a)
  | ask {q : Q} {next : A q → Program Q A α} (asked : P q)
      (rest : ∀ answer, Asks P (next answer)) : Asks P (.ask q next)

theorem asks_question {q : Q} (asked : P q) : (question q : Program Q A (A q)).Asks P :=
  .ask asked fun _ => .done _

theorem Asks.bind {p : Program Q A α} {f : α → Program Q A β} (first : p.Asks P)
    (second : ∀ a, (f a).Asks P) : (p >>= f).Asks P := by
  induction first with
  | done a => exact second a
  | ask asked rest ih => exact .ask asked ih

/-- A list that a program yields holds only questions that the program may ask. -/
theorem Asks.of_mem {p : Program Q A α} {t : List (Sigma A)} {b : α} (asks : p.Asks P)
    (h : p.Yields t b) : ∀ entry ∈ t, P entry.1 := by
  induction h with
  | done a => simp
  | ask rest ih =>
      cases asks with
      | ask asked later =>
          intro entry member
          rcases List.mem_cons.mp member with rfl | member
          · exact asked
          · exact ih (later _) entry member

/-- If every question is worked out without asking anything but `P`, so is a whole program. -/
theorem Asks.interpret {Q' : Type} {A' : Q' → Type} {work : (q : Q) → Program Q' A' (A q)}
    {P : Q' → Prop} (each : ∀ q, (work q).Asks P) (p : Program Q A α) :
    (p.interpret work).Asks P := by
  induction p with
  | done a => exact .done a
  | ask q next ih => exact Asks.bind (each q) ih

end Asks

end Program

end ServiceOperator
