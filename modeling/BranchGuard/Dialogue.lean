/-!
# Dialogues

A `Dialogue` is a program that asks questions of somebody else and goes on with the answers, while
it notes what it does.  It says nothing about who answers: `Dialogue.run` lets a responder with a
state of its own do so, and records every exchange and every note in order (`Transcript`).  So what
a program asks, in which order and what it makes of the answers can be stated for all responders at
once.

`Dialogue.expand` answers each question by a dialogue over other questions; this is how a remote
operation becomes a number of requests over the network.
-/

namespace BranchGuard

/-- A program over questions, each with its own type of answers, and notes. -/
inductive Dialogue {Question : Type} (Answer : Question → Type) (Note α : Type) : Type where
  | done (value : α)
  | ask (question : Question) (next : Answer question → Dialogue Answer Note α)
  | note (entry : Note) (next : Dialogue Answer Note α)

/-- One entry of the record of a dialogue. -/
inductive Dialogue.Entry {Question : Type} (Answer : Question → Type) (Note : Type) : Type where
  | exchange (question : Question) (answer : Answer question)
  | note (entry : Note)

/-- The record of a dialogue. -/
abbrev Transcript {Question : Type} (Answer : Question → Type) (Note : Type) : Type :=
  List (Dialogue.Entry Answer Note)

namespace Transcript

variable {Question Note : Type} {Answer : Question → Type}

/-- The questions that were asked, in order. -/
def questions (transcript : Transcript Answer Note) : List Question :=
  transcript.filterMap fun
    | .exchange question _ => some question
    | .note _ => none

/-- The notes that were taken, in order. -/
def notes (transcript : Transcript Answer Note) : List Note :=
  transcript.filterMap fun
    | .exchange _ _ => none
    | .note entry => some entry

@[simp] theorem questions_append (first second : Transcript Answer Note) :
    questions (first ++ second) = questions first ++ questions second := by
  simp [questions]

@[simp] theorem notes_append (first second : Transcript Answer Note) :
    notes (first ++ second) = notes first ++ notes second := by
  simp [notes]

end Transcript

namespace Dialogue

variable {Question : Type} {Answer : Question → Type} {Note α β σ : Type}

/-- Goes on with another dialogue after the end of the first. -/
def bind (dialogue : Dialogue Answer Note α) (next : α → Dialogue Answer Note β) :
    Dialogue Answer Note β :=
  match dialogue with
  | .done value => next value
  | .ask question rest => .ask question fun answer => (rest answer).bind next
  | .note entry rest => .note entry (rest.bind next)

instance : Monad (Dialogue Answer Note) where
  pure := .done
  bind := bind

@[simp] theorem pure_eq_done (value : α) :
    (pure value : Dialogue Answer Note α) = .done value := rfl

@[simp] theorem done_bind (value : α) (next : α → Dialogue Answer Note β) :
    (Dialogue.done value) >>= next = next value := rfl

@[simp] theorem ask_bind (question : Question)
    (rest : Answer question → Dialogue Answer Note α) (next : α → Dialogue Answer Note β) :
    (Dialogue.ask question rest) >>= next =
      .ask question fun answer => rest answer >>= next := rfl

@[simp] theorem note_bind (entry : Note) (rest : Dialogue Answer Note α)
    (next : α → Dialogue Answer Note β) :
    (Dialogue.note entry rest) >>= next = .note entry (rest >>= next) := rfl

theorem bind_done (dialogue : Dialogue Answer Note α) : dialogue >>= .done = dialogue := by
  induction dialogue with
  | done value => rfl
  | ask question rest ih => simp [ih]
  | note entry rest ih => simp [ih]

theorem bind_assoc {γ : Type} (dialogue : Dialogue Answer Note α)
    (first : α → Dialogue Answer Note β) (second : β → Dialogue Answer Note γ) :
    dialogue >>= first >>= second = dialogue >>= fun value => first value >>= second := by
  induction dialogue with
  | done value => rfl
  | ask question rest ih => simp [ih]
  | note entry rest ih => simp [ih]

instance : LawfulMonad (Dialogue Answer Note) :=
  LawfulMonad.mk' _ bind_done (fun _ _ => rfl) bind_assoc

/-- Asks one question. -/
def query (question : Question) : Dialogue Answer Note (Answer question) :=
  .ask question .done

/-- Takes a note. -/
def say (entry : Note) : Dialogue Answer Note Unit :=
  .note entry (.done ())

/-- Takes notes, one after the other. -/
def sayAll : List Note → Dialogue Answer Note Unit
  | [] => .done ()
  | entry :: rest => .note entry (sayAll rest)

/-- Answers questions from a state. -/
abbrev Responder (Answer : Question → Type) (σ : Type) : Type :=
  (question : Question) → σ → Answer question × σ

/-- What a run leaves behind. -/
structure Run (Answer : Question → Type) (Note σ α : Type) where
  value : α
  transcript : Transcript Answer Note
  state : σ

/-- Runs a dialogue with a responder, from a state of it. -/
def run (responder : Responder Answer σ) : Dialogue Answer Note α → σ → Run Answer Note σ α
  | .done value, state => ⟨value, [], state⟩
  | .ask question next, state =>
    let (answer, state) := responder question state
    let rest := (next answer).run responder state
    { rest with transcript := .exchange question answer :: rest.transcript }
  | .note entry next, state =>
    let rest := next.run responder state
    { rest with transcript := .note entry :: rest.transcript }

/-- A run of two dialogues one after the other. -/
theorem run_bind (responder : Responder Answer σ) (dialogue : Dialogue Answer Note α)
    (next : α → Dialogue Answer Note β) (state : σ) :
    (dialogue >>= next).run responder state =
      let first := dialogue.run responder state
      let second := (next first.value).run responder first.state
      ⟨second.value, first.transcript ++ second.transcript, second.state⟩ := by
  induction dialogue generalizing state with
  | done value => rfl
  | ask question rest ih => simp [run, ih]
  | note entry rest ih => simp [run, ih]

/-- Replaces each question by the dialogue that finds its answer. -/
def expand {Question' : Type} {Answer' : Question' → Type}
    (answer : (question : Question) → Dialogue Answer' Note (Answer question)) :
    Dialogue Answer Note α → Dialogue Answer' Note α
  | .done value => .done value
  | .ask question next => answer question >>= fun reply => (next reply).expand answer
  | .note entry next => .note entry (next.expand answer)

end Dialogue

end BranchGuard
