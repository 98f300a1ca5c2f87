import BranchGuard.Attempt

/-!
# Runs of dialogues and attempts

What a run leaves behind is determined step by step: a run of two dialogues is the run of the first
followed by the run of the second from the state that the first left.  An attempt adds one thing to
this: its first failure ends it.

`Dialogue.Asks` bounds the questions of a dialogue against every answer.  A responder that keeps an
invariant on the questions asked then keeps it over the whole run (`Asks.invariant`), and the
transcript holds no other question (`Asks.questions`).
-/

namespace BranchGuard

namespace Transcript

variable {Question Note : Type} {Answer : Question → Type}

@[simp]
theorem questions_nil : questions ([] : Transcript Answer Note) = [] := rfl

@[simp]
theorem questions_exchange (question : Question) (answer : Answer question)
    (rest : Transcript Answer Note) :
    questions (.exchange question answer :: rest) = question :: questions rest := rfl

@[simp]
theorem questions_note (entry : Note) (rest : Transcript Answer Note) :
    questions (.note entry :: rest) = questions rest := rfl

end Transcript

namespace Dialogue

variable {Question : Type} {Answer : Question → Type} {Note α β σ : Type}
variable (responder : Responder Answer σ)

@[simp]
theorem run_done (value : α) (state : σ) :
    (Dialogue.done value : Dialogue Answer Note α).run responder state =
      ⟨value, [], state⟩ := rfl

@[simp]
theorem run_bind_value (dialogue : Dialogue Answer Note α)
    (next : α → Dialogue Answer Note β) (state : σ) :
    ((dialogue >>= next).run responder state).value =
      ((next (dialogue.run responder state).value).run responder
        (dialogue.run responder state).state).value := by
  rw [run_bind]

@[simp]
theorem run_bind_state (dialogue : Dialogue Answer Note α)
    (next : α → Dialogue Answer Note β) (state : σ) :
    ((dialogue >>= next).run responder state).state =
      ((next (dialogue.run responder state).value).run responder
        (dialogue.run responder state).state).state := by
  rw [run_bind]

@[simp]
theorem run_bind_transcript (dialogue : Dialogue Answer Note α)
    (next : α → Dialogue Answer Note β) (state : σ) :
    ((dialogue >>= next).run responder state).transcript =
      (dialogue.run responder state).transcript ++
        ((next (dialogue.run responder state).value).run responder
          (dialogue.run responder state).state).transcript := by
  rw [run_bind]

@[simp]
theorem run_query (question : Question) (state : σ) :
    (query question : Dialogue Answer Note (Answer question)).run responder state =
      ⟨(responder question state).1, [.exchange question (responder question state).1],
        (responder question state).2⟩ := rfl

@[simp]
theorem run_say (entry : Note) (state : σ) :
    (say entry : Dialogue Answer Note Unit).run responder state =
      ⟨(), [.note entry], state⟩ := rfl

@[simp]
theorem run_sayAll (entries : List Note) (state : σ) :
    (sayAll entries : Dialogue Answer Note Unit).run responder state =
      ⟨(), entries.map .note, state⟩ := by
  induction entries with
  | nil => rfl
  | cons entry rest ih =>
      simp [sayAll, run, ih]

@[simp]
theorem questions_map_note (entries : List Note) :
    Transcript.questions (entries.map Entry.note : Transcript Answer Note) = [] := by
  induction entries with
  | nil => rfl
  | cons entry rest ih =>
      simpa using ih

/-! ## The questions that a dialogue can ask -/

/-- Whatever the answers, every question of the dialogue is an allowed one. -/
def Asks (allowed : Question → Prop) : Dialogue Answer Note α → Prop
  | .done _ => True
  | .ask question next => allowed question ∧ ∀ answer, (next answer).Asks allowed
  | .note _ next => next.Asks allowed

section Asks

variable {allowed : Question → Prop}

@[simp]
theorem asks_query {question : Question} :
    (query question : Dialogue Answer Note (Answer question)).Asks allowed ↔
      allowed question :=
  ⟨fun asks => asks.1, fun isAllowed => ⟨isAllowed, fun _ => trivial⟩⟩

@[simp]
theorem asks_say (entry : Note) :
    (say entry : Dialogue Answer Note Unit).Asks allowed := trivial

@[simp]
theorem asks_sayAll (entries : List Note) :
    (sayAll entries : Dialogue Answer Note Unit).Asks allowed := by
  induction entries with
  | nil => exact trivial
  | cons entry rest ih => exact ih

theorem asks_of_forall (isAllowed : ∀ question, allowed question)
    (dialogue : Dialogue Answer Note α) : dialogue.Asks allowed := by
  induction dialogue with
  | done value => exact trivial
  | ask question rest ih => exact ⟨isAllowed question, ih⟩
  | note entry rest ih => exact ih

theorem Asks.mono {allowed' : Question → Prop} {dialogue : Dialogue Answer Note α}
    (asks : dialogue.Asks allowed) (weaker : ∀ question, allowed question → allowed' question) :
    dialogue.Asks allowed' := by
  induction dialogue with
  | done value => exact trivial
  | ask question rest ih =>
      exact ⟨weaker question asks.1, fun answer => ih answer (asks.2 answer)⟩
  | note entry rest ih => exact ih asks

theorem Asks.bind {dialogue : Dialogue Answer Note α} {next : α → Dialogue Answer Note β}
    (first : dialogue.Asks allowed) (second : ∀ value, (next value).Asks allowed) :
    (dialogue >>= next).Asks allowed := by
  induction dialogue with
  | done value => exact second value
  | ask question rest ih =>
      exact ⟨first.1, fun answer => ih answer (first.2 answer)⟩
  | note entry rest ih => exact ih first

/-- An invariant of the responder on the allowed questions holds at the end of the run. -/
theorem Asks.invariant {dialogue : Dialogue Answer Note α}
    (asks : dialogue.Asks allowed) (holds : σ → Prop)
    (step : ∀ question state, allowed question → holds state →
      holds (responder question state).2)
    {state : σ} (start : holds state) :
    holds (dialogue.run responder state).state := by
  induction dialogue generalizing state with
  | done value => exact start
  | ask question rest ih =>
      exact ih _ (asks.2 _) (step question state asks.1 start)
  | note entry rest ih => exact ih asks start

/-- Only allowed questions are on record. -/
theorem Asks.questions {dialogue : Dialogue Answer Note α} (asks : dialogue.Asks allowed)
    (state : σ) :
    ∀ question ∈ (dialogue.run responder state).transcript.questions, allowed question := by
  induction dialogue generalizing state with
  | done value =>
      intro question member
      simp at member
  | ask question rest ih =>
      intro other member
      simp only [run, Transcript.questions_exchange, List.mem_cons] at member
      rcases member with rfl | member
      · exact asks.1
      · exact ih _ (asks.2 _) _ other member
  | note entry rest ih =>
      intro other member
      simp only [run, Transcript.questions_note] at member
      exact ih asks state other member

end Asks

/-- Two responders that answer every question of the run alike lead to the same result. -/
theorem run_coupled {τ : Type} {responder : Responder Answer σ} {responder' : Responder Answer τ}
    {related : σ → τ → Prop} {allowed : Question → Prop}
    (step : ∀ question state state', allowed question → related state state' →
      (responder question state).1 = (responder' question state').1 ∧
        related (responder question state).2 (responder' question state').2)
    {dialogue : Dialogue Answer Note α} {state : σ} {state' : τ} (start : related state state')
    (asked : ∀ question ∈ (dialogue.run responder state).transcript.questions,
      allowed question) :
    (dialogue.run responder state).value = (dialogue.run responder' state').value ∧
      related (dialogue.run responder state).state (dialogue.run responder' state').state := by
  induction dialogue generalizing state state' with
  | done value => exact ⟨rfl, start⟩
  | ask question rest ih =>
      simp only [run, Transcript.questions_exchange, List.forall_mem_cons] at asked
      rcases step question state state' asked.1 start with ⟨sameAnswer, next⟩
      simp only [run, ← sameAnswer]
      exact ih _ next asked.2
  | note entry rest ih => exact ih start asked

end Dialogue

namespace Attempt

open Dialogue

variable {α β σ : Type} (responder : Responder Request.Reply σ)

/-- The run of an attempt by itself, outside a verb. -/
def play (attempt : Attempt α) (state : σ) :
    Run Request.Reply Event σ (Except EngineError α) :=
  attempt.run.run responder state

@[simp]
theorem play_pure (value : α) (state : σ) :
    play responder (pure value) state = ⟨.ok value, [], state⟩ := rfl

@[simp]
theorem play_throw (cause : EngineError) (state : σ) :
    play responder (throw cause : Attempt α) state = ⟨.error cause, [], state⟩ := rfl

@[simp]
theorem play_check (result : Except EngineError α) (state : σ) :
    play responder (check result) state = ⟨result, [], state⟩ := rfl

@[simp]
theorem play_note (event : Event) (state : σ) :
    play responder (note event) state = ⟨.ok (), [.note event], state⟩ := rfl

@[simp]
theorem play_noteAll (events : List Event) (state : σ) :
    play responder (noteAll events) state = ⟨.ok (), events.map .note, state⟩ := by
  simp only [play, noteAll, ExceptT.run_lift]
  rw [← bind_pure_comp, run_bind]
  simp

@[simp]
theorem play_answer (request : Request) (state : σ) :
    play responder (answer request) state =
      ⟨.ok (responder request state).1,
        [.exchange request (responder request state).1], (responder request state).2⟩ := rfl

/-- An attempt goes on from the result of its first part, or ends with its failure. -/
theorem play_bind (attempt : Attempt α) (next : α → Attempt β) (state : σ) :
    play responder (attempt >>= next) state =
      let first := play responder attempt state
      match first.value with
      | .ok value =>
        let second := play responder (next value) first.state
        ⟨second.value, first.transcript ++ second.transcript, second.state⟩
      | .error cause => ⟨.error cause, first.transcript, first.state⟩ := by
  simp only [play, ExceptT.run_bind, run_bind]
  cases (attempt.run.run responder state).value with
  | ok value => rfl
  | error cause => simp

/-- An attempt in two parts succeeds if both do. -/
theorem play_bind_eq_ok {attempt : Attempt α} {next : α → Attempt β} {state : σ} {value : β} :
    (play responder (attempt >>= next) state).value = .ok value ↔
      ∃ first, (play responder attempt state).value = .ok first ∧
        (play responder (next first) (play responder attempt state).state).value = .ok value := by
  simp only [play_bind]
  cases (play responder attempt state).value <;> simp

theorem play_bind_answer_value (request : Request) (next : request.Reply → Attempt β)
    (state : σ) :
    (play responder (answer request >>= next) state).value =
      (play responder (next (responder request state).1) (responder request state).2).value := by
  rw [play_bind, play_answer]

@[simp]
theorem mapError_ok {ε ε' : Type} (failure : ε → ε') (value : α) :
    (Except.ok value).mapError failure = .ok value := rfl

@[simp]
theorem mapError_error {ε ε' : Type} (failure : ε → ε') (cause : ε) :
    (Except.error cause : Except ε α).mapError failure = .error (failure cause) := rfl

theorem play_call (request : Request) (state : σ) :
    play responder (call request) state =
      ⟨(responder request state).1.mapError .remote,
        [.exchange request (responder request state).1], (responder request state).2⟩ := by
  simp only [call, play_bind, play_answer]
  cases (responder request state).1 with
  | ok result => rfl
  | error cause => rfl

/-- A verb labels the failure of its attempt and notes it. -/
theorem run_carryOut (verb : Verb) (attempt : Attempt α) (state : σ) :
    (carryOut verb attempt).run responder state =
      let played := play responder attempt state
      match played.value with
      | .ok value => ⟨.ok value, played.transcript, played.state⟩
      | .error cause =>
        ⟨.error ⟨verb, cause⟩, played.transcript ++ [.note (.verbFailed ⟨verb, cause⟩)],
          played.state⟩ := by
  simp only [carryOut, run_bind, play]
  cases (attempt.run.run responder state).value with
  | ok value => simp
  | error cause => rfl

/-! ## The requests that an attempt can make -/

section Asks

variable {allowed : Request → Prop}

theorem asks_bind {attempt : Attempt α} {next : α → Attempt β}
    (first : attempt.run.Asks allowed) (second : ∀ value, (next value).run.Asks allowed) :
    (attempt >>= next).run.Asks allowed := by
  rw [ExceptT.run_bind]
  apply first.bind
  intro result
  cases result with
  | ok value => exact second value
  | error cause => exact trivial

theorem asks_answer {request : Request} (isAllowed : allowed request) :
    (answer request).run.Asks allowed :=
  ⟨isAllowed, fun _ => trivial⟩

end Asks

end Attempt

end BranchGuard
