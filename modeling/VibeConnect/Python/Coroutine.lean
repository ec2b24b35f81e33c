import Mathlib.Data.List.Basic

/-! Coroutines as trees of calls. A coroutine either returns, raises, or calls
an operation and resumes on its answer, which is a value or a fault. Every
operation is a place where the caller can be answered in any way the
environment chooses, a cancellation included, so one tree carries all runs of
an `async def` body. `wp` is the weakest precondition of a tree under a
relation that says which answers an operation can give and what they do to the
state; `play` is the run against fixed answers. -/
namespace Python.Coroutine

/-- A synchronous step succeeds after another when both do. -/
theorem bind_ok {Fault α β : Type} {first : Except Fault α} {next : α → Except Fault β} {value : β} :
    (first >>= next) = .ok value ↔ ∃ middle, first = .ok middle ∧ next middle = .ok value := by
  cases first with
  | error fault =>
      constructor
      · intro impossible
        cases impossible
      · rintro ⟨_, impossible, _⟩
        cases impossible
  | ok middle =>
      constructor
      · intro holds
        exact ⟨middle, rfl, holds⟩
      · rintro ⟨_, same, holds⟩
        cases same
        exact holds

/-- A step that raises fails in its first part or in what follows it. -/
theorem bind_error {Fault α β : Type} {first : Except Fault α} {next : α → Except Fault β}
    {fault : Fault} : (first >>= next) = .error fault ↔
      first = .error fault ∨ ∃ value, first = .ok value ∧ next value = .error fault := by
  cases first with
  | error raised =>
      constructor
      · intro failed
        cases failed
        exact .inl rfl
      · rintro (failed | ⟨value, impossible, -⟩)
        · cases failed
          rfl
        · cases impossible
  | ok value =>
      constructor
      · intro failed
        exact .inr ⟨value, rfl, failed⟩
      · rintro (impossible | ⟨other, same, failed⟩)
        · cases impossible
        · cases same
          exact failed

inductive Coro (Op : Type) (Ans : Op → Type) (Fault α : Type) where
  | done (value : α)
  | raise (fault : Fault)
  | call (op : Op) (resume : Except Fault (Ans op) → Coro Op Ans Fault α)

namespace Coro
variable {Op : Type} {Ans : Op → Type} {Fault α β γ σ : Type}

def bind : Coro Op Ans Fault α → (α → Coro Op Ans Fault β) → Coro Op Ans Fault β
  | .done value, next => next value
  | .raise fault, _ => .raise fault
  | .call op resume, next => .call op fun answer => (resume answer).bind next

/-- `try: body except ... as fault: handler fault`; a handler that does not
take the fault raises it again. -/
def handle : Coro Op Ans Fault α → (Fault → Coro Op Ans Fault α) → Coro Op Ans Fault α
  | .done value, _ => .done value
  | .raise fault, handler => handler fault
  | .call op resume, handler => .call op fun answer => (resume answer).handle handler

instance : Monad (Coro Op Ans Fault) where
  pure := .done
  bind := Coro.bind

instance : MonadExceptOf Fault (Coro Op Ans Fault) where
  throw := .raise
  tryCatch := Coro.handle

/-- `body` with its outcome as a value. -/
def outcome (body : Coro Op Ans Fault α) : Coro Op Ans Fault (Except Fault α) :=
  (body.bind fun value => .done (.ok value)).handle fun fault => .done (.error fault)

/-- `try: body finally: cleanup`. A fault of the cleanup replaces the outcome. -/
def finallyDo (body : Coro Op Ans Fault α) (cleanup : Coro Op Ans Fault Unit) : Coro Op Ans Fault α :=
  body.outcome.bind fun ended => cleanup.bind fun _ => match ended with
    | .ok value => .done value
    | .error fault => .raise fault

def ofAnswer : Except Fault α → Coro Op Ans Fault α
  | .ok value => .done value
  | .error fault => .raise fault

def await (op : Op) : Coro Op Ans Fault (Ans op) := .call op ofAnswer

/-- `if flag: body`. -/
def onlyIf (flag : Bool) (body : Coro Op Ans Fault Unit) : Coro Op Ans Fault Unit :=
  if flag then body else .done ()

@[simp] theorem pure_eq (value : α) :
    (pure value : Coro Op Ans Fault α) = .done value := rfl

@[simp] theorem throw_eq (fault : Fault) :
    (throw fault : Coro Op Ans Fault α) = .raise fault := rfl

@[simp] theorem done_bind (value : α) (next : α → Coro Op Ans Fault β) :
    (Coro.done value >>= next) = next value := rfl

@[simp] theorem raise_bind (fault : Fault) (next : α → Coro Op Ans Fault β) :
    (Coro.raise fault >>= next) = .raise fault := rfl

@[simp] theorem call_bind (op : Op) (resume : Except Fault (Ans op) → Coro Op Ans Fault α)
    (next : α → Coro Op Ans Fault β) :
    (Coro.call op resume >>= next) = .call op fun answer => resume answer >>= next := rfl

@[simp] theorem handle_done (value : α) (handler : Fault → Coro Op Ans Fault α) :
    (tryCatch (Coro.done value) handler : Coro Op Ans Fault α) = .done value := rfl

@[simp] theorem handle_raise (fault : Fault) (handler : Fault → Coro Op Ans Fault α) :
    (tryCatch (Coro.raise fault) handler : Coro Op Ans Fault α) = handler fault := rfl

@[simp] theorem handle_call (op : Op) (resume : Except Fault (Ans op) → Coro Op Ans Fault α)
    (handler : Fault → Coro Op Ans Fault α) :
    (tryCatch (Coro.call op resume) handler : Coro Op Ans Fault α) =
      .call op fun answer => tryCatch (resume answer) handler := rfl

theorem bind_done (program : Coro Op Ans Fault α) : program.bind .done = program := by
  induction program with
  | done value => rfl
  | raise fault => rfl
  | call op resume ih => exact congrArg (Coro.call op) (funext ih)

theorem bind_assoc (program : Coro Op Ans Fault α) (first : α → Coro Op Ans Fault β)
    (second : β → Coro Op Ans Fault γ) :
    (program.bind first).bind second = program.bind fun value => (first value).bind second := by
  induction program with
  | done value => rfl
  | raise fault => rfl
  | call op resume ih => exact congrArg (Coro.call op) (funext ih)

instance : LawfulMonad (Coro Op Ans Fault) :=
  LawfulMonad.mk' _ bind_done (fun _ _ => rfl) bind_assoc

/-! Runs against an environment. `Answers op answer before after` says that the
call of `op` in `before` can be answered by `answer`, leaving `after`. -/
abbrev Answers (Op : Type) (Ans : Op → Type) (Fault σ : Type) :=
  (op : Op) → Except Fault (Ans op) → σ → σ → Prop

/-- Some calls of the coroutine have been answered. -/
inductive Steps (answers : Answers Op Ans Fault σ) :
    Coro Op Ans Fault α → σ → Coro Op Ans Fault α → σ → Prop where
  | refl (program state) : Steps answers program state program state
  | call {op resume answer before middle program after} :
      answers op answer before middle →
      Steps answers (resume answer) middle program after →
      Steps answers (.call op resume) before program after

/-- A run is one under other answers too, seen through a view of its states. -/
theorem steps_map {τ : Type} {answers : Answers Op Ans Fault σ} {others : Answers Op Ans Fault τ}
    {view : σ → τ} (maps : ∀ op answer before after, answers op answer before after →
      others op answer (view before) (view after))
    {program rest : Coro Op Ans Fault α} {state after : σ} (steps : Steps answers program state rest after) :
    Steps others program (view state) rest (view after) := by
  induction steps with
  | refl program state => exact .refl program (view state)
  | call answered _ ih => exact .call (maps _ _ _ _ answered) ih

/-- Every call is made in a state that satisfies `pre`, and the coroutine ends
in an outcome and a state that satisfy `post`. -/
def wp (answers : Answers Op Ans Fault σ) (pre : Op → σ → Prop)
    (post : Except Fault α → σ → Prop) : Coro Op Ans Fault α → σ → Prop
  | .done value, state => post (.ok value) state
  | .raise fault, state => post (.error fault) state
  | .call op resume, state => pre op state ∧
      ∀ answer after, answers op answer state after → (resume answer).wp answers pre post after

/-- One condition for a value and one for a fault. -/
def either (returned : α → σ → Prop) (raised : Fault → σ → Prop) : Except Fault α → σ → Prop
  | .ok value => returned value
  | .error fault => raised fault

@[simp] theorem either_ok {returned : α → σ → Prop} {raised : Fault → σ → Prop} (value : α) :
    either returned raised (.ok value) = returned value := rfl

@[simp] theorem either_error {returned : α → σ → Prop} {raised : Fault → σ → Prop} (fault : Fault) :
    either returned raised (.error fault) = raised fault := rfl

@[simp] theorem wp_done {answers : Answers Op Ans Fault σ} {pre : Op → σ → Prop}
    {post : Except Fault α → σ → Prop} (value : α) (state : σ) :
    (Coro.done value).wp answers pre post state ↔ post (.ok value) state := Iff.rfl

@[simp] theorem wp_raise {answers : Answers Op Ans Fault σ} {pre : Op → σ → Prop}
    {post : Except Fault α → σ → Prop} (fault : Fault) (state : σ) :
    (Coro.raise fault : Coro Op Ans Fault α).wp answers pre post state ↔
      post (.error fault) state := Iff.rfl

section Rules
variable {answers : Answers Op Ans Fault σ} {pre : Op → σ → Prop}

theorem wp_mono {weak strong : Except Fault α → σ → Prop} {program : Coro Op Ans Fault α}
    {state : σ} (implies : ∀ outcome state, strong outcome state → weak outcome state)
    (holds : program.wp answers pre strong state) : program.wp answers pre weak state := by
  induction program generalizing state with
  | done value => exact implies _ _ holds
  | raise fault => exact implies _ _ holds
  | call op resume ih =>
      exact ⟨holds.1, fun answer after answered => ih answer (holds.2 answer after answered)⟩

theorem wp_bind {program : Coro Op Ans Fault α} {next : α → Coro Op Ans Fault β}
    {post : Except Fault β → σ → Prop} {state : σ}
    (holds : program.wp answers pre (fun outcome middle => match outcome with
      | .ok value => (next value).wp answers pre post middle
      | .error fault => post (.error fault) middle) state) :
    (program >>= next).wp answers pre post state := by
  induction program generalizing state with
  | done value => exact holds
  | raise fault => exact holds
  | call op resume ih =>
      exact ⟨holds.1, fun answer after answered => ih answer (holds.2 answer after answered)⟩

/-- The rule of composition with the condition in the middle named. -/
theorem wp_seq {program : Coro Op Ans Fault α} {next : α → Coro Op Ans Fault β}
    {post : Except Fault β → σ → Prop} {middle : α → σ → Prop} {state : σ}
    (first : program.wp answers pre (either middle fun fault => post (.error fault)) state)
    (second : ∀ value after, middle value after → (next value).wp answers pre post after) :
    (program >>= next).wp answers pre post state := by
  refine wp_bind (wp_mono ?_ first)
  intro ended after reached
  cases ended with
  | ok value => exact second value after reached
  | error fault => exact reached

theorem wp_handle {program : Coro Op Ans Fault α} {handler : Fault → Coro Op Ans Fault α}
    {post : Except Fault α → σ → Prop} {state : σ}
    (holds : program.wp answers pre (fun outcome middle => match outcome with
      | .ok value => post (.ok value) middle
      | .error fault => (handler fault).wp answers pre post middle) state) :
    (tryCatch program handler : Coro Op Ans Fault α).wp answers pre post state := by
  induction program generalizing state with
  | done value => exact holds
  | raise fault => exact holds
  | call op resume ih =>
      exact ⟨holds.1, fun answer after answered => ih answer (holds.2 answer after answered)⟩

theorem wp_outcome {body : Coro Op Ans Fault α} {post : Except Fault (Except Fault α) → σ → Prop}
    {state : σ} (holds : body.wp answers pre (fun ended => post (.ok ended)) state) :
    body.outcome.wp answers pre post state := by
  refine wp_handle (wp_bind (wp_mono ?_ holds))
  intro ended after reached
  cases ended with
  | ok value => exact reached
  | error fault => exact reached

theorem wp_finallyDo {body : Coro Op Ans Fault α} {cleanup : Coro Op Ans Fault Unit}
    {post : Except Fault α → σ → Prop} {state : σ}
    (holds : body.wp answers pre (fun ended middle => cleanup.wp answers pre (fun cleaned after =>
      match cleaned with
      | .ok _ => post ended after
      | .error fault => post (.error fault) after) middle) state) :
    (body.finallyDo cleanup).wp answers pre post state := by
  refine wp_bind (wp_outcome (wp_mono ?_ holds))
  intro ended middle reached
  refine wp_bind (wp_mono ?_ reached)
  intro cleaned after done
  cases cleaned with
  | ok value => cases ended <;> exact done
  | error fault => exact done

theorem wp_await {op : Op} {post : Except Fault (Ans op) → σ → Prop} {state : σ}
    (ready : pre op state)
    (holds : ∀ answer after, answers op answer state after → post answer after) :
    (await op : Coro Op Ans Fault (Ans op)).wp answers pre post state := by
  refine ⟨ready, fun answer after answered => ?_⟩
  cases answer with
  | ok value => exact holds (.ok value) after answered
  | error fault => exact holds (.error fault) after answered

theorem wp_onlyIf {flag : Bool} {body : Coro Op Ans Fault Unit} {post : Except Fault Unit → σ → Prop}
    {state : σ} (runs : flag = true → body.wp answers pre post state)
    (skips : flag = false → post (.ok ()) state) : (onlyIf flag body).wp answers pre post state := by
  cases flag with
  | true => exact runs rfl
  | false => exact skips rfl

theorem wp_ofAnswer {answer : Except Fault α} {post : Except Fault α → σ → Prop} {state : σ}
    (holds : post answer state) :
    (ofAnswer answer : Coro Op Ans Fault α).wp answers pre post state := by
  cases answer <;> exact holds

/-- What holds before a run holds of what is left of it. -/
theorem wp_steps {post : Except Fault α → σ → Prop} {program rest : Coro Op Ans Fault α}
    {state after : σ} (steps : Steps answers program state rest after)
    (holds : program.wp answers pre post state) : rest.wp answers pre post after := by
  induction steps with
  | refl => exact holds
  | call answered _ ih => exact ih (holds.2 _ _ answered)
end Rules

/-! What holds of the parts of a program, and of everything put together from
such parts. -/
structure Composes (holds : (α : Type) → Coro Op Ans Fault α → Prop) : Prop where
  returns : ∀ {α : Type} (value : α), holds α (.done value)
  raises : ∀ {α : Type} (fault : Fault), holds α (.raise fault)
  sequel : ∀ {α β : Type} {program : Coro Op Ans Fault α} {next : α → Coro Op Ans Fault β},
    holds α program → (∀ value, holds β (next value)) → holds β (program >>= next)
  handled : ∀ {α : Type} {program : Coro Op Ans Fault α} {handler : Fault → Coro Op Ans Fault α},
    holds α program → (∀ fault, holds α (handler fault)) → holds α (tryCatch program handler)

namespace Composes
variable {holds : (α : Type) → Coro Op Ans Fault α → Prop} (composes : Composes holds)
include composes

theorem ofAnswer (answer : Except Fault α) : holds α (ofAnswer answer) := by
  cases answer with
  | ok value => exact composes.returns value
  | error fault => exact composes.raises fault

theorem onlyIf {flag : Bool} {body : Coro Op Ans Fault Unit} (part : holds Unit body) :
    holds Unit (onlyIf flag body) := by
  cases flag with
  | true => exact part
  | false => exact composes.returns ()

theorem outcome {body : Coro Op Ans Fault α} (part : holds α body) :
    holds (Except Fault α) body.outcome :=
  composes.handled (composes.sequel part fun _ => composes.returns _) fun _ => composes.returns _

theorem finallyDo {body : Coro Op Ans Fault α} {cleanup : Coro Op Ans Fault Unit}
    (part : holds α body) (cleaned : holds Unit cleanup) : holds α (finallyDo body cleanup) := by
  refine composes.sequel (composes.outcome part) fun ended => composes.sequel cleaned fun _ => ?_
  cases ended with
  | ok value => exact composes.returns value
  | error fault => exact composes.raises fault
end Composes

/-- A condition that every call keeps is kept by what is put together from them. -/
theorem wp_composes (answers : Answers Op Ans Fault σ) (pre : Op → σ → Prop) (kept : σ → Prop) :
    Composes fun (α : Type) (program : Coro Op Ans Fault α) =>
      ∀ state, kept state → program.wp answers pre (fun _ => kept) state where
  returns _ _ holds := holds
  raises _ _ holds := holds
  sequel first second state holds := by
    refine wp_bind (wp_mono ?_ (first state holds))
    rintro (fault | value) after still
    · exact still
    · exact second value after still
  handled body handler state holds := by
    refine wp_handle (wp_mono ?_ (body state holds))
    rintro (fault | value) after still
    · exact handler fault after still
    · exact still

/-! Histories: the calls answered so far, with the states around each answer. -/
structure Entry (Op : Type) (Ans : Op → Type) (Fault σ : Type) where
  op : Op
  answer : Except Fault (Ans op)
  before : σ
  after : σ

def recording (answers : Answers Op Ans Fault σ) :
    Answers Op Ans Fault (σ × List (Entry Op Ans Fault σ)) :=
  fun op answer before after =>
    answers op answer before.1 after.1 ∧ after.2 = before.2 ++ [⟨op, answer, before.1, after.1⟩]

/-- What is asked of every call and of the end holds wherever a run stands. -/
theorem wp_everywhere {answers : Answers Op Ans Fault σ} {holds : σ → Prop}
    {program rest : Coro Op Ans Fault α} {state after : σ}
    (steps : Steps answers program state rest after)
    (promised : program.wp answers (fun _ => holds) (fun _ => holds) state) : holds after := by
  have left := wp_steps steps promised
  cases rest with
  | done value => exact left
  | raise fault => exact left
  | call op resume => exact left.1

/-! Runs against fixed answers, with the calls made as a trace. -/
structure Event (Op : Type) (Ans : Op → Type) (Fault : Type) where
  op : Op
  answer : Except Fault (Ans op)

abbrev Behaviour (Op : Type) (Ans : Op → Type) (Fault : Type) :=
  (op : Op) → Except Fault (Ans op)

def play (behaviour : Behaviour Op Ans Fault) :
    Coro Op Ans Fault α → List (Event Op Ans Fault) × Except Fault α
  | .done value => ([], .ok value)
  | .raise fault => ([], .error fault)
  | .call op resume =>
      let rest := (resume (behaviour op)).play behaviour
      (⟨op, behaviour op⟩ :: rest.1, rest.2)

@[simp] theorem play_done (behaviour : Behaviour Op Ans Fault) (value : α) :
    (Coro.done value).play behaviour = ([], .ok value) := rfl

@[simp] theorem play_raise (behaviour : Behaviour Op Ans Fault) (fault : Fault) :
    (Coro.raise fault : Coro Op Ans Fault α).play behaviour = ([], .error fault) := rfl

@[simp] theorem play_call (behaviour : Behaviour Op Ans Fault) (op : Op)
    (resume : Except Fault (Ans op) → Coro Op Ans Fault α) :
    (Coro.call op resume).play behaviour =
      (⟨op, behaviour op⟩ :: ((resume (behaviour op)).play behaviour).1,
        ((resume (behaviour op)).play behaviour).2) := rfl

theorem play_bind (behaviour : Behaviour Op Ans Fault) (program : Coro Op Ans Fault α)
    (next : α → Coro Op Ans Fault β) :
    (program >>= next).play behaviour = match program.play behaviour with
      | (trace, .ok value) =>
          (trace ++ ((next value).play behaviour).1, ((next value).play behaviour).2)
      | (trace, .error fault) => (trace, .error fault) := by
  induction program with
  | done value => rfl
  | raise fault => rfl
  | call op resume ih =>
      rw [call_bind, play_call, play_call, ih]
      rcases (resume (behaviour op)).play behaviour with ⟨trace, value | fault⟩ <;> rfl

/-- The run against fixed answers returns the value. -/
def Yields (behaviour : Behaviour Op Ans Fault) (program : Coro Op Ans Fault α) (value : α) : Prop :=
  (program.play behaviour).2 = .ok value

section Yields
variable {behaviour : Behaviour Op Ans Fault}

theorem yields_done (value other : α) :
    Yields behaviour (.done value : Coro Op Ans Fault α) other ↔ value = other := by
  simp [Yields]

theorem yields_raise (fault : Fault) (value : α) :
    ¬Yields behaviour (.raise fault : Coro Op Ans Fault α) value := by
  simp [Yields]

theorem yields_ofAnswer (answer : Except Fault α) (value : α) :
    Yields behaviour (ofAnswer answer : Coro Op Ans Fault α) value ↔ answer = .ok value := by
  cases answer <;> simp [Yields, ofAnswer]

theorem yields_await (op : Op) (value : Ans op) :
    Yields behaviour (await op : Coro Op Ans Fault (Ans op)) value ↔ behaviour op = .ok value :=
  yields_ofAnswer (behaviour op) value

theorem yields_bind (program : Coro Op Ans Fault α) (next : α → Coro Op Ans Fault β) (value : β) :
    Yields behaviour (program >>= next) value ↔
      ∃ first, Yields behaviour program first ∧ Yields behaviour (next first) value := by
  rw [Yields, play_bind]
  unfold Yields
  rcases program.play behaviour with ⟨trace, first | fault⟩ <;> simp

/-- A run against fixed answers returns one value at most. -/
theorem yields_iff {program : Coro Op Ans Fault α} {value other : α} (returned : Yields behaviour program value) :
    Yields behaviour program other ↔ other = value := by
  constructor
  · intro again
    exact Except.ok.inj (again.symm.trans returned)
  · rintro rfl
    exact returned

/-- A handler that does not return changes nothing. -/
theorem yields_handle (program : Coro Op Ans Fault α) {handler : Fault → Coro Op Ans Fault α} {value : α}
    (refuses : ∀ fault, ¬Yields behaviour (handler fault) value) :
    Yields behaviour (tryCatch program handler) value ↔ Yields behaviour program value := by
  induction program with
  | done first => rfl
  | raise fault => exact iff_of_false (refuses fault) (yields_raise fault value)
  | call op resume ih => exact ih (behaviour op)
end Yields

/-- The answers of a fixed behaviour, with the history as the state. -/
def recorded (behaviour : Behaviour Op Ans Fault) :
    Answers Op Ans Fault (List (Event Op Ans Fault)) :=
  fun op answer before after => answer = behaviour op ∧ after = before ++ [⟨op, answer⟩]

/-- A weakest precondition over histories speaks about every call of the run. -/
theorem wp_play {behaviour : Behaviour Op Ans Fault} {pre : Op → List (Event Op Ans Fault) → Prop}
    {post : Except Fault α → List (Event Op Ans Fault) → Prop} {program : Coro Op Ans Fault α}
    {history : List (Event Op Ans Fault)}
    (holds : program.wp (recorded behaviour) pre post history) :
    (∀ before event after, (program.play behaviour).1 = before ++ event :: after →
      pre event.op (history ++ before)) ∧
    post (program.play behaviour).2 (history ++ (program.play behaviour).1) := by
  induction program generalizing history with
  | done value => exact ⟨by simp, by simpa using holds⟩
  | raise fault => exact ⟨by simp, by simpa using holds⟩
  | call op resume ih =>
      have tail := ih (behaviour op) (holds.2 (behaviour op) _ ⟨rfl, rfl⟩)
      constructor
      · intro before event after split
        rw [play_call] at split
        cases before with
        | nil =>
            obtain ⟨same, -⟩ := List.cons.inj split
            subst same
            simpa using holds.1
        | cons first before =>
            obtain ⟨same, rest⟩ := List.cons.inj split
            subst same
            simpa using tail.1 before event after rest
      · simpa using tail.2

/-! Runs against an environment with a state of its own. -/
abbrev Server (Op : Type) (Ans : Op → Type) (Fault σ : Type) :=
  (op : Op) → σ → Except Fault (Ans op) × σ

def run (server : Server Op Ans Fault σ) : Coro Op Ans Fault α → σ → Except Fault α × σ
  | .done value, state => (.ok value, state)
  | .raise fault, state => (.error fault, state)
  | .call op resume, state => (resume (server op state).1).run server (server op state).2

/-- The calls of a run, in order. -/
def calls (server : Server Op Ans Fault σ) : Coro Op Ans Fault α → σ → List Op
  | .done _, _ | .raise _, _ => []
  | .call op resume, state =>
      op :: (resume (server op state).1).calls server (server op state).2

@[simp] theorem run_done (server : Server Op Ans Fault σ) (value : α) (state : σ) :
    (Coro.done value).run server state = (.ok value, state) := rfl

@[simp] theorem run_raise (server : Server Op Ans Fault σ) (fault : Fault) (state : σ) :
    (Coro.raise fault : Coro Op Ans Fault α).run server state = (.error fault, state) := rfl

theorem run_bind (server : Server Op Ans Fault σ) (program : Coro Op Ans Fault α)
    (next : α → Coro Op Ans Fault β) (state : σ) :
    (program >>= next).run server state = match program.run server state with
      | (.ok value, after) => (next value).run server after
      | (.error fault, after) => (.error fault, after) := by
  induction program generalizing state with
  | done value => rfl
  | raise fault => rfl
  | call op resume ih => exact ih _ _

theorem run_bind_ok {server : Server Op Ans Fault σ} {program : Coro Op Ans Fault α}
    {next : α → Coro Op Ans Fault β} {state after : σ} {value : β} :
    (program >>= next).run server state = (.ok value, after) ↔ ∃ first middle,
      program.run server state = (.ok first, middle) ∧
        (next first).run server middle = (.ok value, after) := by
  rw [run_bind]
  rcases program.run server state with ⟨first | fault, middle⟩
  · constructor
    · intro impossible
      cases impossible
    · rintro ⟨_, _, impossible, _⟩
      cases impossible
  · constructor
    · intro ran
      exact ⟨_, _, rfl, ran⟩
    · rintro ⟨_, _, same, ran⟩
      cases same
      exact ran

theorem run_map (server : Server Op Ans Fault σ) (transform : α → β) (program : Coro Op Ans Fault α)
    (state : σ) : (transform <$> program).run server state =
      ((program.run server state).1.map transform, (program.run server state).2) := by
  rw [map_eq_pure_bind, run_bind]
  rcases program.run server state with ⟨value | fault, after⟩ <;> rfl

theorem run_handle (server : Server Op Ans Fault σ) (program : Coro Op Ans Fault α)
    (handler : Fault → Coro Op Ans Fault α) (state : σ) :
    (tryCatch program handler : Coro Op Ans Fault α).run server state =
      match program.run server state with
      | (.ok value, after) => (.ok value, after)
      | (.error fault, after) => (handler fault).run server after := by
  induction program generalizing state with
  | done value => rfl
  | raise fault => rfl
  | call op resume ih => exact ih _ _

@[simp] theorem run_await (server : Server Op Ans Fault σ) (op : Op) (state : σ) :
    (await op : Coro Op Ans Fault (Ans op)).run server state = server op state := by
  rcases answered : server op state with ⟨value | fault, after⟩ <;>
    simp [await, run, ofAnswer, answered]

@[simp] theorem run_ofAnswer (server : Server Op Ans Fault σ) (answer : Except Fault α) (state : σ) :
    (ofAnswer answer : Coro Op Ans Fault α).run server state = (answer, state) := by
  cases answer <;> rfl

/-- The run against a server is one of the runs against any environment that can
answer as the server does. -/
theorem steps_run {answers : Answers Op Ans Fault σ} {server : Server Op Ans Fault σ}
    (serves : ∀ op state, answers op (server op state).1 state (server op state).2)
    (program : Coro Op Ans Fault α) (state : σ) :
    Steps answers program state (ofAnswer (program.run server state).1)
      (program.run server state).2 := by
  induction program generalizing state with
  | done value => exact .refl _ _
  | raise fault => exact .refl _ _
  | call op resume ih => exact .call (serves op state) (ih _ _)

/-- A run against a server for at most so many calls. -/
def advance (server : Server Op Ans Fault σ) :
    Nat → Coro Op Ans Fault α → σ → Coro Op Ans Fault α × σ
  | count + 1, .call op resume, state =>
      advance server count (resume (server op state).1) (server op state).2
  | _, program, state => (program, state)

theorem steps_advance {answers : Answers Op Ans Fault σ} {server : Server Op Ans Fault σ}
    (serves : ∀ op state, answers op (server op state).1 state (server op state).2) (count : Nat)
    (program : Coro Op Ans Fault α) (state : σ) :
    Steps answers program state (advance server count program state).1
      (advance server count program state).2 := by
  induction count generalizing program state with
  | zero => cases program <;> exact .refl _ _
  | succ count ih =>
      cases program with
      | done value => exact .refl _ _
      | raise fault => exact .refl _ _
      | call op resume => exact .call (serves op state) (ih _ _)

/-- A weakest precondition under a server's own answers speaks about its run. -/
theorem wp_run {server : Server Op Ans Fault σ} {pre : Op → σ → Prop}
    {post : Except Fault α → σ → Prop} {program : Coro Op Ans Fault α} {state : σ}
    (holds : program.wp (fun op answer before after => server op before = (answer, after))
      pre post state) : post (program.run server state).1 (program.run server state).2 := by
  induction program generalizing state with
  | done value => exact holds
  | raise fault => exact holds
  | call op resume ih => exact ih _ (holds.2 _ _ rfl)

/-- What a weakest precondition promises of every call holds of the calls of a
run. -/
theorem wp_calls {server : Server Op Ans Fault σ} {pre : Op → Prop} {post : Except Fault α → σ → Prop}
    {program : Coro Op Ans Fault α} {state : σ}
    (holds : program.wp (fun op answer before after => server op before = (answer, after))
      (fun op _ => pre op) post state) : ∀ op ∈ program.calls server state, pre op := by
  induction program generalizing state with
  | done value => simp [calls]
  | raise fault => simp [calls]
  | call op resume ih =>
      intro other member
      rcases List.mem_cons.mp member with same | tail
      · exact same ▸ holds.1
      · exact ih _ (holds.2 _ _ rfl) other tail
end Coro

end Python.Coroutine
