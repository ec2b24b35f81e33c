import Mathlib.Data.List.Chain
import VibeConnect.Python.Coroutine

/-! Tasks on an event loop. A task looks at the shared state, changes it, or
awaits a call. Only at a call does another task run, so `settle` takes a task
from one call to the next in one go. A pool holds any number of tasks, and a
step of it starts a task or answers the call one of them waits for.

An invariant of the pool is proved one task at a time. A task may rely on what
the others guarantee, and owes its own guarantee for every change and the
invariant wherever it awaits or ends; `reachable_safe` puts the tasks together. -/
namespace Python.Tasks
open Coroutine

inductive TaskOp (State Call Fault : Type) where
  | look
  | atomic (block : State → Except Fault Unit × State)
  | await (call : Call)

abbrev TaskAns (State : Type) {Call : Type} (Result : Call → Type) {Fault : Type} :
    TaskOp State Call Fault → Type
  | .look => State
  | .atomic _ => Unit
  | .await call => Result call

abbrev Task (State : Type) {Call : Type} (Result : Call → Type) (Fault α : Type) :=
  Coro (TaskOp State Call Fault) (TaskAns State Result) Fault α

section Programs
variable {State Call Fault α : Type} {Result : Call → Type}

def look : Task State Result Fault State := Coro.await TaskOp.look

def atomic (block : State → Except Fault Unit × State) : Task State Result Fault Unit :=
  Coro.await (TaskOp.atomic block)

/-- A change that cannot fail. -/
def update (change : State → State) : Task State Result Fault Unit :=
  atomic fun state => (.ok (), change state)

/-- A change that either succeeds or raises and changes nothing. -/
def attempt (change : State → Except Fault State) : Task State Result Fault Unit :=
  atomic fun state => match change state with
    | .ok after => (.ok (), after)
    | .error fault => (.error fault, state)

def await (call : Call) : Task State Result Fault (Result call) := Coro.await (TaskOp.await call)

/-- A change with a value, whose effects stay when it raises. -/
def change (block : State → Except Fault α × State) : Task State Result Fault α := do
  let state ← look
  update fun _ => (block state).2
  Coro.ofAnswer (block state).1

section Rules
variable {σ : Type} {answers : Coro.Answers (TaskOp State Call Fault) (TaskAns State Result) Fault σ}
  {pre : TaskOp State Call Fault → σ → Prop} {state : σ}

theorem wp_look {post : Except Fault State → σ → Prop} (ready : pre .look state)
    (holds : ∀ answer after, answers .look answer state after → post answer after) :
    (look : Task State Result Fault State).wp answers pre post state :=
  Coro.wp_await ready holds

theorem wp_atomic {block : State → Except Fault Unit × State} {post : Except Fault Unit → σ → Prop}
    (ready : pre (.atomic block) state)
    (holds : ∀ answer after, answers (.atomic block) answer state after → post answer after) :
    (atomic block : Task State Result Fault Unit).wp answers pre post state :=
  Coro.wp_await ready holds

theorem wp_call {call : Call} {post : Except Fault (Result call) → σ → Prop}
    (ready : pre (.await call) state)
    (holds : ∀ answer after, answers (.await call) answer state after → post answer after) :
    (await call : Task State Result Fault (Result call)).wp answers pre post state :=
  Coro.wp_await ready holds
end Rules

/-- `while True`, unrolled. A run that uses up its turns waits for ever; every
finite run has a number of turns it does not use up. -/
def forever (never : Task State Result Fault α) (body : Task State Result Fault Unit) :
    Nat → Task State Result Fault α
  | 0 => never
  | turns + 1 => do
      body
      forever never body turns

/-- Run up to the next call. -/
def settle : Task State Result Fault α → State → Task State Result Fault α × State
  | .done value, state => (.done value, state)
  | .raise fault, state => (.raise fault, state)
  | .call .look resume, state => settle (resume (.ok state)) state
  | .call (.atomic block) resume, state => settle (resume (block state).1) (block state).2
  | .call (.await call) resume, state => (.call (.await call) resume, state)

/-- The task waits for a call or has ended. -/
def Settled : Task State Result Fault α → Prop
  | .call .look _ | .call (.atomic _) _ => False
  | _ => True

theorem settle_settled (program : Task State Result Fault α) (state : State) :
    Settled (settle program state).1 := by
  induction program generalizing state with
  | done value => trivial
  | raise fault => trivial
  | call op resume ih =>
      cases op with
      | look => exact ih _ _
      | atomic block => exact ih _ _
      | await call => trivial

theorem settle_look {next : State → Task State Result Fault α} (state : State) :
    settle (look >>= next) state = settle (next state) state := rfl

theorem settle_update {change : State → State} {next : Unit → Task State Result Fault α}
    (state : State) : settle (update change >>= next) state = settle (next ()) (change state) := rfl

theorem attempt_ok {change : State → Except Fault State} {state after : State}
    (changed : change state = .ok after) : (match change state with
      | .ok after => ((.ok () : Except Fault Unit), after)
      | .error fault => (.error fault, state)) = (.ok (), after) := by rw [changed]

theorem settle_attempt {change : State → Except Fault State} {next : Unit → Task State Result Fault α}
    {state after : State} (changed : change state = .ok after) :
    settle (attempt change >>= next) state = settle (next ()) after := by
  change settle ((Coro.ofAnswer (match change state with
      | .ok after => ((.ok () : Except Fault Unit), after)
      | .error fault => (.error fault, state)).1).bind next) (match change state with
      | .ok after => ((.ok () : Except Fault Unit), after)
      | .error fault => (.error fault, state)).2 = _
  rw [attempt_ok changed]
  rfl

theorem settle_attempt_error {change : State → Except Fault State}
    {next : Unit → Task State Result Fault α} {state : State} {fault : Fault}
    (failed : change state = .error fault) :
    settle (attempt change >>= next) state = (.raise fault, state) := by
  have unchanged : (match change state with
      | .ok after => ((.ok () : Except Fault Unit), after)
      | .error fault => (.error fault, state)) = (.error fault, state) := by rw [failed]
  change settle ((Coro.ofAnswer (match change state with
      | .ok after => ((.ok () : Except Fault Unit), after)
      | .error fault => (.error fault, state)).1).bind next) (match change state with
      | .ok after => ((.ok () : Except Fault Unit), after)
      | .error fault => (.error fault, state)).2 = _
  rw [unchanged]
  rfl

/-- The same inside any statement that hands the calls of its body on. -/
theorem settle_attempt_within {β : Type} {around : Task State Result Fault α → Task State Result Fault β}
    (hands : ∀ op resume, around (.call op resume) = .call op fun answer => around (resume answer))
    {change : State → Except Fault State} {next : Unit → Task State Result Fault α} {state after : State}
    (changed : change state = .ok after) :
    settle (around (attempt change >>= next)) state = settle (around (next ())) after := by
  unfold attempt atomic Coro.await
  rw [Coro.call_bind, hands]
  change settle (around (Coro.ofAnswer (match change state with
      | .ok after => ((.ok () : Except Fault Unit), after)
      | .error fault => (.error fault, state)).1 >>= next)) (match change state with
      | .ok after => ((.ok () : Except Fault Unit), after)
      | .error fault => (.error fault, state)).2 = _
  rw [attempt_ok changed]
  rfl

theorem settle_attempt_error_within {β : Type}
    {around : Task State Result Fault α → Task State Result Fault β}
    (hands : ∀ op resume, around (.call op resume) = .call op fun answer => around (resume answer))
    {change : State → Except Fault State} {next : Unit → Task State Result Fault α} {state : State}
    {fault : Fault} (failed : change state = .error fault) :
    settle (around (attempt change >>= next)) state = settle (around (.raise fault)) state := by
  have unchanged : (match change state with
      | .ok after => ((.ok () : Except Fault Unit), after)
      | .error fault => (.error fault, state)) = (.error fault, state) := by rw [failed]
  unfold attempt atomic Coro.await
  rw [Coro.call_bind, hands]
  change settle (around (Coro.ofAnswer (match change state with
      | .ok after => ((.ok () : Except Fault Unit), after)
      | .error fault => (.error fault, state)).1 >>= next)) (match change state with
      | .ok after => ((.ok () : Except Fault Unit), after)
      | .error fault => (.error fault, state)).2 = _
  rw [unchanged]
  rfl

/-- The same where the outcome of the rest is awaited. -/
theorem settle_attempt_outcome {β : Type} {change : State → Except Fault State}
    {next : Unit → Task State Result Fault α} {rest : Except Fault α → Task State Result Fault β}
    {state after : State} (changed : change state = .ok after) :
    settle (Coro.outcome (attempt change >>= next) >>= rest) state =
      settle (Coro.outcome (next ()) >>= rest) after := by
  change settle (Coro.outcome ((Coro.ofAnswer (match change state with
      | .ok after => ((.ok () : Except Fault Unit), after)
      | .error fault => (.error fault, state)).1).bind next) >>= rest) (match change state with
      | .ok after => ((.ok () : Except Fault Unit), after)
      | .error fault => (.error fault, state)).2 = _
  rw [attempt_ok changed]
  rfl

theorem settle_look_outcome {β : Type} {next : State → Task State Result Fault α}
    {rest : Except Fault α → Task State Result Fault β} (state : State) :
    settle (Coro.outcome (look >>= next) >>= rest) state = settle (Coro.outcome (next state) >>= rest) state := rfl

theorem settle_change_outcome {β γ : Type} {block : State → Except Fault γ × State}
    {next : γ → Task State Result Fault α} {rest : Except Fault α → Task State Result Fault β} (state : State) :
    settle (Coro.outcome (change block >>= next) >>= rest) state =
      settle (Coro.outcome (Coro.ofAnswer (block state).1 >>= next) >>= rest) (block state).2 := rfl
end Programs

section Serving
variable {State Call Fault α : Type} {Result : Call → Type}

/-- A task alone with its state, when every call is answered at once. -/
def serve (calls : (call : Call) → State → Except Fault (Result call) × State) :
    Coro.Server (TaskOp State Call Fault) (TaskAns State Result) Fault State
  | .look, state => (.ok state, state)
  | .atomic block, state => block state
  | .await call, state => calls call state

variable {calls : (call : Call) → State → Except Fault (Result call) × State} (state : State)

@[simp] theorem run_look :
    (look : Task State Result Fault State).run (serve calls) state = (.ok state, state) := rfl

@[simp] theorem run_update (change : State → State) :
    (update change : Task State Result Fault Unit).run (serve calls) state =
      (.ok (), change state) := rfl

@[simp] theorem run_change (block : State → Except Fault α × State) :
    (change block : Task State Result Fault α).run (serve calls) state = block state := by
  simp only [change, Coro.run_bind, run_look, run_update, Coro.run_ofAnswer]

theorem run_attempt {change : State → Except Fault State} {state after : State}
    (changed : change state = .ok after) :
    (attempt change : Task State Result Fault Unit).run (serve calls) state = (.ok (), after) := by
  simp [attempt, atomic, serve, changed]

theorem run_attempt_error {change : State → Except Fault State} {state : State} {fault : Fault}
    (failed : change state = .error fault) :
    (attempt change : Task State Result Fault Unit).run (serve calls) state =
      (.error fault, state) := by
  simp [attempt, atomic, serve, failed]

@[simp] theorem run_call (call : Call) :
    (await call : Task State Result Fault (Result call)).run (serve calls) state =
      calls call state :=
  Coro.run_await _ _ _
end Serving

section Contract
variable {State Call Fault α β : Type} {Result : Call → Type}

/-- How a call can be answered, and what the world does meanwhile. -/
abbrev World (State : Type) {Call : Type} (Result : Call → Type) (Fault : Type) :=
  (call : Call) → Except Fault (Result call) → State → State → Prop

/-- What one task relies on, what it owes the others, and how it may end. -/
structure Contract (State Fault α : Type) where
  rely : State → State → Prop
  guarantee : State → State → Prop
  post : Except Fault α → State → Prop

/-- A contract that steps of any number compose in. -/
structure Contract.Lawful (contract : Contract State Fault α) : Prop where
  rely_refl : ∀ state, contract.rely state state
  rely_trans : ∀ one two three, contract.rely one two → contract.rely two three →
    contract.rely one three
  guarantee_refl : ∀ state, contract.guarantee state state
  guarantee_trans : ∀ one two three, contract.guarantee one two → contract.guarantee two three →
    contract.guarantee one three
  stable : ∀ outcome before after, contract.post outcome before → contract.rely before after →
    contract.post outcome after

/-- The answers a task can see: its own changes take effect at once; before a
call is answered the others may have run. -/
def answered (world : World State Result Fault) (inv : State → Prop) (rely : State → State → Prop) :
    Coro.Answers (TaskOp State Call Fault) (TaskAns State Result) Fault State
  | .look, answer, before, after => answer = .ok before ∧ after = before
  | .atomic block, answer, before, after => answer = (block before).1 ∧ after = (block before).2
  | .await call, answer, before, after =>
      ∃ resumed, rely before resumed ∧ inv resumed ∧ world call answer resumed after

def obliged (inv : State → Prop) (guarantee : State → State → Prop) :
    TaskOp State Call Fault → State → Prop
  | .look, _ => True
  | .atomic block, state => guarantee state (block state).2
  | .await _, state => inv state

def Safe (world : World State Result Fault) (inv : State → Prop) (contract : Contract State Fault α)
    (program : Task State Result Fault α) (state : State) : Prop :=
  program.wp (answered world inv contract.rely) (obliged inv contract.guarantee)
    (fun outcome after => inv after ∧ contract.post outcome after) state

variable {world : World State Result Fault} {inv : State → Prop} {contract : Contract State Fault α}

theorem safe_settle (lawful : contract.Lawful) {program : Task State Result Fault α} {state : State}
    (safe : Safe world inv contract program state) :
    contract.guarantee state (settle program state).2 ∧
      Safe world inv contract (settle program state).1 (settle program state).2 := by
  induction program generalizing state with
  | done value => exact ⟨lawful.guarantee_refl state, safe⟩
  | raise fault => exact ⟨lawful.guarantee_refl state, safe⟩
  | call op resume ih =>
      cases op with
      | look => exact ih _ (safe.2 _ _ ⟨rfl, rfl⟩)
      | atomic block =>
          have tail := ih _ (safe.2 _ _ ⟨rfl, rfl⟩)
          exact ⟨lawful.guarantee_trans _ _ _ safe.1 tail.1, tail.2⟩
      | await call => exact ⟨lawful.guarantee_refl state, safe⟩

/-- A settled task keeps the invariant. -/
theorem safe_inv {program : Task State Result Fault α} {state : State} (settled : Settled program)
    (safe : Safe world inv contract program state) : inv state := by
  cases program with
  | done value => exact safe.1
  | raise fault => exact safe.1
  | call op resume =>
      cases op with
      | look => exact settled.elim
      | atomic block => exact settled.elim
      | await call => exact safe.1

/-- What the others do to the state while a task waits does not hurt it. -/
theorem safe_relied (composes : ∀ one two three, contract.rely one two → contract.rely two three →
      contract.rely one three)
    (stable : ∀ outcome before after, contract.post outcome before → contract.rely before after →
      contract.post outcome after)
    {program : Task State Result Fault α} {state after : State} (settled : Settled program)
    (safe : Safe world inv contract program state) (relied : contract.rely state after)
    (holds : inv after) : Safe world inv contract program after := by
  cases program with
  | done value => exact ⟨holds, stable _ _ _ safe.2 relied⟩
  | raise fault => exact ⟨holds, stable _ _ _ safe.2 relied⟩
  | call op resume =>
      cases op with
      | look => exact settled.elim
      | atomic block => exact settled.elim
      | await call =>
          refine ⟨holds, fun answer last seen => ?_⟩
          obtain ⟨resumed, later, holdsLater, given⟩ := seen
          exact safe.2 answer last ⟨resumed, composes _ _ _ relied later, holdsLater, given⟩

theorem safe_rely (lawful : contract.Lawful) {program : Task State Result Fault α}
    {state after : State} (settled : Settled program) (safe : Safe world inv contract program state)
    (relied : contract.rely state after) (holds : inv after) :
    Safe world inv contract program after :=
  safe_relied lawful.rely_trans lawful.stable settled safe relied holds

/-- The states after each change up to the next call. -/
def moments : Task State Result Fault α → State → List State
  | .done _, _ | .raise _, _ => []
  | .call .look resume, state => moments (resume (.ok state)) state
  | .call (.atomic block) resume, state =>
      (block state).2 :: moments (resume (block state).1) (block state).2
  | .call (.await _) _, _ => []

theorem moments_settle (program : Task State Result Fault α) (state : State) :
    (state :: moments program state).getLast? = some (settle program state).2 := by
  induction program generalizing state with
  | done value => rfl
  | raise fault => rfl
  | call op resume ih =>
      cases op with
      | look => exact ih _ _
      | atomic block =>
          have tail := ih (block state).1 (block state).2
          change (state :: (block state).2 :: moments (resume (block state).1) (block state).2).getLast? = _
          rw [List.getLast?_cons_cons]
          exact tail
      | await call => rfl

/-- Each change on the way is one that the task owes, even where such changes
do not compose. -/
theorem safe_moments {program : Task State Result Fault α} {state : State}
    (safe : Safe world inv contract program state) :
    (state :: moments program state).IsChain contract.guarantee ∧
      Safe world inv contract (settle program state).1 (settle program state).2 := by
  induction program generalizing state with
  | done value => exact ⟨.singleton _, safe⟩
  | raise fault => exact ⟨.singleton _, safe⟩
  | call op resume ih =>
      cases op with
      | look => exact ih _ (safe.2 _ _ ⟨rfl, rfl⟩)
      | atomic block =>
          have tail := ih _ (safe.2 _ _ ⟨rfl, rfl⟩)
          exact ⟨.cons_cons safe.1 tail.1, tail.2⟩
      | await call => exact ⟨.singleton _, safe⟩

/-! One rule for each thing a task can do. -/
section Doing
variable {rely guarantee : State → State → Prop} {state : State}

theorem look_safe {post : Except Fault State → State → Prop} (next : post (.ok state) state) :
    (look : Task State Result Fault State).wp (answered world inv rely) (obliged inv guarantee)
      post state := by
  refine wp_look trivial ?_
  rintro answer after ⟨rfl, rfl⟩
  exact next

theorem update_safe {change : State → State} {post : Except Fault Unit → State → Prop}
    (moved : guarantee state (change state)) (next : post (.ok ()) (change state)) :
    (update change : Task State Result Fault Unit).wp (answered world inv rely)
      (obliged inv guarantee) post state := by
  refine wp_atomic moved ?_
  rintro answer after ⟨rfl, rfl⟩
  exact next

theorem attempt_safe {change : State → Except Fault State} {post : Except Fault Unit → State → Prop}
    (still : guarantee state state)
    (changed : ∀ after, change state = .ok after → guarantee state after ∧ post (.ok ()) after)
    (raised : ∀ fault, change state = .error fault → post (.error fault) state) :
    (attempt change : Task State Result Fault Unit).wp (answered world inv rely)
      (obliged inv guarantee) post state := by
  refine wp_atomic ?_ ?_
  · dsimp only [obliged]
    cases tried : change state with
    | ok after => exact (changed after tried).1
    | error fault => exact still
  · rintro answer after ⟨rfl, rfl⟩
    dsimp only
    cases tried : change state with
    | ok after => exact (changed after tried).2
    | error fault => exact raised fault tried

theorem change_safe {block : State → Except Fault β × State} {post : Except Fault β → State → Prop}
    (moved : guarantee state (block state).2) (next : post (block state).1 (block state).2) :
    (change block : Task State Result Fault β).wp (answered world inv rely) (obliged inv guarantee)
      post state :=
  Coro.wp_bind (look_safe (Coro.wp_bind (update_safe moved (Coro.wp_ofAnswer next))))

/-- A change that is known to succeed. -/
theorem change_done {block : State → Except Fault β × State} {post : Except Fault β → State → Prop}
    {value : β} {after : State} (done : block state = (.ok value, after)) (moved : guarantee state after)
    (next : post (.ok value) after) :
    (change block : Task State Result Fault β).wp (answered world inv rely) (obliged inv guarantee)
      post state := by
  apply change_safe
  · rw [done]
    exact moved
  · rw [done]
    exact next

theorem call_safe {call : Call} {post : Except Fault (Result call) → State → Prop}
    (holds : inv state) (next : ∀ answer resumed after, rely state resumed → inv resumed →
      world call answer resumed after → post answer after) :
    (await call : Task State Result Fault (Result call)).wp (answered world inv rely)
      (obliged inv guarantee) post state := by
  refine wp_call holds ?_
  rintro answer after ⟨resumed, relied, still, given⟩
  exact next answer resumed after relied still given
end Doing

/-- An answer given at once is one the task is safe for. -/
theorem safe_resume (lawful : contract.Lawful) {call : Call}
    {resume : Except Fault (Result call) → Task State Result Fault α} {state after : State}
    {answer : Except Fault (Result call)}
    (safe : Safe world inv contract (.call (.await call) resume) state)
    (given : world call answer state after) : Safe world inv contract (resume answer) after :=
  safe.2 answer after ⟨state, lawful.rely_refl state, safe.1, given⟩

/-- Whatever a task waits for, from each answer it gets on to a state that keeps
the invariant. A call with an answer that rules this out is not waited for. -/
theorem safe_answered (lawful : contract.Lawful) {call : Call}
    {resume : Except Fault (Result call) → Task State Result Fault α} {state after : State}
    {answer : Except Fault (Result call)}
    (safe : Safe world inv contract (.call (.await call) resume) state)
    (given : world call answer state after) : ∃ later, contract.guarantee after later ∧ inv later := by
  obtain ⟨moved, settled⟩ := safe_settle lawful (safe_resume lawful safe given)
  exact ⟨_, moved, safe_inv (settle_settled _ _) settled⟩
end Contract

section Pools
variable {Key State Call Fault : Type} {Result : Call → Type} [DecidableEq Key]

structure Pool (Key State : Type) {Call : Type} (Result : Call → Type) (Fault : Type) where
  tasks : Key → Option (Task State Result Fault Unit)
  state : State

/-- Let one task run from where it is to its next call. -/
def Pool.advance (pool : Pool Key State Result Fault) (key : Key)
    (program : Task State Result Fault Unit) (state : State) : Pool Key State Result Fault :=
  ⟨Function.update pool.tasks key (some (settle program state).1), (settle program state).2⟩

variable (world : Key → World State Result Fault)
  (programs : Key → Task State Result Fault Unit → State → Prop)

/-- A key names one task of the run: it is spawned at most once. -/
inductive Step : Pool Key State Result Fault → Pool Key State Result Fault → Prop
  | spawn {pool key program} : pool.tasks key = none → programs key program pool.state →
      Step pool (pool.advance key program pool.state)
  | resume {pool key call resume answer after} :
      pool.tasks key = some (.call (.await call) resume) →
      world key call answer pool.state after → Step pool (pool.advance key (resume answer) after)

inductive Reachable (start : State) : Pool Key State Result Fault → Prop
  | start : Reachable start ⟨fun _ => none, start⟩
  | step {before after} : Reachable start before → Step world programs before after →
      Reachable start after

variable {world programs}

theorem spawn_step (pool : Pool Key State Result Fault) (key : Key)
    (program : Task State Result Fault Unit) (free : pool.tasks key = none)
    (started : programs key program pool.state) :
    Step world programs pool (pool.advance key program pool.state) :=
  .spawn free started

theorem Reachable.spawn {start : State} {pool : Pool Key State Result Fault}
    (reached : Reachable world programs start pool) (key : Key) (program : Task State Result Fault Unit)
    (free : pool.tasks key = none) (started : programs key program pool.state) :
    Reachable world programs start (pool.advance key program pool.state) :=
  .step reached (spawn_step pool key program free started)

theorem Reachable.resume {start : State} {pool : Pool Key State Result Fault}
    (reached : Reachable world programs start pool) (key : Key) {call : Call}
    {resume : Except Fault (Result call) → Task State Result Fault Unit}
    (waiting : pool.tasks key = some (.call (.await call) resume))
    (answer : Except Fault (Result call)) (after : State)
    (given : world key call answer pool.state after) :
    Reachable world programs start (pool.advance key (resume answer) after) :=
  .step reached (.resume waiting given)

/-- A task was started and stands where it settles. -/
theorem Reachable.spawned {start : State} {pool : Pool Key State Result Fault}
    (reached : Reachable world programs start pool) (key : Key) {program : Task State Result Fault Unit}
    (free : pool.tasks key = none) (started : programs key program pool.state)
    {rest : Task State Result Fault Unit} {after : State}
    (settled : settle program pool.state = (rest, after)) :
    ∃ next, Reachable world programs start next ∧ next.state = after ∧
      next.tasks = Function.update pool.tasks key (some rest) := by
  refine ⟨_, reached.spawn key program free started, congrArg Prod.snd settled, ?_⟩
  rw [Pool.advance, settled]

/-- A call was answered and its task stands where it settles next. -/
theorem Reachable.resumed {start : State} {pool : Pool Key State Result Fault}
    (reached : Reachable world programs start pool) (key : Key) {call : Call}
    {resume : Except Fault (Result call) → Task State Result Fault Unit}
    (waiting : pool.tasks key = some (.call (.await call) resume)) (answer : Except Fault (Result call))
    {given after : State} (answers : world key call answer pool.state given)
    {rest : Task State Result Fault Unit} (settled : settle (resume answer) given = (rest, after)) :
    ∃ next, Reachable world programs start next ∧ next.state = after ∧
      next.tasks = Function.update pool.tasks key (some rest) := by
  refine ⟨_, reached.resume key waiting answer given answers, congrArg Prod.snd settled, ?_⟩
  rw [Pool.advance, settled]

/-- The same beside tasks that stay where they are. -/
theorem Reachable.resumed_beside {start : State} {pool : Pool Key State Result Fault}
    (reached : Reachable world programs start pool) {key : Key} {call : Call}
    {resume : Except Fault (Result call) → Task State Result Fault Unit}
    {others : Key → Option (Task State Result Fault Unit)}
    (beside : pool.tasks = Function.update others key (some (.call (.await call) resume)))
    (answer : Except Fault (Result call)) {given after : State}
    (answers : world key call answer pool.state given) {rest : Task State Result Fault Unit}
    (settled : settle (resume answer) given = (rest, after)) :
    ∃ next, Reachable world programs start next ∧ next.state = after ∧
      next.tasks = Function.update others key (some rest) := by
  have waiting : pool.tasks key = some (.call (.await call) resume) := by
    rw [beside]
    exact Function.update_self ..
  obtain ⟨next, there, state, tasks⟩ := reached.resumed key waiting answer answers settled
  refine ⟨next, there, state, ?_⟩
  rw [tasks, beside, Function.update_idem]

/-- A task that is answered at once makes only calls that are `allowed`. -/
def staysWithin (calls : (call : Call) → State → Except Fault (Result call) × State)
    (allowed : Call → State → Bool) : Task State Result Fault Unit → State → Bool
  | .done _, _ => true
  | .raise _, _ => true
  | .call .look resume, state => staysWithin calls allowed (resume (.ok state)) state
  | .call (.atomic block) resume, state =>
      staysWithin calls allowed (resume (block state).1) (block state).2
  | .call (.await call) resume, state => allowed call state &&
      staysWithin calls allowed (resume (calls call state).1) (calls call state).2

theorem staysWithin_all (calls : (call : Call) → State → Except Fault (Result call) × State)
    (program : Task State Result Fault Unit) (state : State) :
    staysWithin calls (fun _ _ => true) program state = true := by
  induction program generalizing state with
  | done value => rfl
  | raise fault => rfl
  | call op resume ih =>
      cases op with
      | look => exact ih _ _
      | atomic block => exact ih _ _
      | await call => exact ih _ _

/-- A task whose calls are all answered at once runs to its end before any other. -/
theorem Reachable.served {start : State} {pool : Pool Key State Result Fault}
    (calls : (call : Call) → State → Except Fault (Result call) × State)
    (allowed : Call → State → Bool) (key : Key)
    (given : ∀ call state, allowed call state = true →
      world key call (calls call state).1 state (calls call state).2)
    {program : Task State Result Fault Unit} {state : State}
    (reached : Reachable world programs start (pool.advance key program state))
    (within : staysWithin calls allowed program state = true) :
    Reachable world programs start
      ⟨Function.update pool.tasks key (some (Coro.ofAnswer (program.run (serve calls) state).1)),
        (program.run (serve calls) state).2⟩ := by
  induction program generalizing pool state with
  | done value => exact reached
  | raise fault => exact reached
  | call op resume ih =>
      cases op with
      | look => exact ih _ reached within
      | atomic block => exact ih _ reached within
      | await call =>
          obtain ⟨permitted, rest⟩ := Bool.and_eq_true_iff.mp within
          have answered := reached.resume key (Function.update_self ..) _ _ (given call state permitted)
          have ended := ih _ answered rest
          rw [Pool.advance, Function.update_idem] at ended
          exact ended

/-- A run is also one of a world that can answer in more ways. -/
theorem Reachable.widen {wider : Key → World State Result Fault} {start : State}
    {pool : Pool Key State Result Fault} (reached : Reachable world programs start pool)
    (more : ∀ key call answer before after, world key call answer before after →
      wider key call answer before after) : Reachable wider programs start pool := by
  induction reached with
  | start => exact .start
  | step _ step ih =>
      cases step with
      | spawn free started => exact ih.step (.spawn free started)
      | resume waiting given => exact ih.step (.resume waiting (more _ _ _ _ _ given))

/-- A run with all the states that it has been through. -/
inductive History (world : Key → World State Result Fault)
    (programs : Key → Task State Result Fault Unit → State → Prop) (start : State) :
    List State → Pool Key State Result Fault → Prop
  | start : History world programs start [start] ⟨fun _ => none, start⟩
  | spawn {past pool key program} : History world programs start past pool →
      pool.tasks key = none → programs key program pool.state →
      History world programs start (past ++ moments program pool.state)
        (pool.advance key program pool.state)
  | resume {past pool key call resume answer after} : History world programs start past pool →
      pool.tasks key = some (.call (.await call) resume) →
      world key call answer pool.state after →
      History world programs start (past ++ after :: moments (resume answer) after)
        (pool.advance key (resume answer) after)

theorem History.reachable {start : State} {past : List State} {pool : Pool Key State Result Fault}
    (history : History world programs start past pool) : Reachable world programs start pool := by
  induction history with
  | start => exact .start
  | spawn _ free started ih => exact .step ih (.spawn free started)
  | resume _ waiting given ih => exact .step ih (.resume waiting given)

theorem History.starts {start : State} {past : List State} {pool : Pool Key State Result Fault}
    (history : History world programs start past pool) : ∃ later, past = start :: later := by
  induction history with
  | start => exact ⟨[], rfl⟩
  | spawn _ _ _ ih =>
      obtain ⟨later, rfl⟩ := ih
      exact ⟨_, rfl⟩
  | resume _ _ _ ih =>
      obtain ⟨later, rfl⟩ := ih
      exact ⟨_, rfl⟩

/-- Every run has a history. -/
theorem Reachable.history {start : State} {pool : Pool Key State Result Fault}
    (reached : Reachable world programs start pool) : ∃ past, History world programs start past pool := by
  induction reached with
  | start => exact ⟨_, .start⟩
  | step _ step ih =>
      obtain ⟨past, history⟩ := ih
      cases step with
      | spawn free started => exact ⟨_, .spawn history free started⟩
      | resume waiting given => exact ⟨_, .resume history waiting given⟩

variable {inv : State → Prop} {contracts : Key → Contract State Fault Unit}

/-- Every task is settled and safe. -/
def Pool.Safe (world : Key → World State Result Fault) (inv : State → Prop)
    (contracts : Key → Contract State Fault Unit) (pool : Pool Key State Result Fault) : Prop :=
  inv pool.state ∧ ∀ key program, pool.tasks key = some program →
    Settled program ∧ Tasks.Safe (world key) inv (contracts key) program pool.state

theorem advance_safe (lawful : ∀ key, (contracts key).Lawful)
    (others : ∀ key other before after, key ≠ other → (contracts key).guarantee before after →
      (contracts other).rely before after)
    {pool : Pool Key State Result Fault} {key : Key} {program : Task State Result Fault Unit}
    {state : State} (safe : pool.Safe world inv contracts)
    (moved : (contracts key).guarantee pool.state state)
    (next : Tasks.Safe (world key) inv (contracts key) program state) :
    (pool.advance key program state).Safe world inv contracts := by
  obtain ⟨changed, settledSafe⟩ := safe_settle (lawful key) next
  have holds := safe_inv (settle_settled program state) settledSafe
  refine ⟨holds, fun other residue found => ?_⟩
  by_cases same : other = key
  · subst same
    have here : some (settle program state).1 = some residue := by
      simpa [Pool.advance] using found
    cases here
    exact ⟨settle_settled program state, settledSafe⟩
  · have there : pool.tasks other = some residue := by
      simpa [Pool.advance, Function.update_of_ne same] using found
    obtain ⟨settled, otherSafe⟩ := safe.2 other residue there
    have whole := (lawful key).guarantee_trans _ _ _ moved changed
    exact ⟨settled, safe_rely (lawful other) settled otherSafe
      (others key other _ _ (fun equal => same equal.symm) whole) holds⟩

/-- What a step does to the state is what the task that took it owes. -/
theorem step_owed (lawful : ∀ key, (contracts key).Lawful)
    (worldly : ∀ key call answer before after, world key call answer before after →
      (contracts key).guarantee before after)
    (starts : ∀ key program state, programs key program state → inv state →
      Tasks.Safe (world key) inv (contracts key) program state)
    {before after : Pool Key State Result Fault} (safe : before.Safe world inv contracts)
    (step : Step world programs before after) :
    ∃ key, (contracts key).guarantee before.state after.state := by
  cases step with
  | spawn _ program => exact ⟨_, (safe_settle (lawful _) (starts _ _ _ program safe.1)).1⟩
  | resume waiting given =>
      have moved := worldly _ _ _ _ _ given
      have resumed := safe_settle (lawful _) (safe_resume (lawful _) (safe.2 _ _ waiting).2 given)
      exact ⟨_, (lawful _).guarantee_trans _ _ _ moved resumed.1⟩

theorem advance_moved (lawful : ∀ key, (contracts key).Lawful) {pool : Pool Key State Result Fault}
    {key : Key} {program : Task State Result Fault Unit} {state : State}
    (moved : (contracts key).guarantee pool.state state)
    (next : Tasks.Safe (world key) inv (contracts key) program state) :
    (contracts key).guarantee pool.state (pool.advance key program state).state :=
  (lawful key).guarantee_trans _ _ _ moved (safe_settle (lawful key) next).1

/-- A step leaves a key that has no task yet as quiet as it was. -/
theorem advance_quiet {quiet : Key → State → Prop}
    (untouched : ∀ key other before after, key ≠ other → (contracts key).guarantee before after →
      quiet other before → quiet other after)
    {pool : Pool Key State Result Fault} {key : Key} {program : Task State Result Fault Unit}
    {state : State} (still : ∀ other, pool.tasks other = none → quiet other pool.state)
    (moved : (contracts key).guarantee pool.state (pool.advance key program state).state) :
    ∀ other, (pool.advance key program state).tasks other = none →
      quiet other (pool.advance key program state).state := by
  intro other free
  by_cases same : other = key
  · subst same
    simp [Pool.advance] at free
  · have before : pool.tasks other = none := by
      simpa [Pool.advance, Function.update_of_ne same] using free
    exact untouched key other _ _ (fun equal => same equal.symm) moved (still other before)

/-- Tasks that are safe one by one are safe together, in every order of steps.
A task may start from what no other task touches. -/
theorem reachable_quiet (quiet : Key → State → Prop) (lawful : ∀ key, (contracts key).Lawful)
    (others : ∀ key other before after, key ≠ other → (contracts key).guarantee before after →
      (contracts other).rely before after)
    (untouched : ∀ key other before after, key ≠ other → (contracts key).guarantee before after →
      quiet other before → quiet other after)
    (worldly : ∀ key call answer before after, world key call answer before after →
      (contracts key).guarantee before after)
    (starts : ∀ key program state, programs key program state → inv state → quiet key state →
      Tasks.Safe (world key) inv (contracts key) program state)
    {start : State} (initial : inv start) (fresh : ∀ key, quiet key start)
    {pool : Pool Key State Result Fault} (reached : Reachable world programs start pool) :
    pool.Safe world inv contracts ∧ ∀ key, pool.tasks key = none → quiet key pool.state := by
  induction reached with
  | start => exact ⟨⟨initial, by simp⟩, fun key _ => fresh key⟩
  | @step before _ _ step ih =>
      cases step with
      | @spawn key _ free program =>
          have same := (lawful key).guarantee_refl before.state
          have begun := starts _ _ _ program ih.1.1 (ih.2 _ free)
          exact ⟨advance_safe lawful others ih.1 same begun,
            advance_quiet untouched ih.2 (advance_moved lawful same begun)⟩
      | resume waiting given =>
          have moved := worldly _ _ _ _ _ given
          have resumed := safe_resume (lawful _) (ih.1.2 _ _ waiting).2 given
          exact ⟨advance_safe lawful others ih.1 moved resumed,
            advance_quiet untouched ih.2 (advance_moved lawful moved resumed)⟩

theorem reachable_safe (lawful : ∀ key, (contracts key).Lawful)
    (others : ∀ key other before after, key ≠ other → (contracts key).guarantee before after →
      (contracts other).rely before after)
    (worldly : ∀ key call answer before after, world key call answer before after →
      (contracts key).guarantee before after)
    (starts : ∀ key program state, programs key program state → inv state →
      Tasks.Safe (world key) inv (contracts key) program state)
    {start : State} (initial : inv start) {pool : Pool Key State Result Fault}
    (reached : Reachable world programs start pool) : pool.Safe world inv contracts :=
  (reachable_quiet (fun _ _ => True) lawful others (fun _ _ _ _ _ _ _ => trivial) worldly
    (fun key program state spawned holds _ => starts key program state spawned holds) initial
    (fun _ => trivial) reached).1
theorem chain_append {related : State → State → Prop} {past more : List State} {last : State}
    (chain : past.IsChain related) (ends : past.getLast? = some last)
    (next : (last :: more).IsChain related) : (past ++ more).IsChain related := by
  apply chain.append next.tail
  intro one final two first
  rw [ends] at final
  cases final
  exact next.rel_head? first

theorem getLast_append {past more : List State} {last final : State}
    (ends : past.getLast? = some last) (next : (last :: more).getLast? = some final) :
    (past ++ more).getLast? = some final := by
  cases more with
  | nil =>
      cases next
      rw [List.append_nil]
      exact ends
  | cons first rest =>
      rw [List.getLast?_append_of_ne_nil past (List.cons_ne_nil first rest)]
      rw [List.getLast?_cons_cons] at next
      exact next

/-- What composes and holds of every two states in a row holds from end to end. -/
theorem chain_composes {related rely : State → State → Prop} (still : ∀ state, rely state state)
    (composes : ∀ one two three, rely one two → rely two three → rely one three)
    (relied : ∀ before after, related before after → rely before after) {first last : State}
    {states : List State} (chain : (first :: states).IsChain related)
    (ends : (first :: states).getLast? = some last) : rely first last := by
  induction states generalizing first with
  | nil =>
      cases ends
      exact still first
  | cons second rest ih =>
      obtain ⟨moved, tail⟩ := List.isChain_cons_cons.mp chain
      rw [List.getLast?_cons_cons] at ends
      exact composes _ _ _ (relied _ _ moved) (ih tail ends)

section Shared
variable {contract : Contract State Fault Unit} (still : ∀ state, contract.rely state state)
  (composes : ∀ one two three, contract.rely one two → contract.rely two three →
    contract.rely one three)
  (stable : ∀ outcome before after, contract.post outcome before → contract.rely before after →
    contract.post outcome after)
  (relied : ∀ before after, contract.guarantee before after → contract.rely before after)

include still composes stable relied in
/-- What a step leaves of the tasks, once its own task is safe in its first state. -/
theorem advance_kept {pool : Pool Key State Result Fault} {key : Key}
    {program : Task State Result Fault Unit} {state : State}
    (safe : pool.Safe world inv (fun _ => contract)) (moved : contract.rely pool.state state)
    (next : Tasks.Safe (world key) inv contract program state) :
    (pool.advance key program state).Safe world inv (fun _ => contract) := by
  obtain ⟨chain, settledSafe⟩ := safe_moments next
  have holds := safe_inv (settle_settled program state) settledSafe
  have later := chain_composes still composes relied chain (moments_settle program state)
  have whole := composes _ _ _ moved later
  refine ⟨holds, fun other residue found => ?_⟩
  by_cases same : other = key
  · subst same
    have here : some (settle program state).1 = some residue := by
      simpa [Pool.advance] using found
    cases here
    exact ⟨settle_settled program state, settledSafe⟩
  · have there : pool.tasks other = some residue := by
      simpa [Pool.advance, Function.update_of_ne same] using found
    obtain ⟨settled, otherSafe⟩ := safe.2 other residue there
    exact ⟨settled, safe_relied composes stable settled otherSafe whole holds⟩

include still composes stable relied in
/-- The tasks that share one contract are safe together, and each state of a run
follows the one before it as the contract says. What a task owes for one change
need not be what it owes for two. -/
theorem history_safe
    (worldly : ∀ key call answer before after, world key call answer before after →
      inv before → contract.guarantee before after)
    (starts : ∀ key program state, programs key program state → inv state →
      Tasks.Safe (world key) inv contract program state)
    {start : State} (initial : inv start) {past : List State} {pool : Pool Key State Result Fault}
    (history : History world programs start past pool) :
    pool.Safe world inv (fun _ => contract) ∧ past.IsChain contract.guarantee ∧
      past.getLast? = some pool.state := by
  induction history with
  | start => exact ⟨⟨initial, by simp⟩, .singleton _, rfl⟩
  | @spawn past pool key program history free started ih =>
      obtain ⟨safe, chain, ends⟩ := ih
      have begun := starts _ _ _ started safe.1
      exact ⟨advance_kept still composes stable relied safe (still _) begun,
        chain_append chain ends (safe_moments begun).1,
        getLast_append ends (moments_settle program pool.state)⟩
  | @resume past pool key call resume answer after history waiting given ih =>
      obtain ⟨safe, chain, ends⟩ := ih
      have moved := worldly _ _ _ _ _ given safe.1
      have asked := (safe.2 _ _ waiting).2
      have resumed : Tasks.Safe (world key) inv contract (resume answer) after :=
        asked.2 answer after ⟨pool.state, still _, safe.1, given⟩
      refine ⟨advance_kept still composes stable relied safe (relied _ _ moved) resumed,
        chain_append chain ends (.cons_cons moved (safe_moments resumed).1), ?_⟩
      apply getLast_append ends
      rw [List.getLast?_cons_cons]
      exact moments_settle (resume answer) after
end Shared
end Pools

end Python.Tasks
