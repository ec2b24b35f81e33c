import VibeConnect.Python.Tasks

/-! Coroutines as tasks. A coroutine that only makes calls is a task that only awaits, so it can be run
beside others. What is proved of it call by call holds of the task in a pool. -/
namespace Python.Tasks
open Coroutine

section Calling
variable {State Call Fault α : Type} {Result : Call → Type} {world : World State Result Fault}
  {inv : State → Prop} {rely guarantee : State → State → Prop}

/-- Every call of the coroutine is awaited. -/
def calling : Coro Call Result Fault α → Task State Result Fault α
  | .done value => .done value
  | .raise fault => .raise fault
  | .call op resume => .call (.await op) fun answer => calling (resume answer)

/-- How a call is answered among other tasks: they may have run before. -/
def asked (world : World State Result Fault) (inv : State → Prop) (rely : State → State → Prop) :
    Coro.Answers Call Result Fault State :=
  fun call answer before after => ∃ resumed, rely before resumed ∧ inv resumed ∧ world call answer resumed after

theorem calling_safe {program : Coro Call Result Fault α} {post : Except Fault α → State → Prop} {state : State}
    (safe : program.wp (asked world inv rely) (fun _ => inv) post state) :
    (calling program).wp (answered world inv rely) (obliged inv guarantee) post state := by
  induction program generalizing state with
  | done value => exact safe
  | raise fault => exact safe
  | call op resume ih =>
      refine ⟨safe.1, ?_⟩
      rintro answer after given
      exact ih answer (safe.2 answer after given)

/-- The rule of one call. -/
theorem asked_safe {call : Call} {post : Except Fault (Result call) → State → Prop} {state : State}
    (holds : inv state) (next : ∀ answer resumed after, rely state resumed → inv resumed →
      world call answer resumed after → post answer after) :
    (Coro.await call : Coro Call Result Fault (Result call)).wp (asked world inv rely) (fun _ => inv)
      post state := by
  apply Coro.wp_await holds
  rintro answer after ⟨resumed, relied, still, given⟩
  exact next answer resumed after relied still given

theorem calling_settled (program : Coro Call Result Fault α) (state : State) :
    settle (calling program) state = (calling program, state) := by
  cases program <;> rfl
end Calling

end Python.Tasks
