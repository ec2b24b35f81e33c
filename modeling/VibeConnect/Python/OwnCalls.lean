import VibeConnect.Python.Tasks

/-! Tasks that answer for their calls. `reachable_safe` takes what an answered call
does from every task alike. Where only the task whose turn it is may make a call,
each task owes its guarantee for what its own calls do, and `reachable_owned` puts
such tasks together. -/
namespace Python.Tasks
open Coroutine

section Owned
variable {State Call Fault α β : Type} {Result : Call → Type} {world : World State Result Fault}
  {inv : State → Prop} {contract : Contract State Fault α} {rely guarantee : State → State → Prop}

/-- What is owed for a change, and for every way a call can be answered. -/
def owing (world : World State Result Fault) (inv : State → Prop) (rely guarantee : State → State → Prop) :
    TaskOp State Call Fault → State → Prop
  | .look, _ => True
  | .atomic block, state => guarantee state (block state).2
  | .await call, state => inv state ∧ ∀ answer resumed after, rely state resumed → inv resumed →
      world call answer resumed after → guarantee resumed after

def Owned (world : World State Result Fault) (inv : State → Prop) (contract : Contract State Fault α)
    (program : Task State Result Fault α) (state : State) : Prop :=
  program.wp (answered world inv contract.rely) (owing world inv contract.rely contract.guarantee)
    (fun outcome after => inv after ∧ contract.post outcome after) state

theorem owned_settle (lawful : contract.Lawful) {program : Task State Result Fault α} {state : State}
    (owned : Owned world inv contract program state) :
    contract.guarantee state (settle program state).2 ∧
      Owned world inv contract (settle program state).1 (settle program state).2 := by
  induction program generalizing state with
  | done value => exact ⟨lawful.guarantee_refl state, owned⟩
  | raise fault => exact ⟨lawful.guarantee_refl state, owned⟩
  | call op resume ih =>
      cases op with
      | look => exact ih _ (owned.2 _ _ ⟨rfl, rfl⟩)
      | atomic block =>
          have tail := ih _ (owned.2 _ _ ⟨rfl, rfl⟩)
          exact ⟨lawful.guarantee_trans _ _ _ owned.1 tail.1, tail.2⟩
      | await call => exact ⟨lawful.guarantee_refl state, owned⟩

theorem owned_inv {program : Task State Result Fault α} {state : State} (settled : Settled program)
    (owned : Owned world inv contract program state) : inv state := by
  cases program with
  | done value => exact owned.1
  | raise fault => exact owned.1
  | call op resume =>
      cases op with
      | look => exact settled.elim
      | atomic block => exact settled.elim
      | await call => exact owned.1.1

/-- What the others do while a task waits does not change what it owes. -/
theorem owned_rely (lawful : contract.Lawful) {program : Task State Result Fault α}
    {state after : State} (settled : Settled program) (owned : Owned world inv contract program state)
    (relied : contract.rely state after) (holds : inv after) :
    Owned world inv contract program after := by
  cases program with
  | done value => exact ⟨holds, lawful.stable _ _ _ owned.2 relied⟩
  | raise fault => exact ⟨holds, lawful.stable _ _ _ owned.2 relied⟩
  | call op resume =>
      cases op with
      | look => exact settled.elim
      | atomic block => exact settled.elim
      | await call =>
          have later : ∀ last, contract.rely after last → contract.rely state last :=
            fun last => lawful.rely_trans _ _ _ relied
          constructor
          · exact ⟨holds, fun answer resumed last rested => owned.1.2 answer resumed last (later _ rested)⟩
          rintro answer last ⟨resumed, rested, still, given⟩
          exact owned.2 answer last ⟨resumed, later _ rested, still, given⟩

/-! One rule for each thing a task can do. -/
section Doing
variable {state : State}

theorem look_owned {post : Except Fault State → State → Prop} (next : post (.ok state) state) :
    (look : Task State Result Fault State).wp (answered world inv rely) (owing world inv rely guarantee)
      post state := by
  apply wp_look trivial
  rintro answer after ⟨rfl, rfl⟩
  exact next

theorem update_owned {change : State → State} {post : Except Fault Unit → State → Prop}
    (moved : guarantee state (change state)) (next : post (.ok ()) (change state)) :
    (update change : Task State Result Fault Unit).wp (answered world inv rely)
      (owing world inv rely guarantee) post state := by
  apply wp_atomic moved
  rintro answer after ⟨rfl, rfl⟩
  exact next

theorem change_owned {block : State → Except Fault β × State} {post : Except Fault β → State → Prop}
    (moved : guarantee state (block state).2) (next : post (block state).1 (block state).2) :
    (change block : Task State Result Fault β).wp (answered world inv rely)
      (owing world inv rely guarantee) post state :=
  Coro.wp_bind (look_owned (Coro.wp_bind (update_owned moved (Coro.wp_ofAnswer next))))

theorem call_owned {call : Call} {post : Except Fault (Result call) → State → Prop} (holds : inv state)
    (next : ∀ answer resumed after, rely state resumed → inv resumed → world call answer resumed after →
      guarantee resumed after ∧ post answer after) :
    (await call : Task State Result Fault (Result call)).wp (answered world inv rely)
      (owing world inv rely guarantee) post state := by
  apply wp_call
  · exact ⟨holds, fun answer resumed after relied still given =>
      (next answer resumed after relied still given).1⟩
  · rintro answer after ⟨resumed, relied, still, given⟩
    exact (next answer resumed after relied still given).2
end Doing
end Owned

section Pools
variable {Key State Call Fault : Type} {Result : Call → Type} [DecidableEq Key]
  {world : Key → World State Result Fault} {programs : Key → Task State Result Fault Unit → State → Prop}
  {inv : State → Prop} {contracts : Key → Contract State Fault Unit} {quiet : Key → State → Prop}

/-- Every task has settled and answers for its calls, and what has no task yet is quiet. -/
structure Pool.Owned (world : Key → World State Result Fault) (inv : State → Prop)
    (contracts : Key → Contract State Fault Unit) (quiet : Key → State → Prop)
    (pool : Pool Key State Result Fault) : Prop where
  holds : inv pool.state
  settled : ∀ key program, pool.tasks key = some program → Settled program
  owes : ∀ key program, pool.tasks key = some program →
    Tasks.Owned (world key) inv (contracts key) program pool.state
  unstarted : ∀ key, pool.tasks key = none → quiet key pool.state

section Steps
variable (lawful : ∀ key, (contracts key).Lawful)
  (others : ∀ key other before after, key ≠ other → (contracts key).guarantee before after →
    (contracts other).rely before after)
  (untouched : ∀ key other before after, key ≠ other → (contracts key).guarantee before after →
    quiet other before → quiet other after)
include lawful others untouched

theorem advance_owned {pool : Pool Key State Result Fault} {key : Key}
    {program : Task State Result Fault Unit} {state : State} (owned : pool.Owned world inv contracts quiet)
    (moved : (contracts key).guarantee pool.state state)
    (next : Tasks.Owned (world key) inv (contracts key) program state) :
    (pool.advance key program state).Owned world inv contracts quiet := by
  obtain ⟨changed, left⟩ := owned_settle (lawful key) next
  have rests := settle_settled program state
  have holds := owned_inv rests left
  have whole := (lawful key).guarantee_trans _ _ _ moved changed
  have here : ∀ residue, (pool.advance key program state).tasks key = some residue →
      residue = (settle program state).1 := by
    intro residue found
    simpa [Pool.advance, eq_comm] using found
  have there : ∀ other, other ≠ key → (pool.advance key program state).tasks other = pool.tasks other := by
    intro other apart
    simp [Pool.advance, Function.update_of_ne apart]
  refine ⟨holds, fun other residue found => ?_, fun other residue found => ?_, fun other free => ?_⟩
  · by_cases same : other = key
    · subst same
      exact here residue found ▸ rests
    · exact owned.settled other residue (there other same ▸ found)
  · by_cases same : other = key
    · subst same
      exact here residue found ▸ left
    · have waiting := there other same ▸ found
      exact owned_rely (lawful other) (owned.settled other residue waiting)
        (owned.owes other residue waiting) (others key other _ _ (Ne.symm same) whole) holds
  · by_cases same : other = key
    · subst same
      simp [Pool.advance] at free
    · exact untouched key other _ _ (Ne.symm same) whole (owned.unstarted other (there other same ▸ free))

/-- Tasks that answer for their calls one by one are safe together, in every order
of steps. -/
theorem reachable_owned
    (starts : ∀ key program state, programs key program state → inv state → quiet key state →
      Tasks.Owned (world key) inv (contracts key) program state)
    {start : State} (initial : inv start) (fresh : ∀ key, quiet key start)
    {pool : Pool Key State Result Fault} (reached : Reachable world programs start pool) :
    pool.Owned world inv contracts quiet := by
  induction reached with
  | start => exact ⟨initial, by simp, by simp, fun key _ => fresh key⟩
  | @step before _ _ step ih =>
      cases step with
      | spawn free spawned =>
          exact advance_owned lawful others untouched ih ((lawful _).guarantee_refl _)
            (starts _ _ _ spawned ih.holds (ih.unstarted _ free))
      | @resume key _ _ _ _ waiting given =>
          have asked := ih.owes key _ waiting
          have still := (lawful key).rely_refl before.state
          exact advance_owned lawful others untouched ih (asked.1.2 _ _ _ still ih.holds given)
            (asked.2 _ _ ⟨_, still, ih.holds, given⟩)
end Steps

omit [DecidableEq Key] in
/-- How a task that has ended has ended. -/
theorem Pool.Owned.ended {pool : Pool Key State Result Fault} (owned : pool.Owned world inv contracts quiet)
    {key : Key} {outcome : Except Fault Unit} (finished : pool.tasks key = some (Coro.ofAnswer outcome)) :
    (contracts key).post outcome pool.state := by
  have last := owned.owes key _ finished
  cases outcome with
  | ok _ => exact last.2
  | error fault => exact last.2
end Pools

end Python.Tasks
