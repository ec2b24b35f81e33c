import VibeConnect.Python.Coroutine

/-! Two coroutines side by side, each before a server of its own: from related states they have the same
outcome, and the states are related again. The rules follow the statements of a coroutine; `Relates` of the
parts gives `Relates` of the whole. -/
namespace Python.Coroutine.Coro
variable {Op Op' Fault σ τ : Type} {Ans : Op → Type} {Ans' : Op' → Type} {α β : Type}

def Relates (left : Server Op Ans Fault σ) (right : Server Op' Ans' Fault τ) (before : σ → τ → Prop)
    (one : Coro Op Ans Fault α) (two : Coro Op' Ans' Fault α)
    (after : Except Fault α → σ → τ → Prop) : Prop :=
  ∀ state other, before state other → (one.run left state).1 = (two.run right other).1 ∧
    after (one.run left state).1 (one.run left state).2 (two.run right other).2

section Rules
variable {left : Server Op Ans Fault σ} {right : Server Op' Ans' Fault τ} {before weaker : σ → τ → Prop}
  {one : Coro Op Ans Fault α} {two : Coro Op' Ans' Fault α} {after stronger : Except Fault α → σ → τ → Prop}

theorem relates_mono (related : Relates left right weaker one two stronger)
    (weaken : ∀ state other, before state other → weaker state other)
    (strengthen : ∀ outcome state other, stronger outcome state other → after outcome state other) :
    Relates left right before one two after := by
  intro state other holds
  obtain ⟨same, kept⟩ := related state other (weaken state other holds)
  exact ⟨same, strengthen _ _ _ kept⟩

theorem relates_done {value : α} (kept : ∀ state other, before state other → after (.ok value) state other) :
    Relates left right before (.done value) (.done value) after := fun state other holds =>
  ⟨rfl, kept state other holds⟩

theorem relates_raise {fault : Fault}
    (kept : ∀ state other, before state other → after (.error fault) state other) :
    Relates left right before (.raise fault) (.raise fault) after := fun state other holds =>
  ⟨rfl, kept state other holds⟩

/-- What is computed from no state is the same on both sides. -/
theorem relates_ofAnswer {answer : Except Fault β} {next : β → Coro Op Ans Fault α}
    {other : β → Coro Op' Ans' Fault α}
    (raised : ∀ fault state second, before state second → after (.error fault) state second)
    (rest : ∀ value, answer = .ok value → Relates left right before (next value) (other value) after) :
    Relates left right before (ofAnswer answer >>= next) (ofAnswer answer >>= other) after := by
  cases answer with
  | error fault => exact fun state second holds => ⟨rfl, raised fault state second holds⟩
  | ok value => exact rest value rfl

theorem relates_bind {middle : Except Fault α → σ → τ → Prop} {next : α → Coro Op Ans Fault β}
    {other : α → Coro Op' Ans' Fault β} {last : Except Fault β → σ → τ → Prop}
    (first : Relates left right before one two middle)
    (raised : ∀ fault state second, middle (.error fault) state second → last (.error fault) state second)
    (rest : ∀ value, Relates left right (middle (.ok value)) (next value) (other value) last) :
    Relates left right before (one >>= next) (two >>= other) last := by
  intro state second holds
  obtain ⟨same, kept⟩ := first state second holds
  rw [run_bind, run_bind]
  generalize one.run left state = run at same kept
  generalize two.run right second = again at same kept
  obtain ⟨outcome, reached⟩ := run
  obtain ⟨_, arrived⟩ := again
  cases same
  cases outcome with
  | error fault => exact ⟨rfl, raised fault reached arrived kept⟩
  | ok value => exact rest value reached arrived kept

theorem relates_handle {middle : Except Fault α → σ → τ → Prop} {handler : Fault → Coro Op Ans Fault α}
    {other : Fault → Coro Op' Ans' Fault α} (body : Relates left right before one two middle)
    (returned : ∀ value state second, middle (.ok value) state second → after (.ok value) state second)
    (handled : ∀ fault, Relates left right (middle (.error fault)) (handler fault) (other fault) after) :
    Relates left right before (tryCatch one handler) (tryCatch two other) after := by
  intro state second holds
  obtain ⟨same, kept⟩ := body state second holds
  rw [run_handle, run_handle]
  generalize one.run left state = run at same kept
  generalize two.run right second = again at same kept
  obtain ⟨outcome, reached⟩ := run
  obtain ⟨_, arrived⟩ := again
  cases same
  cases outcome with
  | error fault => exact handled fault reached arrived kept
  | ok value => exact ⟨rfl, returned value reached arrived kept⟩

theorem relates_onlyIf {flag : Bool} {body : Coro Op Ans Fault Unit} {second : Coro Op' Ans' Fault Unit}
    {last : Except Fault Unit → σ → τ → Prop} (part : Relates left right before body second last)
    (skipped : ∀ state other, before state other → last (.ok ()) state other) :
    Relates left right before (onlyIf flag body) (onlyIf flag second) last := by
  cases flag with
  | false => exact relates_done skipped
  | true => exact part
end Rules

/-- Coroutines run one after another, whatever each ends with. -/
def inTurn (server : Server Op Ans Fault σ) :
    List (Coro Op Ans Fault α) → σ → List (Except Fault α) × σ
  | [], state => ([], state)
  | program :: rest, state =>
      let (outcome, middle) := program.run server state
      let (outcomes, last) := inTurn server rest middle
      (outcome :: outcomes, last)
end Python.Coroutine.Coro
