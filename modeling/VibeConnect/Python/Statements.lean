import Mathlib.Logic.Basic

/-! Blocks of statements on the state of some objects. A block that raises keeps
what it had changed before, so it ends in an outcome beside the state it leaves.
The rules say where each form of statement ends. -/
namespace Python.Statements

abbrev Block (σ ε α : Type) := ExceptT ε (StateM σ) α

section Rules
variable {σ ε α β : Type} {state after : σ}

/-- Where a program ends. -/
def ends (program : Block σ ε α) (state : σ) : Except ε α × σ := program.run state

/-- A change that raises with what it had already done, or succeeds. -/
def change (block : σ → Except ε α × σ) : Block σ ε α := block

/-- An answer from outside. -/
def answer (outcome : Except ε α) : Block σ ε α := change fun state => (outcome, state)

@[simp] theorem ends_change (block : σ → Except ε α × σ) :
    ends (change block) state = block state := rfl

@[simp] theorem ends_answer (outcome : Except ε α) :
    ends (answer outcome : Block σ ε α) state = (outcome, state) := rfl

@[simp] theorem ends_pure (value : α) :
    ends (pure value : Block σ ε α) state = (.ok value, state) := rfl

@[simp] theorem ends_throw (raised : ε) :
    ends (throw raised : Block σ ε α) state = (.error raised, state) := rfl

@[simp] theorem ends_modify (update : σ → σ) :
    ends (modify update : Block σ ε Unit) state = (.ok (), update state) := rfl

@[simp] theorem ends_got : ends (get : Block σ ε σ) state = (.ok state, state) := rfl

@[simp] theorem ends_get (next : σ → Block σ ε α) :
    ends (get >>= next) state = ends (next state) state := rfl

@[simp] theorem ends_if {condition : Prop} [Decidable condition] (one two : Block σ ε α) :
    ends (if condition then one else two) state =
      if condition then ends one state else ends two state := by
  split <;> rfl

theorem ends_bind (program : Block σ ε α) (next : α → Block σ ε β) :
    ends (program >>= next) state = match ends program state with
      | (.ok value, after) => ends (next value) after
      | (.error raised, after) => (.error raised, after) := by
  change ExceptT.bindCont next (program.run state).1 (program.run state).2 = _
  unfold ends
  rcases program.run state with ⟨raised | value, after⟩ <;> rfl

@[simp] theorem ends_map (transform : α → β) (program : Block σ ε α) :
    ends (transform <$> program) state =
      ((ends program state).1.map transform, (ends program state).2) := by
  change ends (program >>= fun value => pure (transform value)) state = _
  rw [ends_bind]
  rcases ends program state with ⟨raised | value, after⟩ <;> rfl

theorem ends_after {program : Block σ ε α} {next : α → Block σ ε β} {value : α}
    (ended : ends program state = (.ok value, after)) :
    ends (program >>= next) state = ends (next value) after := by
  rw [ends_bind, ended]

theorem ends_raised {program : Block σ ε α} {next : α → Block σ ε β} {raised : ε}
    (ended : ends program state = (.error raised, after)) :
    ends (program >>= next) state = (.error raised, after) := by
  rw [ends_bind, ended]

theorem ends_try (program : Block σ ε α) (handler : ε → Block σ ε α) :
    ends (tryCatch program handler) state = match ends program state with
      | (.ok value, after) => (.ok value, after)
      | (.error raised, after) => ends (handler raised) after := by
  change (ExceptT.tryCatch program handler).run state = _
  unfold ExceptT.tryCatch ExceptT.run ExceptT.mk ends
  change StateT.bind program _ state = _
  unfold StateT.bind ExceptT.run
  rcases program state with ⟨raised | value, after⟩ <;> simp <;> rfl

theorem ends_caught {program : Block σ ε α} {handler : ε → Block σ ε α} {raised : ε}
    (ended : ends program state = (.error raised, after)) :
    ends (tryCatch program handler) state = ends (handler raised) after := by
  rw [ends_try, ended]

theorem ends_uncaught {program : Block σ ε α} {handler : ε → Block σ ε α} {value : α}
    (ended : ends program state = (.ok value, after)) :
    ends (tryCatch program handler) state = (.ok value, after) := by
  rw [ends_try, ended]

/-- A block that ends well has ended each of its parts well. -/
theorem ended_bind {program : Block σ ε α} {next : α → Block σ ε β} {value : β}
    (ended : ends (program >>= next) state = (.ok value, after)) :
    ∃ first middle, ends program state = (.ok first, middle) ∧
      ends (next first) middle = (.ok value, after) := by
  rw [ends_bind] at ended
  rcases ran : ends program state with ⟨raised | first, middle⟩
  · rw [ran] at ended
    cases (Prod.mk.inj ended).1
  · rw [ran] at ended
    exact ⟨first, middle, rfl, ended⟩
end Rules

section Frames
variable {σ ε α β γ : Type} {view : σ → γ}

/-- A block that leaves a part of the state alone, however it ends. -/
def Keeps (view : σ → γ) (program : Block σ ε α) : Prop :=
  ∀ state, view (ends program state).2 = view state

theorem keeps_pure (value : α) : Keeps view (pure value : Block σ ε α) := fun _ => rfl

theorem keeps_throw (raised : ε) : Keeps view (throw raised : Block σ ε α) := fun _ => rfl

theorem keeps_bind {program : Block σ ε α} {next : α → Block σ ε β} (first : Keeps view program)
    (later : ∀ value, Keeps view (next value)) : Keeps view (program >>= next) := by
  intro state
  have kept := first state
  rw [ends_bind]
  rcases ran : ends program state with ⟨raised | value, after⟩
  · rw [ran] at kept
    exact kept
  · rw [ran] at kept
    exact (later value after).trans kept

theorem keeps_try {program : Block σ ε α} {handler : ε → Block σ ε α} (first : Keeps view program)
    (later : ∀ raised, Keeps view (handler raised)) : Keeps view (tryCatch program handler) := by
  intro state
  have kept := first state
  rw [ends_try]
  rcases ran : ends program state with ⟨raised | value, after⟩
  · rw [ran] at kept
    exact (later raised after).trans kept
  · rw [ran] at kept
    exact kept
end Frames

end Python.Statements
