import Mathlib.Data.List.Basic

/-! `asyncio.Queue` without a bound. A task inside `get` waits for a future of its own; `put_nowait` sets
the result of the first future that waits, and the task takes its item when it next runs. By then another
task may have taken it, so a getter that finds the queue empty waits again, at the back. -/
namespace Python.Queues

/-- Where a task inside `get` stands. It is cancelled before its future has a result or after that. -/
inductive Getter where
  | waiting
  | woken
  | cancelled
  | withdrawn
  deriving DecidableEq

def Getter.isWaiting : Getter → Bool
  | .waiting => true
  | .woken | .cancelled | .withdrawn => false

/-- It has the result of its future, so an item is meant for it. -/
def Getter.isCalled : Getter → Bool
  | .woken | .withdrawn => true
  | .waiting | .cancelled => false

/-- The getters stand in the order of their futures; of these the queue keeps at least those that wait. -/
structure Queue (Item : Type) where
  items : List Item
  getters : List Getter

/-- `_wakeup_next`. A future that is done is passed over. -/
def wakeupNext : List Getter → List Getter
  | [] => []
  | .waiting :: rest => .woken :: rest
  | getter :: rest => getter :: wakeupNext rest

variable {Item : Type}

def Queue.empty : Queue Item := ⟨[], []⟩

def Queue.putNowait (queue : Queue Item) (item : Item) : Queue Item :=
  ⟨queue.items ++ [item], wakeupNext queue.getters⟩

/-- `get` from the test of its loop on: the item that it returns, or none where it waits. -/
def Queue.get (queue : Queue Item) : Option Item × Queue Item :=
  match queue.items with
  | [] => (none, ⟨[], queue.getters ++ [.waiting]⟩)
  | item :: rest => (some item, ⟨rest, queue.getters⟩)

/-- The task of a getter runs again. One that was cancelled raises; if an item was meant for it, the
item is for the next. -/
def Queue.resume (queue : Queue Item) (index : Nat) : Option Item × Queue Item :=
  match queue.getters[index]? with
  | some .woken => Queue.get ⟨queue.items, queue.getters.eraseIdx index⟩
  | some .cancelled => (none, ⟨queue.items, queue.getters.eraseIdx index⟩)
  | some .withdrawn => match queue.items with
      | [] => (none, ⟨[], queue.getters.eraseIdx index⟩)
      | item :: rest => (none, ⟨item :: rest, wakeupNext (queue.getters.eraseIdx index)⟩)
  | _ => (none, queue)

/-- `Task.cancel` of the task of a getter. -/
def Queue.cancel (queue : Queue Item) (index : Nat) : Queue Item :=
  match queue.getters[index]? with
  | some .waiting => { queue with getters := queue.getters.set index .cancelled }
  | some .woken => { queue with getters := queue.getters.set index .withdrawn }
  | _ => queue

def Queue.waiting (queue : Queue Item) : Nat := queue.getters.countP Getter.isWaiting

def Queue.called (queue : Queue Item) : Nat := queue.getters.countP Getter.isCalled

/-- Nobody sleeps while an item is there for which no getter has been called. -/
def Queue.Served (queue : Queue Item) : Prop := 0 < queue.waiting → queue.items.length ≤ queue.called

section Rules
variable {queue : Queue Item} {item : Item} {index : Nat} {getters : List Getter} {getter : Getter}

theorem wakeupNext_waiting : (wakeupNext getters).countP Getter.isWaiting =
    getters.countP Getter.isWaiting - 1 := by
  induction getters with
  | nil => rfl
  | cons getter rest ih =>
      cases getter <;> simp [wakeupNext, List.countP_cons, Getter.isWaiting, ih]

theorem wakeupNext_called : (wakeupNext getters).countP Getter.isCalled =
    getters.countP Getter.isCalled + min 1 (getters.countP Getter.isWaiting) := by
  induction getters with
  | nil => rfl
  | cons getter rest ih =>
      cases getter with
      | waiting => simp [wakeupNext, List.countP_cons, Getter.isCalled, Getter.isWaiting]
      | cancelled => simp [wakeupNext, Getter.isCalled, Getter.isWaiting, ih]
      | woken | withdrawn =>
          simp only [wakeupNext, List.countP_cons, Getter.isCalled, Getter.isWaiting, ih, if_true,
            Bool.false_eq_true, if_false, Nat.add_zero]
          omega

/-- The getters around one of them. -/
theorem getters_around (there : getters[index]? = some getter) : ∃ before after,
    getters = before ++ getter :: after ∧ getters.eraseIdx index = before ++ after ∧
      ∀ other, getters.set index other = before ++ other :: after := by
  obtain ⟨short, rfl⟩ := List.getElem?_eq_some_iff.mp there
  refine ⟨getters.take index, getters.drop (index + 1), ?_, ?_, fun other => ?_⟩
  · rw [List.getElem_cons_drop, List.take_append_drop]
  · exact List.eraseIdx_eq_take_drop_succ ..
  · exact List.set_eq_take_append_cons_drop.trans (if_pos short)

/-! The items: none is lost, and none is returned twice or out of turn. -/

theorem get_items : queue.get.1.toList ++ queue.get.2.items = queue.items := by
  unfold Queue.get
  split <;> simp_all

theorem resume_items : (queue.resume index).1.toList ++ (queue.resume index).2.items = queue.items := by
  unfold Queue.resume
  split
  · exact get_items
  · rfl
  · split <;> simp_all
  · rfl

theorem cancel_items : (queue.cancel index).items = queue.items := by
  unfold Queue.cancel
  split <;> rfl

/-- A getter that runs again returns nothing from an empty queue. -/
theorem resume_empty (empty : queue.items = []) : (queue.resume index).1 = none := by
  have whole := @resume_items _ queue index
  rw [empty, List.append_eq_nil_iff] at whole
  exact Option.toList_eq_nil_iff.mp whole.1

/-! The wake-ups. -/

theorem Queue.Served.empty : (Queue.empty : Queue Item).Served := nofun

theorem Queue.Served.putNowait (served : queue.Served) : (queue.putNowait item).Served := by
  intro waits
  simp only [Queue.waiting, Queue.putNowait, wakeupNext_waiting] at waits
  simp only [Queue.called, Queue.putNowait, wakeupNext_called, List.length_append, List.length_singleton]
  have enough : queue.items.length ≤ queue.getters.countP Getter.isCalled :=
    served (show 0 < queue.getters.countP Getter.isWaiting by omega)
  omega

theorem Queue.Served.get (served : queue.Served) : queue.get.2.Served := by
  intro waits
  unfold Queue.get at waits ⊢
  split
  · exact Nat.zero_le _
  · rename_i item rest whole
    simp only [whole] at waits
    have enough : queue.items.length ≤ queue.called := served waits
    rw [whole, List.length_cons] at enough
    exact Nat.le_of_succ_le enough

/-- The counts when one getter goes. -/
theorem counts_around {before after : List Getter} (whole : queue.getters = before ++ getter :: after) :
    queue.waiting = (before ++ after).countP Getter.isWaiting + getter.isWaiting.toNat ∧
      queue.called = (before ++ after).countP Getter.isCalled + getter.isCalled.toNat := by
  simp only [Queue.waiting, Queue.called, whole, List.countP_append, List.countP_cons]
  cases getter <;> simp [Getter.isWaiting, Getter.isCalled] <;> omega

/-- A woken getter takes one item and is one of those called; one that withdraws calls the next. -/
theorem Queue.Served.resume (served : queue.Served) : (queue.resume index).2.Served := by
  unfold Queue.resume
  split
  · rename_i there
    obtain ⟨before, after, whole, erased, -⟩ := getters_around there
    obtain ⟨waiting, called⟩ := counts_around whole
    rw [erased]
    intro waits
    unfold Queue.get at waits ⊢
    split
    · exact Nat.zero_le _
    · rename_i item rest items
      dsimp only at items
      simp only [items, Queue.waiting, Queue.called] at waits ⊢
      have enough := served (waiting ▸ Nat.add_pos_left waits _)
      simp only [items, called, List.length_cons, Getter.isCalled, Bool.toNat_true] at enough
      omega
  · rename_i there
    obtain ⟨before, after, whole, erased, -⟩ := getters_around there
    obtain ⟨waiting, called⟩ := counts_around whole
    rw [erased]
    intro waits
    have enough := served (waiting ▸ Nat.add_pos_left waits _)
    rwa [called] at enough
  · rename_i there
    obtain ⟨before, after, whole, erased, -⟩ := getters_around there
    obtain ⟨waiting, called⟩ := counts_around whole
    rw [erased]
    split
    · exact fun _ => Nat.zero_le _
    · rename_i item rest items
      intro waits
      -- one that still waits after the wake-up waited before it, and another was called then
      simp only [Queue.waiting, Queue.called, wakeupNext_waiting, wakeupNext_called] at waits ⊢
      have enough := served (by omega)
      simp only [items, called, List.length_cons, Getter.isCalled, Bool.toNat_true] at enough ⊢
      omega
  · exact served

theorem Queue.Served.cancel (served : queue.Served) : (queue.cancel index).Served := by
  unfold Queue.cancel
  split
  · rename_i there
    obtain ⟨before, after, whole, -, set⟩ := getters_around there
    obtain ⟨waiting, called⟩ := counts_around whole
    have left := @counts_around Item ⟨queue.items, before ++ .cancelled :: after⟩ .cancelled before after rfl
    rw [set]
    intro waits
    have enough := served (by rw [waiting]; exact Nat.succ_pos _)
    rw [left.2]
    rwa [called] at enough
  · rename_i there
    obtain ⟨before, after, whole, -, set⟩ := getters_around there
    obtain ⟨waiting, called⟩ := counts_around whole
    have left := @counts_around Item ⟨queue.items, before ++ .withdrawn :: after⟩ .withdrawn before after rfl
    rw [set]
    intro waits
    have enough := served (waiting ▸ left.1 ▸ waits)
    rw [left.2]
    rwa [called] at enough
  · exact served

/-- Where no getter is about to run, one that waits waits at an empty queue. -/
theorem Queue.Served.idle (served : queue.Served) (idle : queue.called = 0) (waits : 0 < queue.waiting) :
    queue.items = [] :=
  List.eq_nil_of_length_eq_zero (Nat.le_zero.mp (idle ▸ served waits))
end Rules
end Python.Queues
