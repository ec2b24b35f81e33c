import Mathlib.Data.Finset.Card
import Mathlib.Logic.Function.Iterate

/-! A chain of links: from a start, each element has the next one, and `stop` has itself. -/
namespace Python.Links
variable {α : Type} {next : α → α} {stop start : α}

/-- The chain comes to its end. -/
def Ends (next : α → α) (stop start : α) : Prop := ∃ count, next^[count] start = stop

/-- No element of the chain leads back to an earlier one. -/
def Acyclic (next : α → α) (stop start : α) : Prop :=
  ∀ early late, early < late → next^[early] start = next^[late] start → next^[early] start = stop

theorem iterate_stop (fixed : next stop = stop) {early late : Nat} (ended : next^[early] start = stop)
    (later : early ≤ late) : next^[late] start = stop := by
  induction late, later using Nat.le_induction with
  | base => exact ended
  | succ late _ ih => rw [Function.iterate_succ_apply', ih, fixed]

/-- After a return the chain goes round: every multiple of the way back is the same element. -/
theorem iterate_round {early way : Nat} (same : next^[early] start = next^[early + way] start)
    (rounds : Nat) : next^[early + rounds * way] start = next^[early] start := by
  induction rounds with
  | zero => simp
  | succ rounds ih =>
      have split : early + (rounds + 1) * way = way + (early + rounds * way) := by
        rw [Nat.succ_mul]
        omega
      rw [split, Function.iterate_add_apply, ih, ← Function.iterate_add_apply, Nat.add_comm way, ← same]

theorem Ends.acyclic (fixed : next stop = stop) (ends : Ends next stop start) :
    Acyclic next stop start := by
  obtain ⟨count, ended⟩ := ends
  intro early late before same
  obtain ⟨way, rfl⟩ := Nat.exists_eq_add_of_lt before
  have round := @iterate_round _ _ _ early (way + 1) same count
  -- enough rounds lead past the end
  have past : count ≤ early + count * (way + 1) := by
    have := Nat.le_mul_of_pos_right count (show 0 < way + 1 by omega)
    omega
  rw [← round]
  exact iterate_stop fixed ended past

/-- Where only finitely many elements have a next one, a chain that does not return ends. -/
theorem Acyclic.ends (known : Finset α) (outside : ∀ element, element ∉ known → next element = stop)
    (acyclic : Acyclic next stop start) : Ends next stop start := by
  by_contra endless
  have running : ∀ count, next^[count] start ≠ stop := fun count ended => endless ⟨count, ended⟩
  have within : ∀ count, next^[count] start ∈ known := by
    intro count
    by_contra unknown
    apply running (count + 1)
    rw [Function.iterate_succ_apply']
    exact outside _ unknown
  have more : known.card < (Finset.range (known.card + 1)).card := by simp
  obtain ⟨one, -, two, -, apart, same⟩ :=
    Finset.exists_ne_map_eq_of_card_lt_of_maps_to more fun count _ => within count
  rcases Nat.lt_or_gt_of_ne apart with before | before
  · exact running one (acyclic one two before same)
  · exact running two (acyclic two one before same.symm)

theorem ends_iff_acyclic (fixed : next stop = stop) (known : Finset α)
    (outside : ∀ element, element ∉ known → next element = stop) :
    Ends next stop start ↔ Acyclic next stop start :=
  ⟨Ends.acyclic fixed, Acyclic.ends known outside⟩

end Python.Links
