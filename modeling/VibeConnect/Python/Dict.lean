import Mathlib.Data.List.Induction
import Mathlib.Tactic.Common

/-! A dictionary as the list of its items in the order of insertion. An assignment to a key that
is there leaves the key where it is. -/
namespace Python.Dict
variable {Key Value : Type} [DecidableEq Key]

def setItem (items : List (Key × Value)) (key : Key) (value : Value) : List (Key × Value) :=
  if key ∈ items.map Prod.fst then items.map fun item => if item.1 = key then (key, value) else item
  else items ++ [(key, value)]

/-- `{key: value for key, value in pairs}`. -/
def ofPairs (pairs : List (Key × Value)) : List (Key × Value) :=
  pairs.foldl (fun items pair => setItem items pair.1 pair.2) []

theorem mem_setItem {items : List (Key × Value)} {key other : Key} {value held : Value} :
    (other, held) ∈ setItem items key value ↔
      (other = key ∧ held = value) ∨ (other ≠ key ∧ (other, held) ∈ items) := by
  unfold setItem
  split
  case isTrue present =>
    rw [List.mem_map]
    constructor
    · rintro ⟨item, member, same⟩
      split at same
      · cases same
        exact .inl ⟨rfl, rfl⟩
      · next apart =>
        cases same
        exact .inr ⟨apart, member⟩
    · rintro (⟨rfl, rfl⟩ | ⟨apart, member⟩)
      · obtain ⟨item, member, rfl⟩ := List.mem_map.mp present
        exact ⟨item, member, if_pos rfl⟩
      · exact ⟨(other, held), member, if_neg apart⟩
  case isFalse absent =>
    rw [List.mem_append, List.mem_singleton, Prod.mk.injEq, or_comm]
    apply or_congr_right
    constructor
    · intro member
      refine ⟨?_, member⟩
      rintro rfl
      exact absent (List.mem_map_of_mem member)
    · exact And.right

/-! `get`, as a lookup. -/
section Lookup
variable [BEq Key] [LawfulBEq Key]

theorem lookup_head (items : List (Key × Value)) (key other : Key) (value : Value) :
    ((key, value) :: items).lookup other = if other = key then some value else items.lookup other := by
  rw [List.lookup_cons]
  by_cases same : other = key
  · simp [same]
  · rw [beq_eq_false_iff_ne.mpr same, if_neg same]

omit [DecidableEq Key] in
theorem lookup_absent {items : List (Key × Value)} {key : Key} (absent : key ∉ items.map Prod.fst) :
    items.lookup key = none := by
  rw [List.lookup_eq_none_iff]
  intro pair member
  rw [bne_iff_ne]
  rintro rfl
  exact absent (List.mem_map_of_mem member)

theorem lookup_replace (items : List (Key × Value)) (key other : Key) (value : Value) :
    (items.map fun item => if item.1 = key then (key, value) else item).lookup other =
      if other = key then (items.lookup other).map fun _ => value else items.lookup other := by
  induction items with
  | nil => simp
  | cons first rest ih =>
      obtain ⟨name, held⟩ := first
      rw [List.map_cons, lookup_head]
      by_cases here : name = key
      · rw [if_pos here, lookup_head, ih, here]
        split <;> rfl
      · rw [if_neg here, lookup_head, ih]
        by_cases found : other = name
        · simp [found, here]
        · rw [if_neg found, if_neg found]

theorem lookup_setItem (items : List (Key × Value)) (key other : Key) (value : Value) :
    (setItem items key value).lookup other = if other = key then some value else items.lookup other := by
  unfold setItem
  split
  case isTrue present =>
    rw [lookup_replace]
    split
    · next same =>
      cases found : items.lookup other with
      | some held => rfl
      | none =>
          obtain ⟨pair, member, rfl⟩ := List.mem_map.mp present
          have apart := List.lookup_eq_none_iff.mp found pair member
          simp [same] at apart
    · rfl
  case isFalse absent =>
    rw [List.lookup_append, lookup_head]
    split
    · next same => rw [same, lookup_absent absent, Option.none_or]
    · simp
end Lookup

/-- The pair is the last one with its key. -/
def LastOf (pairs : List (Key × Value)) (key : Key) (value : Value) : Prop :=
  ∃ before after, pairs = before ++ (key, value) :: after ∧ key ∉ after.map Prod.fst

omit [DecidableEq Key] in
theorem lastOf_concat {pairs : List (Key × Value)} {key other : Key} {value held : Value} :
    LastOf (pairs ++ [(key, value)]) other held ↔
      (other = key ∧ held = value) ∨ (other ≠ key ∧ LastOf pairs other held) := by
  constructor
  · rintro ⟨before, after, split, absent⟩
    rcases List.eq_nil_or_concat after with rfl | ⟨middle, last, rfl⟩
    · obtain ⟨-, same⟩ := List.append_inj' split rfl
      cases same
      exact .inl ⟨rfl, rfl⟩
    · rw [List.concat_eq_append, ← List.cons_append, ← List.append_assoc] at split
      obtain ⟨rfl, same⟩ := List.append_inj' split rfl
      cases same
      simp only [List.concat_eq_append, List.map_append, List.map_cons, List.map_nil, List.mem_append, List.mem_singleton,
        not_or] at absent
      exact .inr ⟨absent.2, before, middle, rfl, absent.1⟩
  · rintro (⟨rfl, rfl⟩ | ⟨apart, before, after, rfl, absent⟩)
    · exact ⟨pairs, [], rfl, by simp⟩
    · exact ⟨before, after ++ [(key, value)], by simp, by simp [absent, apart]⟩

/-- A comprehension keeps the last value of each key. -/
theorem mem_ofPairs {pairs : List (Key × Value)} {key : Key} {value : Value} :
    (key, value) ∈ ofPairs pairs ↔ LastOf pairs key value := by
  induction pairs using List.reverseRecOn with
  | nil => simp [ofPairs, LastOf]
  | append_singleton before last ih =>
      have step : ofPairs (before ++ [last]) = setItem (ofPairs before) last.1 last.2 := by
        rw [ofPairs, List.foldl_append]
        rfl
      rw [step, mem_setItem, lastOf_concat, ih]

end Python.Dict
