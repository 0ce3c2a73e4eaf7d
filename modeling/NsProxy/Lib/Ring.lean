import Mathlib.Data.List.Basic
import Mathlib.Data.Nat.ModEq

/-!
# Bounded first-in first-out histories

A bounded allocator of `capacity` slots is determined by its history, the list of the
keys it has ever allocated, oldest first: allocation `k` uses slot `k % capacity`, and it
is live until `capacity` further allocations have been made. The lemmas here say which
allocations are live, that live allocations use distinct slots, and how one further
allocation changes both. They name no map and no address, only positions in a list.
-/

namespace NsProxy.Ring

variable {α : Type}

/-- Allocation `index` of a history of `length` allocations has not been overwritten. -/
def Live (capacity length index : Nat) : Prop :=
  index < length ∧ length ≤ index + capacity

/-- Allocation `index` put `key` into a slot and is live. -/
def Holds (capacity : Nat) (history : List α) (index : Nat) (key : α) : Prop :=
  Live capacity history.length index ∧ history[index]? = some key

/-- Every key was absent from the live part of the history when it was allocated. -/
def Fresh (capacity : Nat) (history : List α) : Prop :=
  ∀ earlier later key, earlier < later → later ≤ earlier + capacity →
    history[earlier]? = some key → history[later]? ≠ some key

/-- Two live allocations in one slot are the same allocation. -/
theorem live_slot_injective {capacity length left right : Nat}
    (hl : Live capacity length left) (hr : Live capacity length right)
    (slot : left % capacity = right % capacity) : left = right := by
  obtain ⟨hl₁, hl₂⟩ := hl
  obtain ⟨hr₁, hr₂⟩ := hr
  rcases Nat.lt_trichotomy left right with less | same | less
  · have gap := (Nat.modEq_iff_dvd' less.le).mp slot
    have := Nat.le_of_dvd (by omega) gap
    omega
  · exact same
  · have gap := (Nat.modEq_iff_dvd' less.le).mp slot.symm
    have := Nat.le_of_dvd (by omega) gap
    omega

/-- Two live allocations of one key are the same allocation. -/
theorem live_key_injective {capacity : Nat} {history : List α} {left right : Nat} {key : α}
    (fresh : Fresh capacity history) (hl : Holds capacity history left key)
    (hr : Holds capacity history right key) : left = right := by
  obtain ⟨⟨hl₁, hl₂⟩, hl₃⟩ := hl
  obtain ⟨⟨hr₁, hr₂⟩, hr₃⟩ := hr
  rcases Nat.lt_trichotomy left right with less | same | less
  · exact absurd hr₃ (fresh left right key less (by omega) hl₃)
  · exact same
  · exact absurd hl₃ (fresh right left key less (by omega) hr₃)

/-- The empty history is fresh. -/
theorem fresh_nil (capacity : Nat) : Fresh capacity ([] : List α) := by
  intro earlier later key _ _ held
  simp at held

/-- Allocating a key that no live allocation holds keeps the history fresh. -/
theorem fresh_push {capacity : Nat} {history : List α} {key : α}
    (fresh : Fresh capacity history) (absent : ∀ index, ¬ Holds capacity history index key) :
    Fresh capacity (history ++ [key]) := by
  intro earlier later other order near first second
  have bound : later < (history ++ [key]).length := (List.getElem?_eq_some_iff.mp second).1
  simp only [List.length_append, List.length_singleton] at bound
  have old : earlier < history.length := by omega
  rw [List.getElem?_append_left old] at first
  by_cases last : later = history.length
  · subst last
    simp only [List.getElem?_concat_length, Option.some.injEq] at second
    subst second
    exact absent earlier ⟨⟨old, near⟩, first⟩
  · rw [List.getElem?_append_left (by omega)] at second
    exact fresh earlier later other order near first second

/-- One more allocation is live itself and ends the life of exactly the allocation that is
`capacity` older. -/
theorem holds_push {capacity : Nat} (positive : 0 < capacity) (history : List α) (key : α)
    (index : Nat) (other : α) :
    Holds capacity (history ++ [key]) index other ↔
      (index = history.length ∧ other = key) ∨
        (Holds capacity history index other ∧ index + capacity ≠ history.length) := by
  unfold Holds Live
  simp only [List.length_append, List.length_singleton]
  constructor
  · rintro ⟨⟨below, near⟩, found⟩
    by_cases last : index = history.length
    · subst last
      simp only [List.getElem?_concat_length, Option.some.injEq] at found
      exact Or.inl ⟨rfl, found.symm⟩
    · rw [List.getElem?_append_left (by omega)] at found
      exact Or.inr ⟨⟨⟨by omega, by omega⟩, found⟩, by omega⟩
  · rintro (⟨rfl, rfl⟩ | ⟨⟨⟨below, near⟩, found⟩, notOldest⟩)
    · exact ⟨⟨by omega, by omega⟩, List.getElem?_concat_length⟩
    · rw [List.getElem?_append_left below]
      exact ⟨⟨by omega, by omega⟩, found⟩

/-- The slot of the next allocation holds exactly the allocation that it overwrites. -/
theorem live_next_slot {capacity length index : Nat} (live : Live capacity length index) :
    index % capacity = length % capacity ↔ index + capacity = length := by
  obtain ⟨below, near⟩ := live
  constructor
  · intro slot
    have gap := Nat.le_of_dvd (by omega) ((Nat.modEq_iff_dvd' below.le).mp slot)
    omega
  · rintro rfl
    simp

/-- The live allocations are the last `capacity` entries of the history. -/
theorem holds_iff_mem_drop (capacity : Nat) (history : List α) (key : α) :
    (∃ index, Holds capacity history index key) ↔
      key ∈ history.drop (history.length - capacity) := by
  rw [List.mem_iff_getElem?]
  constructor
  · rintro ⟨index, ⟨below, near⟩, found⟩
    refine ⟨index - (history.length - capacity), ?_⟩
    rw [List.getElem?_drop]
    rwa [show history.length - capacity + (index - (history.length - capacity)) = index by omega]
  · rintro ⟨offset, found⟩
    rw [List.getElem?_drop] at found
    have bound := (List.getElem?_eq_some_iff.mp found).1
    exact ⟨_, ⟨bound, by omega⟩, found⟩

end NsProxy.Ring
