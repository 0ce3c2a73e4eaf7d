import Mathlib.Data.List.Basic

/-!
# Histories

A history is a list of events, oldest first. A safety property of a run is often a property of
each event together with what came before it: `Always` says that, and one event more is one
obligation more. `Followed` says that after each event of one kind comes one of another.
-/

namespace NsProxy

variable {α : Type}

/-- Every event of a history satisfies a property together with its past. -/
def Always (property : List α → α → Prop) (history : List α) : Prop :=
  ∀ past event future, history = past ++ event :: future → property past event

/-- After every event of one kind there is one of another kind. -/
def Followed (first second : α → Prop) (history : List α) : Prop :=
  ∀ past event future, history = past ++ event :: future → first event →
    ∃ later ∈ future, second later

/-- A history with one event more splits at that event or at one before it. -/
theorem append_singleton_split {history past future : List α} {last event : α}
    (split : history ++ [last] = past ++ event :: future) :
    (past = history ∧ event = last ∧ future = []) ∨
      ∃ before, future = before ++ [last] ∧ history = past ++ event :: before := by
  rcases List.eq_nil_or_concat future with empty | ⟨before, final, parts⟩
  · left
    rw [empty] at split
    have both := List.append_inj' split rfl
    have events : last = event := by simpa using both.2
    exact ⟨both.1.symm, events.symm, empty⟩
  · right
    rw [parts, List.concat_eq_append, ← List.cons_append, ← List.append_assoc] at split
    have both := List.append_inj' split rfl
    have events : last = final := by simpa using both.2
    rw [List.concat_eq_append, ← events] at parts
    exact ⟨before, parts, both.1⟩

/-- Everything holds along the empty history. -/
theorem always_nil (property : List α → α → Prop) : Always property [] := by
  intro past event future split
  simp at split

/-- One event more is one obligation more. -/
theorem always_append_singleton {property : List α → α → Prop} {history : List α} {last : α} :
    Always property (history ++ [last]) ↔ Always property history ∧ property history last := by
  constructor
  · intro always
    constructor
    · intro past event future split
      apply always past event (future ++ [last])
      rw [split, List.append_assoc, List.cons_append]
    · exact always history last [] rfl
  · intro both past event future split
    rcases append_singleton_split split with ⟨same, final, -⟩ | ⟨before, -, earlier⟩
    · rw [same, final]
      exact both.2
    · exact both.1 past event before earlier

/-- An event of the second kind follows every earlier event. -/
theorem followed_append_singleton {first second : α → Prop} {history : List α} {last : α}
    (needless : ¬ first last) (answers : second last) :
    Followed first second (history ++ [last]) := by
  intro past event future split kind
  rcases append_singleton_split split with ⟨-, final, -⟩ | ⟨before, parts, -⟩
  · rw [final] at kind
    exact absurd kind needless
  · exact ⟨last, by rw [parts]; simp, answers⟩

/-- An event that needs no answer can be added. -/
theorem Followed.append_needless {first second : α → Prop} {history : List α} {last : α}
    (followed : Followed first second history) (needless : ¬ first last) :
    Followed first second (history ++ [last]) := by
  intro past event future split kind
  rcases append_singleton_split split with ⟨-, final, -⟩ | ⟨before, parts, earlier⟩
  · rw [final] at kind
    exact absurd kind needless
  · obtain ⟨later, member, answers⟩ := followed past event before earlier kind
    exact ⟨later, by rw [parts]; exact List.mem_append_left _ member, answers⟩

end NsProxy
