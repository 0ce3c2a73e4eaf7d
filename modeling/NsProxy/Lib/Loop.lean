import Mathlib.Data.List.Basic
import Mathlib.Logic.Relation

/-!
# Loops that may panic

A `for` loop over a list whose body may panic is a monadic fold. An invariant that speaks
about the elements still to come carries it to its end. Where the body changes only what belongs
to its own key, what it sees at a key is what was there when the loop started.
-/

namespace NsProxy

/-- A loop whose body keeps an invariant and does not panic while the invariant holds does
not panic, and ends with the invariant. -/
theorem foldlM_invariant {σ α ε : Type} {body : σ → α → Except ε σ}
    (invariant : List α → σ → Prop)
    (step : ∀ element rest state, invariant (element :: rest) state →
      ∃ next, body state element = .ok next ∧ invariant rest next)
    {list : List α} {state : σ} (start : invariant list state) :
    ∃ last, list.foldlM body state = .ok last ∧ invariant [] last := by
  induction list generalizing state with
  | nil => exact ⟨state, rfl, start⟩
  | cons element rest ih =>
    obtain ⟨next, ran, kept⟩ := step element rest state start
    obtain ⟨last, finished, final⟩ := ih kept
    refine ⟨last, ?_, final⟩
    rw [List.foldlM_cons, ran]
    exact finished

/-- A loop whose body, at every element, keeps a property of the state and does not panic. -/
theorem foldlM_all {σ α ε : Type} {body : σ → α → Except ε σ} (good : σ → Prop) {list : List α}
    (step : ∀ element ∈ list, ∀ state, good state →
      ∃ next, body state element = .ok next ∧ good next)
    (state : σ) (start : good state) : ∃ last, list.foldlM body state = .ok last ∧ good last := by
  obtain ⟨last, ran, kept, -⟩ := foldlM_invariant (fun rest now => good now ∧ rest ⊆ list)
    (by
      rintro element rest now ⟨fine, inside⟩
      obtain ⟨next, ran, kept⟩ := step element (inside List.mem_cons_self) now fine
      exact ⟨next, ran, kept, fun other later => inside (List.mem_cons_of_mem element later)⟩)
    ⟨start, List.Subset.refl list⟩
  exact ⟨last, ran, kept⟩

/-- A loop over distinct keys of a map, each with an entry of one kind when the loop starts.
The body may panic on a key without such an entry; it does not, because a change to one key
leaves the entries of the others alone. The loop is a sequence of such changes. -/
theorem foldlM_changes {σ κ ε β : Type} {body : σ → κ → Except ε σ} (entry : σ → κ → Option β)
    (kind : β → Bool) (good : σ → Prop) (change : κ → σ → σ → Prop)
    (frame : ∀ key before after, change key before after →
      ∀ other, other ≠ key → entry after other = entry before other)
    (keeps : ∀ key before after, change key before after → good before → good after)
    (step : ∀ key state value, good state → entry state key = some value → kind value = true →
      ∃ next, body state key = .ok next ∧ Relation.ReflGen (change key) state next)
    {list : List κ} (distinct : list.Nodup) (start : σ) (fine : good start)
    (present : ∀ key ∈ list, ∃ value, entry start key = some value ∧ kind value = true) :
    ∃ last, list.foldlM body start = .ok last ∧
      Relation.ReflTransGen (fun before after => ∃ key, change key before after) start last := by
  obtain ⟨last, ran, path, -⟩ := foldlM_invariant
    (fun rest state => Relation.ReflTransGen (fun before after => ∃ key, change key before after)
      start state ∧ good state ∧ rest.Nodup ∧
        ∀ key ∈ rest, ∃ value, entry state key = some value ∧ kind value = true)
    (by
      rintro key rest state ⟨path, fine, apart, entries⟩
      rw [List.nodup_cons] at apart
      obtain ⟨value, found, shape⟩ := entries key List.mem_cons_self
      have later : ∀ other ∈ rest, other ≠ key := fun other member same => apart.1 (same ▸ member)
      obtain ⟨next, ran, changed⟩ := step key state value fine found shape
      cases changed with
      | refl =>
        exact ⟨state, ran, path, fine, apart.2,
          fun other member => entries other (List.mem_cons_of_mem key member)⟩
      | single changed =>
        refine ⟨next, ran, path.tail ⟨key, changed⟩, keeps key state next changed fine, apart.2, ?_⟩
        intro other member
        rw [frame key state next changed other (later other member)]
        exact entries other (List.mem_cons_of_mem key member))
    ⟨.refl, fine, distinct, present⟩
  exact ⟨last, ran, path⟩

/-! ## What a loop sees -/

section Observed

variable {σ κ ω ε : Type} {body : σ → κ → Except ε σ}

/-- What is seen along a loop, each time in the state before the body runs. -/
def observed (body : σ → κ → Except ε σ) (sees : σ → κ → List ω) :
    List κ → σ → Except ε (List ω)
  | [], _ => .ok []
  | key :: rest, state => do
    let next ← body state key
    let later ← observed body sees rest next
    return sees state key ++ later

/-- A loop over distinct keys whose body leaves alone what is seen at the other keys sees what
was there at its start. -/
theorem observed_eq {sees : σ → κ → List ω}
    (frame : ∀ state key next, body state key = .ok next →
      ∀ other, other ≠ key → sees next other = sees state other)
    {list : List κ} (distinct : list.Nodup) {start last : σ}
    (ran : list.foldlM body start = .ok last) :
    observed body sees list start = .ok (list.flatMap (sees start)) := by
  induction list generalizing start with
  | nil => rfl
  | cons key rest ih =>
    rw [List.nodup_cons] at distinct
    rw [List.foldlM_cons] at ran
    rw [observed, List.flatMap_cons]
    cases first : body start key with
    | error panic =>
      rw [first] at ran
      contradiction
    | ok next =>
      rw [first] at ran
      have same : rest.flatMap (sees next) = rest.flatMap (sees start) := by
        apply List.flatMap_congr
        intro other member
        apply frame start key next first
        intro equal
        rw [equal] at member
        exact distinct.1 member
      have later := ih distinct.2 ran
      rw [same] at later
      simp only [bind, Except.bind, later]
      rfl

/-- A flag that the body raises at some keys is raised at the end when one of them was such at
the start. -/
theorem foldlM_flag (flag : σ → Bool) (raises : σ → κ → Bool)
    (step : ∀ state key next, body state key = .ok next →
      flag next = (flag state || raises state key))
    (frame : ∀ state key next, body state key = .ok next →
      ∀ other, other ≠ key → raises next other = raises state other)
    {list : List κ} (distinct : list.Nodup) {start last : σ}
    (ran : list.foldlM body start = .ok last) :
    flag last = (flag start || list.any (raises start)) := by
  induction list generalizing start with
  | nil =>
    have same : start = last := Except.ok.inj ran
    rw [← same, List.any_nil, Bool.or_false]
  | cons key rest ih =>
    rw [List.nodup_cons] at distinct
    rw [List.foldlM_cons] at ran
    cases first : body start key with
    | error panic =>
      rw [first] at ran
      contradiction
    | ok next =>
      rw [first] at ran
      have same : rest.any (raises next) = rest.any (raises start) := by
        rw [Bool.eq_iff_iff, List.any_eq_true, List.any_eq_true]
        apply exists_congr
        intro other
        apply and_congr_right
        intro member
        have different : other ≠ key := by
          intro equal
          rw [equal] at member
          exact distinct.1 member
        rw [frame start key next first other different]
      rw [ih distinct.2 ran, step start key next first, same, List.any_cons, Bool.or_assoc]

end Observed

end NsProxy
