import Mathlib.Data.List.Basic

/-!
# Polling for what will be tried

A component tries operations on its connections and, while it waits, polls the connections for
operations. When on each connection it polls for exactly the operations that it would try, the
whole component does: a poll finds something ready exactly when some try would.
-/

namespace NsProxy.Readiness

variable {κ χ δ α : Type}

/-- The items of the connection under a key, if there is one, each with the key. -/
def tagged {ω : Type} (connection : κ → Option χ) (items : χ → List ω) (key : κ) : List (κ × ω) :=
  match connection key with
  | none => []
  | some found => (items found).map fun item => (key, item)

/-- What is collected from the connections is tagged with the key it comes from. -/
theorem mem_flatMap_tagged {ω : Type} {connection : κ → Option χ} {items : χ → List ω}
    {keys : List κ} {key : κ} {item : ω} :
    (key, item) ∈ keys.flatMap (tagged connection items) ↔
      key ∈ keys ∧ ∃ found, connection key = some found ∧ item ∈ items found := by
  rw [List.mem_flatMap]
  constructor
  · rintro ⟨other, inside, member⟩
    unfold tagged at member
    cases present : connection other with
    | none =>
      rw [present] at member
      contradiction
    | some found =>
      rw [present] at member
      obtain ⟨own, listed, same⟩ := List.mem_map.mp member
      rw [Prod.mk.injEq] at same
      rw [← same.1, ← same.2]
      exact ⟨inside, found, present, listed⟩
  · rintro ⟨inside, found, present, listed⟩
    refine ⟨key, inside, ?_⟩
    rw [tagged, present]
    exact List.mem_map_of_mem listed

/-- On a connection, the operations tried are those polled for, each as ready as the poll finds
it. -/
def Matches (direction : α → δ) (ready : α → Bool) (polls : χ → List δ) (isReady : χ → δ → Bool)
    (tries : χ → List α) : Prop :=
  ∀ found way flag, (∃ made ∈ tries found, direction made = way ∧ ready made = flag) ↔
    way ∈ polls found ∧ isReady found way = flag

section Matches

variable {direction : α → δ} {ready : α → Bool} {polls : χ → List δ} {isReady : χ → δ → Bool}
  {tries : χ → List α} {connection : κ → Option χ} {polled tried : List κ}

/-- The component polls for exactly the operations that it would try. -/
theorem mem_polls_iff (same : Matches direction ready polls isReady tries)
    (covers : ∀ key, connection key ≠ none → (key ∈ polled ↔ key ∈ tried)) (key : κ) (way : δ) :
    (key, way) ∈ polled.flatMap (tagged connection polls) ↔
      ∃ made, (key, made) ∈ tried.flatMap (tagged connection tries) ∧ direction made = way := by
  rw [mem_flatMap_tagged]
  constructor
  · rintro ⟨inside, found, present, listed⟩
    obtain ⟨made, member, sameWay, -⟩ := (same found way (isReady found way)).mpr ⟨listed, rfl⟩
    have here := (covers key (by rw [present]; exact Option.some_ne_none found)).mp inside
    exact ⟨made, mem_flatMap_tagged.mpr ⟨here, found, present, member⟩, sameWay⟩
  · rintro ⟨made, member, sameWay⟩
    obtain ⟨inside, found, present, listed⟩ := mem_flatMap_tagged.mp member
    have here := (covers key (by rw [present]; exact Option.some_ne_none found)).mpr inside
    exact ⟨here, found, present, ((same found way (ready made)).mp ⟨made, listed, sameWay, rfl⟩).1⟩

/-- A poll finds something ready exactly when some try would. -/
theorem any_polls_iff (same : Matches direction ready polls isReady tries)
    (covers : ∀ key, connection key ≠ none → (key ∈ polled ↔ key ∈ tried)) :
    (polled.any fun key => (connection key).any fun found =>
      (polls found).any (isReady found)) = true ↔
      ∃ key made, (key, made) ∈ tried.flatMap (tagged connection tries) ∧ ready made = true := by
  rw [List.any_eq_true]
  constructor
  · rintro ⟨key, inside, polledReady⟩
    rw [Option.any_eq_true] at polledReady
    obtain ⟨found, present, answered⟩ := polledReady
    obtain ⟨way, listed, fine⟩ := List.any_eq_true.mp answered
    obtain ⟨made, member, -, sameFlag⟩ := (same found way true).mpr ⟨listed, fine⟩
    have here := (covers key (by rw [present]; exact Option.some_ne_none found)).mp inside
    exact ⟨key, made, mem_flatMap_tagged.mpr ⟨here, found, present, member⟩, sameFlag⟩
  · rintro ⟨key, made, member, fine⟩
    obtain ⟨inside, found, present, listed⟩ := mem_flatMap_tagged.mp member
    have here := (covers key (by rw [present]; exact Option.some_ne_none found)).mpr inside
    have polling := (same found (direction made) true).mp ⟨made, listed, rfl, fine⟩
    refine ⟨key, here, ?_⟩
    rw [present, Option.any_some, List.any_eq_true]
    exact ⟨direction made, polling⟩

end Matches

end NsProxy.Readiness
