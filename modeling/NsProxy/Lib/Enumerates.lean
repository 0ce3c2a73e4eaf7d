import NsProxy.Lib.HashMap

/-!
# Maps and their sets of values

A component that gives out values often keeps them twice: a map from its entries to the values
and the set of values in use. `Enumerates` says that the two agree and that no value is given
out twice; giving out a fresh value and taking one back keep it.
-/

namespace NsProxy

variable {κ ν : Type}

/-- The map is injective, and the set holds exactly its values. -/
structure Enumerates [DecidableEq κ] (map : HashMap κ ν) (values : Finset ν) : Prop where
  /-- No two keys share a value. -/
  injective : ∀ left right value, map.lookup left = some value → map.lookup right = some value →
    left = right
  /-- The set holds the values of the map. -/
  mem_iff : ∀ value, value ∈ values ↔ ∃ key, map.lookup key = some value

namespace Enumerates

variable [DecidableEq κ] {map : HashMap κ ν} {values : Finset ν}

/-- Nothing is given out. -/
theorem empty : Enumerates (∅ : HashMap κ ν) ∅ where
  injective left right value found _ := by
    rw [Finmap.lookup_empty] at found
    contradiction
  mem_iff value := by
    constructor
    · intro member
      exact absurd member (Finset.notMem_empty value)
    · rintro ⟨key, found⟩
      rw [Finmap.lookup_empty] at found
      contradiction

variable [DecidableEq ν]

/-- A fresh value is given out to a new key. -/
theorem insert (enumerates : Enumerates map values) {key : κ} {value : ν}
    (absent : map.lookup key = none) (fresh : value ∉ values) :
    Enumerates (map.insert key value) (insert value values) where
  injective left right shared foundLeft foundRight := by
    have unheld : ∀ other, map.lookup other ≠ some value := fun other found =>
      fresh ((enumerates.mem_iff value).mpr ⟨other, found⟩)
    rw [HashMap.lookup_insert_if] at foundLeft foundRight
    by_cases isLeft : left = key
    · by_cases isRight : right = key
      · rw [isLeft, isRight]
      · rw [if_pos isLeft, Option.some.injEq] at foundLeft
        rw [if_neg isRight, ← foundLeft] at foundRight
        exact absurd foundRight (unheld right)
    · rw [if_neg isLeft] at foundLeft
      by_cases isRight : right = key
      · rw [if_pos isRight, Option.some.injEq] at foundRight
        rw [← foundRight] at foundLeft
        exact absurd foundLeft (unheld left)
      · rw [if_neg isRight] at foundRight
        exact enumerates.injective left right shared foundLeft foundRight
  mem_iff probe := by
    rw [Finset.mem_insert, enumerates.mem_iff]
    constructor
    · rintro (same | ⟨other, found⟩)
      · refine ⟨key, ?_⟩
        rw [HashMap.lookup_insert_if, if_pos rfl, same]
      · have different : other ≠ key := by
          intro same
          rw [same, absent] at found
          contradiction
        refine ⟨other, ?_⟩
        rw [HashMap.lookup_insert_if, if_neg different]
        exact found
    · rintro ⟨other, found⟩
      rw [HashMap.lookup_insert_if] at found
      by_cases same : other = key
      · rw [if_pos same, Option.some.injEq] at found
        exact Or.inl found.symm
      · rw [if_neg same] at found
        exact Or.inr ⟨other, found⟩

/-- A key gives its value back. -/
theorem erase (enumerates : Enumerates map values) {key : κ} {value : ν}
    (found : map.lookup key = some value) : Enumerates (map.erase key) (values.erase value) where
  injective left right shared foundLeft foundRight := by
    rw [HashMap.lookup_erase_if] at foundLeft foundRight
    by_cases isLeft : left = key
    · rw [if_pos isLeft] at foundLeft
      contradiction
    · by_cases isRight : right = key
      · rw [if_pos isRight] at foundRight
        contradiction
      · rw [if_neg isLeft] at foundLeft
        rw [if_neg isRight] at foundRight
        exact enumerates.injective left right shared foundLeft foundRight
  mem_iff probe := by
    rw [Finset.mem_erase, enumerates.mem_iff]
    constructor
    · rintro ⟨different, other, held⟩
      have elsewhere : other ≠ key := by
        intro same
        rw [same, found, Option.some.injEq] at held
        exact different held.symm
      refine ⟨other, ?_⟩
      rw [HashMap.lookup_erase_if, if_neg elsewhere]
      exact held
    · rintro ⟨other, held⟩
      rw [HashMap.lookup_erase_if] at held
      by_cases same : other = key
      · rw [if_pos same] at held
        contradiction
      · rw [if_neg same] at held
        refine ⟨?_, other, held⟩
        intro equal
        rw [equal] at held
        exact same (enumerates.injective other key value held found)

/-- There are as many keys as values. -/
theorem card_keys (enumerates : Enumerates map values) : map.keys.card = values.card := by
  have paired : map.keys.image map.lookup = values.image some := by
    ext entry
    rw [Finset.mem_image, Finset.mem_image]
    constructor
    · rintro ⟨key, member, rfl⟩
      obtain ⟨value, found⟩ := (HashMap.mem_keys_iff map key).mp member
      exact ⟨value, (enumerates.mem_iff value).mpr ⟨key, found⟩, found.symm⟩
    · rintro ⟨value, member, rfl⟩
      obtain ⟨key, found⟩ := (enumerates.mem_iff value).mp member
      exact ⟨key, (HashMap.mem_keys_iff map key).mpr ⟨value, found⟩, found⟩
  have apart : Set.InjOn map.lookup map.keys := by
    intro left inLeft right _ same
    obtain ⟨value, found⟩ := (HashMap.mem_keys_iff map left).mp inLeft
    have other : map.lookup right = some value := same.symm.trans found
    exact enumerates.injective left right value found other
  rw [← Finset.card_image_of_injOn apart, paired,
    Finset.card_image_of_injective values (Option.some_injective ν)]

end Enumerates

end NsProxy
