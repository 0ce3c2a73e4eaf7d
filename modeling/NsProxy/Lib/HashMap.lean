import Mathlib.Data.Finmap

/-!
# Hash maps

A hash map is Mathlib's finite map: extensional, with no observable order. The two
conditional lookup equations below are the only facts later proofs use to read a map
after a write. A loop over a map visits its keys in an order that the map does not fix;
`IterOrder` is any such order, so a result proved for every `IterOrder` holds for every
order the hasher can choose.
-/

namespace NsProxy

/-- A finite map, as the hash map of the source. -/
abbrev HashMap (κ ν : Type) : Type := Finmap fun _ : κ => ν

namespace HashMap

variable {κ ν : Type} [DecidableEq κ]

/-- Reading a map after one insertion. -/
theorem lookup_insert_if (map : HashMap κ ν) (key probe : κ) (value : ν) :
    (map.insert key value).lookup probe =
      if probe = key then some value else map.lookup probe := by
  by_cases same : probe = key
  · subst same
    rw [if_pos rfl]
    exact Finmap.lookup_insert map
  · rw [if_neg same]
    exact Finmap.lookup_insert_of_ne map same

/-- Reading a map after one removal. -/
theorem lookup_erase_if (map : HashMap κ ν) (key probe : κ) :
    (map.erase key).lookup probe = if probe = key then none else map.lookup probe := by
  by_cases same : probe = key
  · subst same
    rw [if_pos rfl]
    exact Finmap.lookup_erase probe map
  · rw [if_neg same]
    exact Finmap.lookup_erase_ne same

/-- A key is one under which something is found. -/
theorem mem_keys_iff (map : HashMap κ ν) (key : κ) :
    key ∈ map.keys ↔ ∃ value, map.lookup key = some value := by
  rw [Finmap.mem_keys, Finmap.mem_iff]

/-- The keys after one insertion. -/
theorem keys_insert (map : HashMap κ ν) (key : κ) (value : ν) :
    (map.insert key value).keys = insert key map.keys := by
  ext probe
  rw [Finmap.mem_keys, Finmap.mem_insert, Finset.mem_insert, Finmap.mem_keys]

/-- Putting a value under a key that was there keeps the keys. -/
theorem keys_insert_of_lookup {map : HashMap κ ν} {key : κ} {old : ν}
    (found : map.lookup key = some old) (value : ν) : (map.insert key value).keys = map.keys := by
  rw [keys_insert, Finset.insert_eq_of_mem ((mem_keys_iff map key).mpr ⟨old, found⟩)]

/-- Taking an entry out and putting one back is putting it in. -/
theorem insert_erase_self (map : HashMap κ ν) (key : κ) (value : ν) :
    (map.erase key).insert key value = map.insert key value := by
  apply Finmap.ext_lookup
  intro probe
  rw [lookup_insert_if, lookup_insert_if, lookup_erase_if]
  split <;> rfl

end HashMap

/-- An iteration order of the keys of a map: every key is visited exactly once. -/
structure IterOrder (κ : Type) where
  /-- The keys in the order in which they are visited. -/
  visit : Finset κ → List κ
  /-- No key is visited twice. -/
  nodup : ∀ keys, (visit keys).Nodup
  /-- Exactly the keys of the map are visited. -/
  mem_visit : ∀ keys key, key ∈ visit keys ↔ key ∈ keys

/-- The keys of the entries of one kind, each visited once. -/
theorem IterOrder.visit_filter {κ ν : Type} [DecidableEq κ] (order : IterOrder κ)
    (map : HashMap κ ν) (kind : ν → Bool) :
    ((order.visit map.keys).filter fun key => (map.lookup key).any kind).Nodup ∧
      ∀ key ∈ (order.visit map.keys).filter fun key => (map.lookup key).any kind,
        ∃ value, map.lookup key = some value ∧ kind value = true := by
  refine ⟨(order.nodup _).filter _, ?_⟩
  intro key member
  have shape := (List.mem_filter.mp member).2
  rw [Option.any_eq_true] at shape
  exact shape

/-- Every key is visited once, and has an entry. -/
theorem IterOrder.visit_entries {κ ν : Type} [DecidableEq κ] (order : IterOrder κ)
    (map : HashMap κ ν) (key : κ) (member : key ∈ order.visit map.keys) :
    ∃ value, map.lookup key = some value :=
  (HashMap.mem_keys_iff map key).mp ((order.mem_visit _ key).mp member)

end NsProxy
