import Mathlib.Data.Finset.Basic
import Mathlib.Logic.Relation

/-!
# Shares of a table

Several components keep entries in one table and each remembers the keys of its own. The
table is seen as the kind of entry under each key. What a component may do to the table is
one relation, `Turn`: it leaves entries outside its share alone, takes only free keys, and
frees what it gives up. Turns compose, and a turn of one component cannot disturb the share
of another.
-/

namespace NsProxy

variable {κ χ : Type}

/-- Every key of a share holds an entry of one kind. -/
def Held (kind : χ) (table : κ → Option χ) (share : Finset κ) : Prop :=
  ∀ key ∈ share, table key = some kind

/-- A component with a share of one kind turns a table and its share into new ones. -/
structure Turn (kind : χ) (before : κ → Option χ) (share : Finset κ) (after : κ → Option χ)
    (next : Finset κ) : Prop where
  /-- Entries outside the old and the new share are left alone. -/
  frame : ∀ key, key ∉ share → key ∉ next → after key = before key
  /-- The new share is held. -/
  held : Held kind after next
  /-- What the component gave up is gone. -/
  freed : ∀ key ∈ share, key ∉ next → after key = none
  /-- What the component took was free. -/
  taken : ∀ key ∈ next, key ∉ share → before key = none

namespace Turn

variable {kind : χ} {before middle after : κ → Option χ} {share between next : Finset κ}

/-- Doing nothing. -/
theorem refl (held : Held kind before share) : Turn kind before share before share where
  frame _ _ _ := rfl
  held := held
  freed _ inside outside := absurd inside outside
  taken _ inside outside := absurd inside outside

/-- Rewriting entries without a change of kind. -/
theorem rewrite (held : Held kind before share) (same : ∀ key, after key = before key) :
    Turn kind before share after share where
  frame key _ _ := same key
  held key inside := (same key).trans (held key inside)
  freed _ inside outside := absurd inside outside
  taken _ inside outside := absurd inside outside

/-- Taking a free key. -/
theorem take [DecidableEq κ] {key : κ} (held : Held kind before share) (free : before key = none)
    (same : ∀ probe, after probe = if probe = key then some kind else before probe) :
    Turn kind before share after (insert key share) where
  frame probe _ outside := by
    have other : probe ≠ key := fun equal => outside (equal ▸ Finset.mem_insert_self key share)
    rw [same, if_neg other]
  held probe inside := by
    rw [same]
    split
    · rfl
    · rename_i other
      exact held probe (Finset.mem_of_mem_insert_of_ne inside other)
  freed probe inside outside := absurd (Finset.mem_insert_of_mem inside) outside
  taken probe inside outside := by
    rcases Finset.mem_insert.mp inside with equal | old
    · rw [equal]
      exact free
    · exact absurd old outside

/-- Giving up a key. -/
theorem drop [DecidableEq κ] {key : κ} (held : Held kind before share) (inside : key ∈ share)
    (same : ∀ probe, after probe = if probe = key then none else before probe) :
    Turn kind before share after (share.erase key) where
  frame probe outside _ := by
    have other : probe ≠ key := fun equal => outside (equal ▸ inside)
    rw [same, if_neg other]
  held probe kept := by
    rw [same, if_neg (Finset.ne_of_mem_erase kept)]
    exact held probe (Finset.mem_of_mem_erase kept)
  freed probe old gone := by
    have equal : probe = key := by
      by_contra other
      exact gone (Finset.mem_erase.mpr ⟨other, old⟩)
    rw [same, if_pos equal]
  taken probe kept outside := absurd (Finset.mem_of_mem_erase kept) outside

/-- One turn after another. -/
theorem trans (first : Turn kind before share middle between)
    (second : Turn kind middle between after next) : Turn kind before share after next where
  frame key outside beyond := by
    by_cases passing : key ∈ between
    · rw [second.freed key passing beyond, first.taken key passing outside]
    · rw [second.frame key passing beyond, first.frame key outside passing]
  held := second.held
  freed key inside gone := by
    by_cases passing : key ∈ between
    · exact second.freed key passing gone
    · rw [second.frame key passing gone, first.freed key inside passing]
  taken key inside outside := by
    by_cases passing : key ∈ between
    · exact first.taken key passing outside
    · rw [← first.frame key outside passing]
      exact second.taken key inside passing

/-- Changes that are turns add up to a turn. -/
theorem path {σ : Type} {change : σ → σ → Prop} {table : σ → κ → Option χ}
    {owned : σ → Finset κ}
    (turn : ∀ start finish, change start finish → Held kind (table start) (owned start) →
      Turn kind (table start) (owned start) (table finish) (owned finish))
    {start finish : σ} (changes : Relation.ReflTransGen change start finish)
    (held : Held kind (table start) (owned start)) :
    Turn kind (table start) (owned start) (table finish) (owned finish) := by
  induction changes with
  | refl => exact refl held
  | tail _ change earlier => exact earlier.trans (turn _ _ change earlier.held)

/-- A turn leaves a disjoint share of any kind as it was, and disjoint. -/
theorem leaves {other : χ} {share' : Finset κ} (turn : Turn kind before share after next)
    (held : Held other before share') (apart : Disjoint share share') :
    Held other after share' ∧ Disjoint next share' := by
  have separate : Disjoint next share' := by
    rw [Finset.disjoint_left]
    intro key inside theirs
    have outside : key ∉ share := fun ours => Finset.disjoint_left.mp apart ours theirs
    have free := turn.taken key inside outside
    rw [held key theirs] at free
    contradiction
  refine ⟨?_, separate⟩
  intro key theirs
  rw [turn.frame key (fun ours => Finset.disjoint_left.mp apart ours theirs)
    (fun ours => Finset.disjoint_left.mp separate ours theirs)]
  exact held key theirs

/-- A turn keeps every entry of the table in the share of its component or outside it. -/
theorem covers (turn : Turn kind before share after next) (rest : Finset κ)
    (covered : ∀ key, before key ≠ none → key ∈ share ∨ key ∈ rest) :
    ∀ key, after key ≠ none → key ∈ next ∨ key ∈ rest := by
  intro key present
  by_cases inside : key ∈ next
  · exact Or.inl inside
  · by_cases ours : key ∈ share
    · exact absurd (turn.freed key ours inside) present
    · rw [turn.frame key ours inside] at present
      exact Or.inr ((covered key present).resolve_left ours)

end Turn

end NsProxy
