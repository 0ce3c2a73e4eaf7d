import Mathlib.Data.List.Basic

/-!
# Binary tries

A trie over bit paths whose cells are written at most once. Two facts describe it: which
cell an insertion writes, and which of the cells along a path a descent returns.
-/

namespace NsProxy

/-- A node with a subtree per bit and a cell. -/
inductive BitTrie (α : Type) where
  /-- The two subtrees and the cell. -/
  | node (zero one : Option (BitTrie α)) (cell : Option α)

namespace BitTrie

variable {α : Type}

/-- A node without subtrees and with an unwritten cell. -/
def empty : BitTrie α := .node none none none

instance : Inhabited (BitTrie α) := ⟨empty⟩

/-- The cell of the root. -/
def cell : BitTrie α → Option α
  | .node _ _ value => value

/-- The subtree of a bit. -/
def child : BitTrie α → Bool → Option (BitTrie α)
  | .node zero _ _, false => zero
  | .node _ one _, true => one

/-- Replace the subtree of a bit. -/
def setChild : BitTrie α → Bool → BitTrie α → BitTrie α
  | .node _ one value, false, subtree => .node (some subtree) one value
  | .node zero _ value, true, subtree => .node zero (some subtree) value

/-- Write the cell of the root unless it is written. -/
def fill : BitTrie α → α → BitTrie α
  | .node zero one value, written => .node zero one (value.or (some written))

/-- Write the cell at the end of a path unless it is written, creating the nodes on the way. -/
def insertAlong (written : α) : List Bool → BitTrie α → BitTrie α
  | [], trie => trie.fill written
  | bit :: path, trie =>
    trie.setChild bit (insertAlong written path ((trie.child bit).getD empty))

/-- The cell at the end of a path. -/
def cellAt : List Bool → BitTrie α → Option α
  | [], trie => trie.cell
  | bit :: path, trie => (trie.child bit).bind (cellAt path)

/-- The last written cell on the descent along a path. -/
def deepest : List Bool → BitTrie α → Option α
  | [], trie => trie.cell
  | bit :: path, trie => ((trie.child bit).bind (deepest path)).or trie.cell

/-- A cell is filled only where it is empty. -/
@[simp] theorem cell_fill (trie : BitTrie α) (written : α) :
    (trie.fill written).cell = trie.cell.or (some written) := by
  cases trie
  rfl

/-- Filling the cell leaves the subtrees alone. -/
@[simp] theorem child_fill (trie : BitTrie α) (written : α) (bit : Bool) :
    (trie.fill written).child bit = trie.child bit := by
  cases trie
  cases bit <;> rfl

/-- A new subtree leaves the cell alone. -/
@[simp] theorem cell_setChild (trie : BitTrie α) (bit : Bool) (subtree : BitTrie α) :
    (trie.setChild bit subtree).cell = trie.cell := by
  cases trie
  cases bit <;> rfl

/-- A new subtree stands under its own bit alone. -/
@[simp] theorem child_setChild (trie : BitTrie α) (bit : Bool) (subtree : BitTrie α)
    (other : Bool) :
    (trie.setChild bit subtree).child other =
      if other = bit then some subtree else trie.child other := by
  cases trie
  cases bit <;> cases other <;> rfl

/-- No cell of the empty trie is written. -/
@[simp] theorem cellAt_empty (path : List Bool) : cellAt path (empty : BitTrie α) = none := by
  cases path with
  | nil => rfl
  | cons bit path => cases bit <;> rfl

/-- A missing subtree reads like an empty one. -/
theorem cellAt_getD_empty (path : List Bool) (subtree : Option (BitTrie α)) :
    cellAt path (subtree.getD empty) = subtree.bind (cellAt path) := by
  cases subtree with
  | none => exact cellAt_empty path
  | some trie => rfl

/-- An insertion writes the cell of its path, if unwritten, and no other. -/
theorem cellAt_insertAlong (written : α) (path : List Bool) (trie : BitTrie α)
    (query : List Bool) :
    cellAt query (insertAlong written path trie) =
      if query = path then (cellAt path trie).or (some written) else cellAt query trie := by
  induction path generalizing trie query with
  | nil =>
    cases query with
    | nil => simp [insertAlong, cellAt]
    | cons bit query => simp [insertAlong, cellAt]
  | cons bit path ih =>
    cases query with
    | nil => simp [insertAlong, cellAt]
    | cons other query =>
      by_cases same : other = bit
      · subst same
        simp [insertAlong, cellAt, ih, cellAt_getD_empty]
      · simp [insertAlong, cellAt, same]

/-- A descent finds nothing exactly when no cell on its way is written. -/
theorem deepest_eq_none_iff (path : List Bool) (trie : BitTrie α) :
    deepest path trie = none ↔ ∀ part, part <+: path → cellAt part trie = none := by
  induction path generalizing trie with
  | nil => simp [deepest, cellAt]
  | cons bit path ih =>
    rw [deepest, Option.or_eq_none_iff]
    constructor
    · rintro ⟨below, here⟩ part inside
      rcases List.prefix_cons_iff.mp inside with rfl | ⟨rest, rfl, shorter⟩
      · exact here
      · rw [cellAt]
        cases subtree : trie.child bit with
        | none => rfl
        | some child =>
          rw [subtree] at below
          exact (ih child).mp below rest shorter
    · intro unwritten
      refine ⟨?_, unwritten [] List.nil_prefix⟩
      cases subtree : trie.child bit with
      | none => rfl
      | some child =>
        refine (ih child).mpr fun part inside => ?_
        have cellBelow := unwritten (bit :: part) (List.prefix_cons_inj bit |>.mpr inside)
        rwa [cellAt, subtree] at cellBelow

/-- A descent returns the written cell that is furthest along its way. -/
theorem deepest_eq_some_iff (path : List Bool) (trie : BitTrie α) (found : α) :
    deepest path trie = some found ↔ ∃ part, part <+: path ∧ cellAt part trie = some found ∧
      ∀ longer, longer <+: path → part.length < longer.length → cellAt longer trie = none := by
  induction path generalizing trie with
  | nil => simp [deepest, cellAt]
  | cons bit path ih =>
    rw [deepest, Option.or_eq_some_iff]
    constructor
    · rintro (below | ⟨nothing, here⟩)
      · obtain ⟨child, subtree, below⟩ := Option.bind_eq_some_iff.mp below
        obtain ⟨part, inside, written, last⟩ := (ih child).mp below
        refine ⟨bit :: part, (List.prefix_cons_inj bit).mpr inside, ?_, ?_⟩
        · rwa [cellAt, subtree]
        · intro longer within further
          rcases List.prefix_cons_iff.mp within with rfl | ⟨rest, rfl, shorter⟩
          · simp at further
          · rw [cellAt, subtree]
            exact last rest shorter (by simpa using further)
      · refine ⟨[], List.nil_prefix, here, ?_⟩
        intro longer within further
        rcases List.prefix_cons_iff.mp within with rfl | ⟨rest, rfl, shorter⟩
        · simp at further
        · rw [cellAt]
          cases subtree : trie.child bit with
          | none => rfl
          | some child =>
            rw [subtree] at nothing
            exact (deepest_eq_none_iff path child).mp nothing rest shorter
    · rintro ⟨part, inside, written, last⟩
      rcases List.prefix_cons_iff.mp inside with rfl | ⟨rest, rfl, shorter⟩
      · refine Or.inr ⟨?_, written⟩
        cases subtree : trie.child bit with
        | none => rfl
        | some child =>
          refine (deepest_eq_none_iff path child).mpr fun part within => ?_
          have cellBelow := last (bit :: part) ((List.prefix_cons_inj bit).mpr within) (by simp)
          rwa [cellAt, subtree] at cellBelow
      · left
        rw [cellAt] at written
        obtain ⟨child, subtree, written⟩ := Option.bind_eq_some_iff.mp written
        rw [subtree]
        refine (ih child).mpr ⟨rest, shorter, written, fun longer within further => ?_⟩
        have cellBelow := last (bit :: longer) ((List.prefix_cons_inj bit).mpr within)
          (by simpa using further)
        rwa [cellAt, subtree] at cellBelow

end BitTrie

end NsProxy
