import Mathlib.Data.Finset.Basic
import Mathlib.Data.List.Nodup
import Mathlib.Logic.Relation

/-!
# Exploring a graph from a worklist

A graph is given by the successors of each node. The exploration takes a node from the worklist
and adds those of its successors that it has not seen, to the worklist and to the end of the list
of nodes found. However the worklist is ordered, what is found in the end are the nodes that can
be reached, each of them once and each after a node whose successor it is.
-/

namespace NsProxy

/-- The state of an exploration. -/
structure Worklist (α : Type) where
  /-- The nodes whose successors are still to be looked at. -/
  pending : List α
  /-- The nodes found, in the order of their discovery. -/
  found : List α
  /-- The nodes seen. -/
  seen : Finset α

namespace Worklist

variable {α : Type} [DecidableEq α]

/-- Add a node that has not been seen. -/
def push (work : Worklist α) (node : α) : Worklist α :=
  if node ∈ work.seen then work
  else ⟨node :: work.pending, work.found ++ [node], insert node work.seen⟩

/-- Explore from at most a number of nodes. -/
def explore (successors : α → List α) : Nat → Worklist α → Worklist α
  | 0, work => work
  | steps + 1, work =>
    match work.pending with
    | [] => work
    | node :: rest =>
      explore successors steps ((successors node).foldl push { work with pending := rest })

/-- The exploration from a node. -/
def start (root : α) : Worklist α := ⟨[root], [], {root}⟩

/-- One node is a successor of another. -/
def Edge (successors : α → List α) (source target : α) : Prop := target ∈ successors source

/-- What holds of every state of an exploration from a root. -/
structure Sound (successors : α → List α) (root : α) (work : Worklist α) : Prop where
  /-- The root and the nodes found have been seen. -/
  seen : ∀ node, node ∈ work.seen ↔ node ∈ root :: work.found
  /-- No node is found twice, and the root is not found. -/
  nodup : (root :: work.found).Nodup
  /-- The worklist holds nodes that have been seen. -/
  pending : ∀ node ∈ work.pending, node ∈ root :: work.found
  /-- A node is found behind one whose successor it is. -/
  discovered : ∀ before node after, work.found = before ++ node :: after →
    ∃ source ∈ root :: before, Edge successors source node

/-- The successors of every node that was taken from the worklist have been seen. -/
def Closed (successors : α → List α) (work : Worklist α) : Prop :=
  ∀ node ∈ work.seen, node ∉ work.pending → ∀ next ∈ successors node, next ∈ work.seen

variable {successors : α → List α} {root : α} {work : Worklist α}

omit [DecidableEq α] in

/-- The start of an exploration is sound. -/
theorem sound_start : Sound successors root (start root) where
  seen node := by simp [start]
  nodup := by simp [start]
  pending node member := by simpa [start] using member
  discovered before node after split := by
    simp [start] at split

/-! ## One successor -/

/-- A node that is pushed has been seen, and so have those before it. -/
theorem mem_seen_push {node other : α} :
    other ∈ (work.push node).seen ↔ other = node ∨ other ∈ work.seen := by
  unfold push
  split
  · rename_i known
    constructor
    · exact Or.inr
    · rintro (rfl | old)
      · exact known
      · exact old
  · exact Finset.mem_insert

/-- A successor of a node that has been seen. -/
theorem Sound.push (sound : Sound successors root work) {source node : α}
    (known : source ∈ root :: work.found) (edge : Edge successors source node) :
    Sound successors root (work.push node) := by
  unfold Worklist.push
  split
  · exact sound
  · rename_i fresh
    have unseen : node ∉ root :: work.found := fun member => fresh ((sound.seen node).mpr member)
    have seen : ∀ other, other ∈ root :: (work.found ++ [node]) ↔
        other = node ∨ other ∈ root :: work.found := by
      intro other
      simp only [List.mem_cons, List.mem_append, List.not_mem_nil, or_false]
      tauto
    refine ⟨?_, ?_, ?_, ?_⟩
    · intro other
      rw [Finset.mem_insert, sound.seen, seen]
    · rw [← List.cons_append]
      apply List.nodup_append.mpr
      refine ⟨sound.nodup, List.nodup_singleton node, ?_⟩
      intro old member new single same
      rw [List.mem_singleton.mp single] at same
      exact unseen (same ▸ member)
    · intro other member
      rw [seen]
      rcases List.mem_cons.mp member with same | old
      · exact Or.inl same
      · exact Or.inr (sound.pending other old)
    · intro before other after split
      -- The last node found is the new one; every earlier split is one of before.
      rcases List.eq_nil_or_concat after with empty | ⟨init, last, concat⟩
      · rw [empty] at split
        obtain ⟨same, single⟩ := List.append_inj' split rfl
        rw [← List.singleton_inj.mp single, ← same]
        exact ⟨source, known, edge⟩
      · rw [concat, List.concat_eq_append, ← List.cons_append, ← List.append_assoc] at split
        exact sound.discovered before other init (List.append_inj' split rfl).1

/-- The nodes found stay found. -/
theorem found_push (node : α) : work.found <+: (work.push node).found := by
  unfold push
  split
  · exact List.prefix_refl _
  · exact List.prefix_append _ _

/-! ## All successors of a node -/

/-- The nodes that are pushed have been seen, and so have those before them. -/
theorem mem_seen_foldl {nodes : List α} {work : Worklist α} {other : α} :
    other ∈ (nodes.foldl push work).seen ↔ other ∈ nodes ∨ other ∈ work.seen := by
  induction nodes generalizing work with
  | nil => simp
  | cons node nodes ih =>
    rw [List.foldl_cons, ih, mem_seen_push, List.mem_cons]
    tauto

/-- Pushing successors of a node that was found keeps the exploration sound. -/
theorem Sound.foldl (sound : Sound successors root work) {source : α} {nodes : List α}
    (known : source ∈ root :: work.found)
    (edges : ∀ node ∈ nodes, Edge successors source node) :
    Sound successors root (nodes.foldl Worklist.push work) := by
  induction nodes generalizing work with
  | nil => exact sound
  | cons node nodes ih =>
    have next := sound.push known (edges node List.mem_cons_self)
    have still : source ∈ root :: (work.push node).found := by
      rcases List.mem_cons.mp known with same | member
      · exact List.mem_cons.mpr (Or.inl same)
      · exact List.mem_cons_of_mem _ ((found_push node).subset member)
    exact ih next still fun other member => edges other (List.mem_cons_of_mem _ member)

/-- A node enters the worklist once for each node found. -/
theorem length_push (node : α) :
    (work.push node).pending.length + work.found.length =
      work.pending.length + (work.push node).found.length := by
  unfold push
  split
  · rfl
  · simp only [List.length_cons, List.length_append, List.length_nil]
    omega

/-- As many nodes are added to the pending ones as to those found. -/
theorem length_foldl (nodes : List α) (work : Worklist α) :
    (nodes.foldl push work).pending.length + work.found.length =
      work.pending.length + (nodes.foldl push work).found.length := by
  induction nodes generalizing work with
  | nil => rfl
  | cons node nodes ih =>
    have first := @length_push _ _ work node
    have rest := ih (work.push node)
    rw [List.foldl_cons]
    omega

/-- What has been seen and is not pending was seen and not pending before. -/
theorem done_foldl {nodes : List α} {other : α}
    (seen : other ∈ (nodes.foldl push work).seen)
    (done : other ∉ (nodes.foldl push work).pending) :
    other ∈ work.seen ∧ other ∉ work.pending := by
  induction nodes generalizing work with
  | nil => exact ⟨seen, done⟩
  | cons node nodes ih =>
    obtain ⟨known, idle⟩ := ih seen done
    unfold push at known idle
    split at known
    · rename_i old
      rw [if_pos old] at idle
      exact ⟨known, idle⟩
    · rename_i fresh
      rw [if_neg fresh] at idle
      simp only [List.mem_cons, not_or] at idle
      rw [Finset.mem_insert] at known
      exact ⟨known.resolve_left idle.1, idle.2⟩

/-! ## The whole exploration -/

/-- A node is taken from the worklist and its successors are added. -/
def expand (successors : α → List α) (work : Worklist α) (node : α) (rest : List α) : Worklist α :=
  (successors node).foldl push { work with pending := rest }

/-- Taking one node from the worklist keeps the exploration sound. -/
theorem Sound.expand (sound : Sound successors root work) {node : α} {rest : List α}
    (next : work.pending = node :: rest) :
    Sound successors root (work.expand successors node rest) := by
  have popped : Sound successors root { work with pending := rest } := by
    refine ⟨sound.seen, sound.nodup, ?_, sound.discovered⟩
    intro other member
    apply sound.pending other
    rw [next]
    exact List.mem_cons_of_mem _ member
  have known : node ∈ root :: work.found := by
    apply sound.pending node
    rw [next]
    exact List.mem_cons_self
  exact popped.foldl known fun other member => member

/-- Taking one node from the worklist adds its successors to those seen. -/
theorem Closed.expand (closed : Closed successors work) {node : α} {rest : List α}
    (next : work.pending = node :: rest) :
    Closed successors (work.expand successors node rest) := by
  intro other seen done following edge
  obtain ⟨known, idle⟩ := done_foldl seen done
  apply mem_seen_foldl.mpr
  by_cases same : other = node
  · rw [same] at edge
    exact Or.inl edge
  · right
    apply closed other known
    · rw [next]
      exact List.not_mem_cons_of_ne_of_not_mem same idle
    · exact edge

/-- A property that every step keeps holds in the end. -/
theorem explore_invariant (invariant : Worklist α → Prop)
    (keeps : ∀ work node rest, invariant work → work.pending = node :: rest →
      invariant (work.expand successors node rest))
    (steps : Nat) (work : Worklist α) (holds : invariant work) :
    invariant (explore successors steps work) := by
  induction steps generalizing work with
  | zero => exact holds
  | succ steps ih =>
    unfold explore
    split
    · exact holds
    · rename_i node rest next
      exact ih _ (keeps work node rest holds next)

/-- An exploration is sound after any number of steps. -/
theorem sound_explore (steps : Nat) :
    Sound successors root (explore successors steps (start root)) :=
  explore_invariant (Sound successors root) (fun _ _ _ sound next => sound.expand next) steps _
    sound_start

/-- An exploration is closed after any number of steps. -/
theorem closed_explore (steps : Nat) :
    Closed successors (explore successors steps (start root)) := by
  apply explore_invariant (Closed successors) (fun _ _ _ closed next => closed.expand next)
  intro node seen idle
  rw [start, Finset.mem_singleton] at seen
  rw [start, List.mem_singleton] at idle
  exact absurd seen idle

omit [DecidableEq α] in
/-- In a finite graph no more nodes are found than there are. -/
theorem Sound.length_le (sound : Sound successors root work) {nodes : List α}
    (finite : ∀ source target, Edge successors source target → target ∈ nodes) :
    work.found.length ≤ nodes.length := by
  have inside : work.found ⊆ nodes := by
    intro node member
    obtain ⟨before, after, split⟩ := List.append_of_mem member
    obtain ⟨source, _, edge⟩ := sound.discovered before node after split
    exact finite source node edge
  have distinct := (List.nodup_cons.mp sound.nodup).2
  exact (distinct.subperm inside).length_le

/-- In a finite graph the worklist runs empty. -/
theorem pending_explore (nodes : List α)
    (finite : ∀ source target, Edge successors source target → target ∈ nodes) (steps : Nat)
    (sound : Sound successors root work)
    (enough : work.pending.length + nodes.length ≤ steps + work.found.length) :
    (explore successors steps work).pending = [] := by
  induction steps generalizing work with
  | zero =>
    have bound := sound.length_le finite
    apply List.eq_nil_of_length_eq_zero
    simp only [explore]
    omega
  | succ steps ih =>
    unfold explore
    split
    · assumption
    · rename_i node rest next
      have grown := length_foldl (successors node) { work with pending := rest }
      rw [next, List.length_cons] at enough
      apply ih (sound.expand next)
      simp only [Worklist.expand] at grown ⊢
      omega

omit [DecidableEq α] in
/-- Every node found can be reached. -/
theorem Sound.reachable (sound : Sound successors root work) {before after : List α} {node : α}
    (split : work.found = before ++ node :: after) :
    Relation.TransGen (Edge successors) root node := by
  -- The induction follows the order of discovery.
  induction size : before.length using Nat.strong_induction_on generalizing before node after with
  | _ count ih =>
    obtain ⟨source, member, edge⟩ := sound.discovered before node after split
    rcases List.mem_cons.mp member with same | inside
    · rw [same] at edge
      exact .single edge
    · obtain ⟨first, second, parts⟩ := List.append_of_mem inside
      have shorter : first.length < count := by
        rw [← size, parts, List.length_append, List.length_cons]
        omega
      have whole : work.found = first ++ source :: (second ++ node :: after) := by
        rw [split, parts, List.append_assoc, List.cons_append]
      exact (ih first.length shorter whole rfl).tail edge

/-- Once the worklist is empty, the nodes found are the ones that can be reached. -/
theorem mem_found_explore {steps : Nat}
    (finished : (explore successors steps (start root)).pending = []) (node : α) :
    node ∈ (explore successors steps (start root)).found ↔
      node ≠ root ∧ Relation.TransGen (Edge successors) root node := by
  have sound : Sound successors root _ := sound_explore steps
  have closed : Closed successors (explore successors steps (start root)) := closed_explore steps
  constructor
  · intro member
    obtain ⟨before, after, split⟩ := List.append_of_mem member
    refine ⟨?_, sound.reachable split⟩
    rintro rfl
    exact (List.nodup_cons.mp sound.nodup).1 member
  · rintro ⟨other, path⟩
    have seen : node ∈ (explore successors steps (start root)).seen := by
      induction path with
      | single edge =>
        apply closed root ((sound.seen root).mpr List.mem_cons_self) _ _ edge
        rw [finished]
        exact List.not_mem_nil
      | @tail middle last _ edge ih =>
        have known : middle ∈ (explore successors steps (start root)).seen := by
          by_cases same : middle = root
          · rw [same]
            exact (sound.seen root).mpr List.mem_cons_self
          · exact ih same
        apply closed middle known _ _ edge
        rw [finished]
        exact List.not_mem_nil
    rcases List.mem_cons.mp ((sound.seen node).mp seen) with same | inside
    · exact absurd same other
    · exact inside

end Worklist

end NsProxy
