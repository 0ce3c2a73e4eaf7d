import Mathlib.Data.Finset.Image
import Mathlib.Order.Interval.Finset.Nat
import Mathlib.Logic.Function.Iterate

/-!
# Source ports of published connections

`PortAllocator` of `event_loop/published.rs`. A port is found by walking the range cyclically
from `next`; the walk visits every port of the range once, so it fails only when all of them
are in use.
-/

namespace NsProxy.EventLoop

/-- `PORT_MIN`. -/
def portMin : UInt16 := 49152

/-- `PORT_MAX`. -/
def portMax : UInt16 := 65535

/-- `PortAllocator`. -/
structure PortAllocator where
  /-- `next`. -/
  next : UInt16
  /-- `used`. -/
  used : Finset UInt16
  deriving DecidableEq

namespace PortAllocator

/-- `PortAllocator::new`. -/
def new : PortAllocator := ⟨portMin, ∅⟩

/-- The number of ports in the range. -/
def capacity : Nat := (portMax - portMin).toNat + 1

/-- The value that `next` gets after a candidate. -/
def following (candidate : UInt16) : UInt16 :=
  if candidate = portMax then portMin else candidate + 1

/-- A number of rounds of the loop of `allocate`. -/
def rounds (ports : PortAllocator) : Nat → Option UInt16 × PortAllocator
  | 0 => (none, ports)
  | count + 1 =>
    let candidate := ports.next
    let ports := { ports with next := following candidate }
    if candidate ∈ ports.used then rounds ports count
    else (some candidate, { ports with used := insert candidate ports.used })

/-- `PortAllocator::allocate`. -/
@[irreducible] def allocate (ports : PortAllocator) : Option UInt16 × PortAllocator :=
  ports.rounds capacity

/-- `PortAllocator::release`. -/
def release (ports : PortAllocator) (port : UInt16) : PortAllocator :=
  { ports with used := ports.used.erase port }

/-! ## The walk around the range -/

/-- A port of the range; no port is above `PORT_MAX`. -/
def InRange (port : UInt16) : Prop := portMin ≤ port

/-- The range of ports has a lower bound alone. -/
theorem inRange_iff (port : UInt16) : InRange port ↔ 49152 ≤ port.toNat := UInt16.le_iff_toNat_le

/-- One step of the walk, on the position in the range. -/
theorem toNat_following {port : UInt16} (inside : InRange port) :
    (following port).toNat = 49152 + (port.toNat - 49152 + 1) % 16384 := by
  rw [inRange_iff] at inside
  have bound := port.toNat_lt
  by_cases last : port = portMax
  · rw [following, if_pos last, last]
    rfl
  · have below : port.toNat ≠ 65535 := fun same => last (UInt16.toNat_inj.mp same)
    rw [following, if_neg last, UInt16.toNat_add]
    simp only [UInt16.toNat_one]
    omega

/-- The port after one in the range is in the range. -/
theorem inRange_following {port : UInt16} (inside : InRange port) : InRange (following port) := by
  rw [inRange_iff, toNat_following inside]
  omega

/-- Any number of steps of the walk. -/
theorem toNat_iterate_following {port : UInt16} (inside : InRange port) (count : Nat) :
    (following^[count] port).toNat = 49152 + (port.toNat - 49152 + count) % 16384 := by
  induction count generalizing port with
  | zero =>
    have lower := (inRange_iff port).mp inside
    have bound := port.toNat_lt
    rw [Function.iterate_zero, id_eq]
    omega
  | succ count ih =>
    rw [Function.iterate_succ_apply, ih (inRange_following inside), toNat_following inside]
    omega

/-- The walk reaches every port of the range within one round trip. -/
theorem exists_iterate_following {port goal : UInt16} (inside : InRange port)
    (target : InRange goal) : ∃ count < capacity, following^[count] port = goal := by
  have here := (inRange_iff port).mp inside
  have there := (inRange_iff goal).mp target
  have bound := goal.toNat_lt
  have size : capacity = 16384 := rfl
  refine ⟨(goal.toNat + 16384 - port.toNat) % 16384, by omega, ?_⟩
  apply UInt16.toNat_inj.mp
  rw [toNat_iterate_following inside]
  have start := port.toNat_lt
  omega

/-- The whole walk ends where it began. -/
theorem iterate_following_capacity {port : UInt16} (inside : InRange port) :
    following^[capacity] port = port := by
  apply UInt16.toNat_inj.mp
  have here := (inRange_iff port).mp inside
  have bound := port.toNat_lt
  have size : capacity = 16384 := rfl
  rw [toNat_iterate_following inside, size]
  omega

/-! ## What the loop finds -/

/-- A search stops at the first port of the walk that is free, or it has walked all the way. -/
theorem rounds_cases (ports : PortAllocator) (count : Nat) :
    (∃ steps < count, (∀ index < steps, following^[index] ports.next ∈ ports.used) ∧
      following^[steps] ports.next ∉ ports.used ∧
      ports.rounds count = (some (following^[steps] ports.next),
        ⟨following (following^[steps] ports.next),
          insert (following^[steps] ports.next) ports.used⟩)) ∨
    ((∀ index < count, following^[index] ports.next ∈ ports.used) ∧
      ports.rounds count = (none, ⟨following^[count] ports.next, ports.used⟩)) := by
  induction count generalizing ports with
  | zero =>
    right
    exact ⟨fun index below => absurd below (Nat.not_lt_zero index), rfl⟩
  | succ count ih =>
    rw [rounds]
    by_cases taken : ports.next ∈ ports.used
    · rw [if_pos taken]
      -- One probe of the walk from `next`, then the walk from its successor.
      have probed (steps : Nat)
          (seen : ∀ index < steps, following^[index] (following ports.next) ∈ ports.used) :
          ∀ index < steps + 1, following^[index] ports.next ∈ ports.used := by
        intro index below
        cases index with
        | zero => exact taken
        | succ index => exact seen index (Nat.lt_of_succ_lt_succ below)
      rcases ih { ports with next := following ports.next } with
        ⟨steps, below, seen, free, found⟩ | ⟨seen, failed⟩
      · left
        exact ⟨steps + 1, Nat.succ_lt_succ below, probed steps seen, free, found⟩
      · right
        exact ⟨probed count seen, failed⟩
    · left
      rw [if_neg taken]
      exact ⟨0, Nat.succ_pos count, fun index below => absurd below (Nat.not_lt_zero index),
        taken, rfl⟩

/-- `allocate` takes the first free port of the walk, or finds every port of the range in use
and changes nothing. -/
theorem allocate_cases {ports : PortAllocator} (inside : InRange ports.next) :
    (∃ steps < capacity, (∀ index < steps, following^[index] ports.next ∈ ports.used) ∧
      following^[steps] ports.next ∉ ports.used ∧
      ports.allocate = (some (following^[steps] ports.next),
        ⟨following (following^[steps] ports.next),
          insert (following^[steps] ports.next) ports.used⟩)) ∨
    ((∀ port, InRange port → port ∈ ports.used) ∧ ports.allocate = (none, ports)) := by
  rw [allocate]
  rcases rounds_cases ports capacity with found | ⟨seen, failed⟩
  · exact Or.inl found
  · right
    rw [iterate_following_capacity inside] at failed
    refine ⟨?_, failed⟩
    intro port target
    obtain ⟨index, below, reached⟩ := exists_iterate_following inside target
    rw [← reached]
    exact seen index below

/-- Every port that the cursor passes is in the range. -/
theorem inRange_iterate_following {port : UInt16} (inside : InRange port) (count : Nat) :
    InRange (following^[count] port) := by
  rw [inRange_iff, toNat_iterate_following inside]
  omega

/-- `allocate` takes a free port of the range. -/
theorem allocate_some {ports after : PortAllocator} {port : UInt16} (inside : InRange ports.next)
    (found : ports.allocate = (some port, after)) :
    port ∉ ports.used ∧ InRange port ∧ InRange after.next ∧
      after.used = insert port ports.used := by
  rcases allocate_cases inside with ⟨steps, -, -, free, took⟩ | ⟨-, failed⟩
  · rw [found] at took
    simp only [Prod.mk.injEq, Option.some.injEq] at took
    have range := inRange_iterate_following inside steps
    rw [took.2, took.1]
    exact ⟨free, range, inRange_following range, rfl⟩
  · rw [found] at failed
    simp at failed

/-- `allocate` fails only when as many ports as the range has are in use. -/
theorem allocate_none {ports after : PortAllocator} (inside : InRange ports.next)
    (range : ∀ port ∈ ports.used, InRange port) (failed : ports.allocate = (none, after)) :
    InRange after.next ∧ after.used = ports.used ∧ ports.used.card = capacity := by
  rcases allocate_cases inside with ⟨steps, -, -, -, took⟩ | ⟨full, unchanged⟩
  · rw [failed] at took
    simp at took
  · rw [failed] at unchanged
    simp only [Prod.mk.injEq, true_and] at unchanged
    rw [unchanged]
    refine ⟨inside, rfl, ?_⟩
    have all : ports.used.image UInt16.toNat = Finset.Icc 49152 65535 := by
      ext value
      rw [Finset.mem_image, Finset.mem_Icc]
      constructor
      · rintro ⟨port, used, rfl⟩
        have lower := (inRange_iff port).mp (range port used)
        have bound := port.toNat_lt
        omega
      · rintro ⟨lower, upper⟩
        have read : (UInt16.ofNat value).toNat = value := by
          apply UInt16.toNat_ofNat_of_lt'
          show value < 65536
          omega
        have target : InRange (UInt16.ofNat value) := by
          rw [inRange_iff, read]
          exact lower
        exact ⟨_, full _ target, read⟩
    have injective : Function.Injective UInt16.toNat := fun _ _ same => UInt16.toNat_inj.mp same
    rw [← Finset.card_image_of_injective ports.used injective, all, Nat.card_Icc]
    rfl

/-! ## Runs of the allocator -/

/-- A call of a method of the allocator. -/
inductive Call where
  /-- `allocate`. -/
  | allocate
  /-- `release`, of any port. -/
  | release (port : UInt16)

/-- The allocator after a call. -/
def call (ports : PortAllocator) : Call → PortAllocator
  | .allocate => ports.allocate.2
  | .release port => ports.release port

/-- The allocator after calls from `new` on. -/
def run (calls : List Call) : PortAllocator := calls.foldl call new

/-- The cursor and the used ports are in the range. -/
structure Ranged (ports : PortAllocator) : Prop where
  /-- The cursor. -/
  next : portMin ≤ ports.next ∧ ports.next ≤ portMax
  /-- The used ports. -/
  used : ∀ port ∈ ports.used, portMin ≤ port ∧ port ≤ portMax

/-- The last port of the range is the largest there is. -/
theorem le_portMax (port : UInt16) : port ≤ portMax := by
  rw [UInt16.le_iff_toNat_le]
  exact Nat.le_of_lt_succ port.toNat_lt

/-- A new allocator is in the range. -/
theorem ranged_new : Ranged new := by
  constructor
  · decide
  · intro port member
    exact absurd member (Finset.notMem_empty port)

/-- A call keeps the range. -/
theorem ranged_call {ports : PortAllocator} (ranged : Ranged ports) (made : Call) :
    Ranged (ports.call made) := by
  cases made with
  | allocate =>
    rw [call]
    rcases allocate_cases ranged.next.1 with ⟨steps, -, -, -, took⟩ | ⟨-, failed⟩
    · have range := inRange_iterate_following ranged.next.1 steps
      rw [took]
      constructor
      · exact ⟨inRange_following range, le_portMax _⟩
      · intro port member
        rcases Finset.mem_insert.mp member with rfl | earlier
        · exact ⟨range, le_portMax _⟩
        · exact ranged.used port earlier
    · rw [failed]
      exact ranged
  | release port =>
    constructor
    · exact ranged.next
    · intro other member
      exact ranged.used other (Finset.mem_of_mem_erase member)

/-- Every run keeps the range. -/
theorem ranged_run (calls : List Call) : Ranged (run calls) := by
  have from_any (ports : PortAllocator) (ranged : Ranged ports) :
      Ranged (calls.foldl call ports) := by
    induction calls generalizing ports with
    | nil => exact ranged
    | cons made rest ih => exact ih (ports.call made) (ranged_call ranged made)
  exact from_any new ranged_new

/-! ## The cyclic order -/

/-- How many ports ahead of `start` a port is, going up and from `PORT_MAX` on to `PORT_MIN`. -/
def ahead (start port : UInt16) : Nat := (port.toNat + capacity - start.toNat) % capacity

/-- The walk reaches the port that is so many ports ahead. -/
theorem ahead_iterate_following {start : UInt16} (inside : InRange start) {steps : Nat}
    (below : steps < capacity) : ahead start (following^[steps] start) = steps := by
  have here := (inRange_iff start).mp inside
  have bound := start.toNat_lt
  have size : capacity = 16384 := rfl
  rw [size] at below
  rw [ahead, toNat_iterate_following inside, size]
  omega

/-- `allocate` is a round robin over the free ports. -/
structure RoundRobin (ports : PortAllocator) : Prop where
  /-- The cursor and the used ports are in the range. -/
  ranged : Ranged ports
  /-- No probe of the search overflows: the sum is taken at most at `PORT_MAX - 1`. -/
  noOverflow : ∀ probes, following^[probes] ports.next ≠ portMax →
    (following^[probes] ports.next + 1).toNat = (following^[probes] ports.next).toNat + 1
  /-- It succeeds exactly when a port of the range is free. -/
  complete : (∃ port, ports.allocate.1 = some port) ↔
    ∃ port, (portMin ≤ port ∧ port ≤ portMax) ∧ port ∉ ports.used
  /-- The port is the first free one in cyclic order from the cursor, which moves behind it. -/
  earliest : ∀ port, ports.allocate.1 = some port →
    (portMin ≤ port ∧ port ≤ portMax) ∧ port ∉ ports.used ∧
      (∀ other, portMin ≤ other ∧ other ≤ portMax → other ∉ ports.used → other ≠ port →
        ahead ports.next port < ahead ports.next other) ∧
      ports.allocate.2.used = insert port ports.used ∧
      ports.allocate.2.next = if port = portMax then portMin else port + 1
  /-- A failure changes nothing. -/
  unchanged : ports.allocate.1 = none → ports.allocate.2 = ports

/-- A probe adds one exactly, unless it is at the end of the range. -/
theorem toNat_add_one {port : UInt16} (last : port ≠ portMax) :
    (port + 1).toNat = port.toNat + 1 := by
  have below : port.toNat ≠ 65535 := fun same => last (UInt16.toNat_inj.mp same)
  have bound := port.toNat_lt
  rw [UInt16.toNat_add, UInt16.toNat_one]
  omega

/-- The search from a cursor in the range is a round robin. -/
theorem Ranged.roundRobin {ports : PortAllocator} (ranged : Ranged ports) : RoundRobin ports := by
  have inside : InRange ports.next := ranged.next.1
  rcases allocate_cases inside with ⟨steps, below, seen, free, took⟩ | ⟨full, failed⟩
  · have range := inRange_iterate_following inside steps
    constructor
    · exact ranged
    · intro probes last
      exact toNat_add_one last
    · rw [took]
      exact ⟨fun _ => ⟨_, ⟨range, le_portMax _⟩, free⟩, fun _ => ⟨_, rfl⟩⟩
    · intro port found
      rw [took] at found ⊢
      have same : following^[steps] ports.next = port := Option.some.inj found
      rw [same] at free range ⊢
      refine ⟨⟨range, le_portMax port⟩, free, ?_, rfl, rfl⟩
      intro other target unused different
      obtain ⟨index, short, reached⟩ := exists_iterate_following inside target.1
      have late : steps ≤ index := by
        by_contra early
        have used := seen index (Nat.lt_of_not_le early)
        rw [reached] at used
        exact unused used
      have apart : index ≠ steps := by
        intro equal
        rw [equal, same] at reached
        exact different reached.symm
      rw [← same, ← reached, ahead_iterate_following inside below,
        ahead_iterate_following inside short]
      omega
    · rw [took]
      intro absent
      simp at absent
  · constructor
    · exact ranged
    · intro probes last
      exact toNat_add_one last
    · rw [failed]
      constructor
      · rintro ⟨port, found⟩
        simp at found
      · rintro ⟨port, target, free⟩
        exact absurd (full port target.1) free
    · rw [failed]
      intro port found
      simp at found
    · rw [failed]
      intro _
      rfl

/-- In every state that calls of the methods reach, allocation is a complete round robin. -/
theorem roundRobin_run (calls : List Call) : RoundRobin (run calls) :=
  (ranged_run calls).roundRobin

end PortAllocator

end NsProxy.EventLoop
