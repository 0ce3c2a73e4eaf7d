import NsProxy.Net
import NsProxy.Lib.HashMap
import NsProxy.Lib.Ring

/-!
# The fake-address pool

`FakeDns` of `fake_dns.rs`: the two maps between domains and pool addresses, the cursor of
the next allocation, and the allocation with its wrap-around eviction. The second half of
the module proves that the two maps and the cursor are exactly the bounded history of
`NsProxy.Lib.Ring`: allocation `k` has address `POOL_START + k % POOL_SIZE`, and the maps
hold the live allocations and nothing else. Address arithmetic is performed in `UInt32`, and
the refinement shows that it never wraps.
-/

namespace NsProxy.FakeDns

/-- `POOL_START`, 198.18.0.1. -/
def poolStart : UInt32 := Bytes.u32FromBe 198 18 0 1

/-- `POOL_END`, 198.19.255.254. -/
def poolEnd : UInt32 := Bytes.u32FromBe 198 19 255 254

/-- `POOL_SIZE`, the number of usable addresses. -/
def poolSize : UInt32 := poolEnd - poolStart + 1

/-- The first address of the pool as a number. -/
theorem toNat_poolStart : poolStart.toNat = 3323068417 := by decide

/-- The last address of the pool as a number. -/
theorem toNat_poolEnd : poolEnd.toNat = 3323199486 := by decide

end NsProxy.FakeDns

namespace NsProxy

/-- `FakeDns`: the bidirectional mapping with a bounded address pool. -/
structure FakeDns where
  /-- `domain_to_ip`. -/
  domainToIp : HashMap String Ipv4Addr
  /-- `ip_to_domain`. -/
  ipToDomain : HashMap Ipv4Addr String
  /-- `next_offset`, the pool index of the next allocation. -/
  nextOffset : UInt32

namespace FakeDns

/-- `FakeDns::new`. -/
def new : FakeDns := ⟨∅, ∅, 0⟩

/-- The eviction inside `resolve`: whatever domain holds the address loses both entries. -/
def evict (dns : FakeDns) (ip : Ipv4Addr) : FakeDns :=
  match dns.ipToDomain.lookup ip with
  | some oldDomain =>
    { dns with
      ipToDomain := dns.ipToDomain.erase ip
      domainToIp := dns.domainToIp.erase oldDomain }
  | none => dns

/-- The allocating path of `resolve`: take the next address, evict its previous holder, and
record the new pair in both maps. -/
def allocate (dns : FakeDns) (domain : String) : FakeDns × Ipv4Addr :=
  let ip : Ipv4Addr := ⟨poolStart + dns.nextOffset⟩
  let evicted := dns.evict ip
  ({ nextOffset := (dns.nextOffset + 1) % poolSize
     ipToDomain := evicted.ipToDomain.insert ip domain
     domainToIp := evicted.domainToIp.insert domain ip }, ip)

/-- `FakeDns::resolve`. -/
def resolve (dns : FakeDns) (domain : String) : FakeDns × Ipv4Addr :=
  match dns.domainToIp.lookup domain with
  | some ip => (dns, ip)
  | none => dns.allocate domain

/-- `FakeDns::lookup`. -/
def lookup (dns : FakeDns) (ip : Ipv4Addr) : Option String := dns.ipToDomain.lookup ip

/-- `FakeDns::is_fake_ip`. -/
def isFakeIp (ip : Ipv4Addr) : Bool := poolStart ≤ ip.bits && ip.bits ≤ poolEnd

/-! ## Refinement of the bounded history -/

/-- Number of slots, as a natural. -/
def capacity : Nat := poolSize.toNat

/-- The pool has 131070 addresses. -/
theorem capacity_eq : capacity = 131070 := by decide

/-- The address of allocation `index`. -/
def poolAddr (index : Nat) : Ipv4Addr := ⟨poolStart + UInt32.ofNat (index % capacity)⟩

/-- The address of an allocation is its slot above the pool start; nothing wraps. -/
theorem toNat_poolAddr (index : Nat) :
    (poolAddr index).bits.toNat = poolStart.toNat + index % capacity := by
  have slot : index % capacity < capacity := Nat.mod_lt _ (by decide)
  rw [capacity_eq] at slot
  simp only [poolAddr, UInt32.toNat_add, UInt32.toNat_ofNat', toNat_poolStart, capacity_eq]
  omega

/-- Two allocations have one address exactly when they have one slot. -/
theorem poolAddr_inj {left right : Nat} :
    poolAddr left = poolAddr right ↔ left % capacity = right % capacity := by
  constructor
  · intro same
    have values := congrArg (fun ip : Ipv4Addr => ip.bits.toNat) same
    simp only [toNat_poolAddr] at values
    omega
  · intro same
    simp only [poolAddr, same]

/-- Every allocated address lies in the pool. -/
theorem isFakeIp_poolAddr (index : Nat) : isFakeIp (poolAddr index) = true := by
  have slot : index % capacity < capacity := Nat.mod_lt _ (by decide)
  have value := toNat_poolAddr index
  rw [capacity_eq] at slot
  rw [toNat_poolStart, capacity_eq] at value
  simp only [isFakeIp, Bool.and_eq_true, decide_eq_true_eq, UInt32.le_iff_toNat_le,
    toNat_poolStart, toNat_poolEnd]
  omega

/-- The maps and the cursor represent a history of fresh allocations. -/
structure Represents (dns : FakeDns) (history : List String) : Prop where
  /-- No allocation repeated a domain that was still mapped. -/
  fresh : Ring.Fresh capacity history
  /-- The cursor counts the allocations modulo the pool size. -/
  cursor : dns.nextOffset.toNat = history.length % capacity
  /-- A domain is mapped exactly by its live allocation. -/
  forward : ∀ domain ip, dns.domainToIp.lookup domain = some ip ↔
    ∃ index, Ring.Holds capacity history index domain ∧ ip = poolAddr index
  /-- An address is mapped exactly by the live allocation of its slot. -/
  backward : ∀ ip domain, dns.ipToDomain.lookup ip = some domain ↔
    ∃ index, Ring.Holds capacity history index domain ∧ ip = poolAddr index

/-- The empty instance represents the empty history. -/
theorem represents_new : Represents new [] where
  fresh := Ring.fresh_nil _
  cursor := by decide
  forward := by
    intro domain ip
    simp [new, Ring.Holds, Ring.Live]
  backward := by
    intro ip domain
    simp [new, Ring.Holds, Ring.Live]

/-- The address handed out next is that of the next allocation of the history. -/
theorem next_address {dns : FakeDns} {history : List String} (rep : Represents dns history) :
    (⟨poolStart + dns.nextOffset⟩ : Ipv4Addr) = poolAddr history.length := by
  have offset : dns.nextOffset = UInt32.ofNat (history.length % capacity) := by
    rw [← rep.cursor]
    simp
  rw [offset, poolAddr]

/-- The cursor moves to the slot after the allocation. -/
theorem cursor_next {dns : FakeDns} {history : List String} (rep : Represents dns history) :
    ((dns.nextOffset + 1) % poolSize).toNat = (history.length + 1) % capacity := by
  have bound := Nat.mod_lt history.length (show 0 < capacity by decide)
  have cursor := rep.cursor
  have small : (dns.nextOffset + 1).toNat = dns.nextOffset.toNat + 1 := by
    rw [capacity_eq] at bound cursor
    rw [UInt32.toNat_add, UInt32.toNat_one]
    omega
  rw [UInt32.toNat_mod, small, cursor]
  exact Nat.mod_add_mod _ _ _

/-- The slot of the next allocation is held exactly by the allocation it overwrites. -/
theorem holder_of_next {history : List String} {index : Nat} {domain : String}
    (held : Ring.Holds capacity history index domain) :
    poolAddr index = poolAddr history.length ↔ index + capacity = history.length := by
  rw [poolAddr_inj]
  exact Ring.live_next_slot held.1

/-- Evicting the next address removes exactly the pair that the next allocation overwrites:
its domain has no other live allocation, so the forward map loses nothing else. -/
theorem evict_forward {dns : FakeDns} {history : List String} (rep : Represents dns history)
    (other : String) (ip : Ipv4Addr) :
    (dns.evict (poolAddr history.length)).domainToIp.lookup other = some ip ↔
    ∃ index, Ring.Holds capacity history index other ∧
      index + capacity ≠ history.length ∧ ip = poolAddr index := by
  unfold evict
  cases evicted : dns.ipToDomain.lookup (poolAddr history.length) with
  | none =>
    simp only
    rw [rep.forward]
    constructor
    · rintro ⟨index, held, rfl⟩
      refine ⟨index, held, fun oldest => ?_, rfl⟩
      have taken := (rep.backward (poolAddr history.length) other).mpr
        ⟨index, held, ((holder_of_next held).mpr oldest).symm⟩
      rw [evicted] at taken
      contradiction
    · rintro ⟨index, held, _, rfl⟩
      exact ⟨index, held, rfl⟩
  | some oldDomain =>
    obtain ⟨old, oldHeld, oldAddr⟩ := (rep.backward _ _).mp evicted
    have oldest := (holder_of_next oldHeld).mp oldAddr.symm
    simp only [HashMap.lookup_erase_if]
    constructor
    · intro found
      split at found
      · contradiction
      · rename_i different
        obtain ⟨index, held, rfl⟩ := (rep.forward _ _).mp found
        refine ⟨index, held, fun same => different ?_, rfl⟩
        have : index = old := by omega
        subst this
        exact Option.some.inj (held.2.symm.trans oldHeld.2)
    · rintro ⟨index, held, notOldest, rfl⟩
      have different : other ≠ oldDomain := by
        rintro rfl
        have := Ring.live_key_injective rep.fresh held oldHeld
        omega
      rw [if_neg different]
      exact (rep.forward _ _).mpr ⟨index, held, rfl⟩

/-- Evicting the next address removes exactly its own entry from the reverse map. -/
theorem evict_backward {dns : FakeDns} {history : List String} (rep : Represents dns history)
    (ip : Ipv4Addr) (other : String) :
    (dns.evict (poolAddr history.length)).ipToDomain.lookup ip = some other ↔
    ∃ index, Ring.Holds capacity history index other ∧
      index + capacity ≠ history.length ∧ ip = poolAddr index := by
  have erased : (dns.evict (poolAddr history.length)).ipToDomain.lookup ip =
      if ip = poolAddr history.length then none else dns.ipToDomain.lookup ip := by
    unfold evict
    cases held : dns.ipToDomain.lookup (poolAddr history.length) with
    | none =>
      by_cases same : ip = poolAddr history.length
      · subst same
        rw [if_pos rfl]
        exact held
      · rw [if_neg same]
    | some oldDomain => exact HashMap.lookup_erase_if _ _ _
  rw [erased]
  constructor
  · intro found
    split at found
    · contradiction
    · rename_i different
      obtain ⟨index, held, rfl⟩ := (rep.backward _ _).mp found
      exact ⟨index, held, fun oldest => different ((holder_of_next held).mpr oldest), rfl⟩
  · rintro ⟨index, held, notOldest, rfl⟩
    rw [if_neg (fun same => notOldest ((holder_of_next held).mp same))]
    exact (rep.backward _ _).mpr ⟨index, held, rfl⟩

/-- Allocating an unmapped domain appends it to the history and returns its address. -/
theorem allocate_represents {dns : FakeDns} {history : List String} {domain : String}
    (rep : Represents dns history) (unmapped : dns.domainToIp.lookup domain = none) :
    Represents (dns.allocate domain).1 (history ++ [domain]) ∧
      (dns.allocate domain).2 = poolAddr history.length := by
  have absent : ∀ index, ¬ Ring.Holds capacity history index domain := by
    intro index held
    have mapped := (rep.forward domain (poolAddr index)).mpr ⟨index, held, rfl⟩
    rw [unmapped] at mapped
    contradiction
  have positive : 0 < capacity := by decide
  refine ⟨?_, next_address rep⟩
  unfold allocate
  rw [next_address rep]
  constructor
  · exact Ring.fresh_push rep.fresh absent
  · simpa using cursor_next rep
  · intro other ip
    simp only [HashMap.lookup_insert_if, Ring.holds_push positive]
    constructor
    · intro found
      split at found
      · rename_i same
        exact ⟨history.length, Or.inl ⟨rfl, same⟩, (Option.some.inj found).symm⟩
      · obtain ⟨index, held, notOldest, rfl⟩ := (evict_forward rep other ip).mp found
        exact ⟨index, Or.inr ⟨held, notOldest⟩, rfl⟩
    · rintro ⟨index, ⟨rfl, rfl⟩ | ⟨held, notOldest⟩, rfl⟩
      · rw [if_pos rfl]
      · rw [if_neg (by rintro rfl; exact absent index held)]
        exact (evict_forward rep other _).mpr ⟨index, held, notOldest, rfl⟩
  · intro ip other
    simp only [HashMap.lookup_insert_if, Ring.holds_push positive]
    constructor
    · intro found
      split at found
      · rename_i same
        exact ⟨history.length, Or.inl ⟨rfl, (Option.some.inj found).symm⟩, same⟩
      · obtain ⟨index, held, notOldest, rfl⟩ := (evict_backward rep ip other).mp found
        exact ⟨index, Or.inr ⟨held, notOldest⟩, rfl⟩
    · rintro ⟨index, ⟨rfl, rfl⟩ | ⟨held, notOldest⟩, rfl⟩
      · rw [if_pos rfl]
      · rw [if_neg (fun same => notOldest ((holder_of_next held).mp same))]
        exact (evict_backward rep _ other).mpr ⟨index, held, notOldest, rfl⟩

end NsProxy.FakeDns
