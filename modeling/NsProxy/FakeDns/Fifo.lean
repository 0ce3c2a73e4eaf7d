import Mathlib.Data.List.GetD
import Mathlib.Order.Interval.Finset.Nat
import NsProxy.FakeDns.Pool

/-!
# Runs of the pool

A run is a sequence of `resolve` calls on one `FakeDns`. Its allocations are the calls whose
domain was unmapped at that moment, with the address each returned. The run keeps the
representation of the bounded history, and from it every observable fact about the two maps
follows: which addresses are handed out, which pairs survive, and which pair an allocation
evicts once the pool is full.
-/

namespace NsProxy.FakeDns

/-- The state after a run of `resolve` calls. -/
def resolveAll (dns : FakeDns) (domains : List String) : FakeDns :=
  domains.foldl (fun dns domain => (dns.resolve domain).1) dns

/-- The allocation a `resolve` call makes: none on a hit, one pair otherwise. -/
def allocated (dns : FakeDns) (domain : String) : List (String × Ipv4Addr) :=
  match dns.domainToIp.lookup domain with
  | some _ => []
  | none => [(domain, (dns.resolve domain).2)]

/-- The fresh allocations of a run, in order, each with the address it returned. -/
def allocations (dns : FakeDns) : List String → List (String × Ipv4Addr)
  | [] => []
  | domain :: rest => dns.allocated domain ++ allocations (dns.resolve domain).1 rest

/-- The allocations of a run in two parts are those of its parts. -/
theorem allocations_append (dns : FakeDns) (first second : List String) :
    dns.allocations (first ++ second) =
      dns.allocations first ++ (dns.resolveAll first).allocations second := by
  induction first generalizing dns with
  | nil => rfl
  | cons domain rest ih => simp [allocations, resolveAll, ih, List.append_assoc]

/-- A mapped domain is answered from the map, without any change. -/
theorem resolve_mapped {dns : FakeDns} {domain : String} {ip : Ipv4Addr}
    (mapped : dns.domainToIp.lookup domain = some ip) : dns.resolve domain = (dns, ip) := by
  simp [resolve, mapped]

/-- An unmapped domain takes the allocating path. -/
theorem resolve_unmapped {dns : FakeDns} {domain : String}
    (unmapped : dns.domainToIp.lookup domain = none) :
    dns.resolve domain = dns.allocate domain := by
  simp [resolve, unmapped]

/-- One call appends its allocation to the history it represents. -/
theorem resolve_represents {dns : FakeDns} {history : List String} (rep : Represents dns history)
    (domain : String) :
    Represents (dns.resolve domain).1 (history ++ (dns.allocated domain).map Prod.fst) := by
  cases found : dns.domainToIp.lookup domain with
  | some ip => simpa [resolve_mapped found, allocated, found] using rep
  | none =>
    simpa [resolve_unmapped found, allocated, found] using (allocate_represents rep found).1

/-- The address a call returns is that of a live allocation of its domain. -/
theorem resolve_holds {dns : FakeDns} {history : List String} (rep : Represents dns history)
    (domain : String) :
    ∃ index, Ring.Holds capacity (history ++ (dns.allocated domain).map Prod.fst) index domain ∧
      (dns.resolve domain).2 = poolAddr index := by
  cases found : dns.domainToIp.lookup domain with
  | some ip =>
    simpa [resolve_mapped found, allocated, found] using (rep.forward domain ip).mp found
  | none =>
    refine ⟨history.length, ?_, ?_⟩
    · simp only [allocated, found, List.map_cons, List.map_nil]
      exact (Ring.holds_push (by decide) history domain _ _).mpr (Or.inl ⟨rfl, rfl⟩)
    · rw [resolve_unmapped found]
      exact (allocate_represents rep found).2

/-- An allocation made after `history` has the address of its position. -/
theorem allocated_address {dns : FakeDns} {history : List String} (rep : Represents dns history)
    {domain : String} {index : Nat} {pair : String × Ipv4Addr}
    (found : (dns.allocated domain)[index]? = some pair) :
    pair.2 = poolAddr (history.length + index) := by
  cases held : dns.domainToIp.lookup domain with
  | some ip => simp [allocated, held] at found
  | none =>
    cases index with
    | zero =>
      simp only [allocated, held, List.getElem?_cons_zero, Option.some.injEq] at found
      rw [← found, resolve_unmapped held]
      exact (allocate_represents rep held).2
    | succ index => simp [allocated, held] at found

/-- A run represents its history followed by its allocations, and each allocation has the
address of its position. -/
theorem run_represents {dns : FakeDns} {history : List String} (rep : Represents dns history)
    (domains : List String) :
    Represents (dns.resolveAll domains) (history ++ (dns.allocations domains).map Prod.fst) ∧
      ∀ index pair, (dns.allocations domains)[index]? = some pair →
        pair.2 = poolAddr (history.length + index) := by
  induction domains generalizing dns history with
  | nil => simpa [resolveAll, allocations] using rep
  | cons domain rest ih =>
    have next := ih (resolve_represents rep domain)
    constructor
    · simpa [resolveAll, allocations, List.append_assoc] using next.1
    · intro index pair found
      simp only [allocations] at found
      by_cases first : index < (dns.allocated domain).length
      · rw [List.getElem?_append_left first] at found
        exact allocated_address rep found
      · rw [List.getElem?_append_right (by omega)] at found
        have address := next.2 _ _ found
        simp only [List.length_append, List.length_map] at address
        rw [address]
        congr 1
        omega

/-- The most recent allocations, as many as the pool has addresses. -/
def window (allocs : List (String × Ipv4Addr)) : List (String × Ipv4Addr) :=
  allocs.drop (allocs.length - min allocs.length poolSize.toNat)

/-- A pool state is the bounded first-in first-out ring of its allocations. -/
structure BoundedFifo (dns : FakeDns) (allocs : List (String × Ipv4Addr)) : Prop where
  /-- Allocation `k` has the address of slot `k % POOL_SIZE`. -/
  address : ∀ index domain ip, allocs[index]? = some (domain, ip) →
    ip.bits.toNat = poolStart.toNat + index % poolSize.toNat
  /-- The forward map holds exactly the window. -/
  forward : ∀ domain ip,
    dns.domainToIp.lookup domain = some ip ↔ (domain, ip) ∈ window allocs
  /-- The reverse map holds exactly the window. -/
  backward : ∀ ip domain,
    dns.ipToDomain.lookup ip = some domain ↔ (domain, ip) ∈ window allocs
  /-- The window has one entry per domain and one per address. -/
  entries : dns.domainToIp.keys.card = min allocs.length poolSize.toNat ∧
    dns.ipToDomain.keys.card = min allocs.length poolSize.toNat
  /-- The maps are inverse to each other. -/
  inverse : ∀ domain ip,
    dns.domainToIp.lookup domain = some ip ↔ dns.ipToDomain.lookup ip = some domain
  /-- The cursor counts allocations modulo the pool size. -/
  cursor : dns.nextOffset.toNat = allocs.length % poolSize.toNat
  /-- Every mapped address is in the pool. -/
  inPool : ∀ domain ip, dns.domainToIp.lookup domain = some ip →
    poolStart ≤ ip.bits ∧ ip.bits ≤ poolEnd
  /-- Neither sum of the allocating path exceeds 32 bits. -/
  noOverflow : poolStart.toNat + dns.nextOffset.toNat < 2 ^ 32 ∧
    dns.nextOffset.toNat + 1 < 2 ^ 32
  /-- Resolving a mapped domain changes nothing. -/
  hit : ∀ domain ip, dns.domainToIp.lookup domain = some ip → dns.resolve domain = (dns, ip)
  /-- Allocating from a full pool evicts exactly the oldest pair of the window. -/
  evicts : ∀ domain, dns.domainToIp.lookup domain = none → poolSize.toNat ≤ allocs.length →
    ∃ oldest, allocs[allocs.length - poolSize.toNat]? = some oldest ∧
      (dns.resolve domain).2 = oldest.2 ∧
      (∀ other ip, (dns.resolve domain).1.domainToIp.lookup other = some ip ↔
        (other = domain ∧ ip = oldest.2) ∨
          (other ≠ oldest.1 ∧ dns.domainToIp.lookup other = some ip)) ∧
      (∀ ip other, (dns.resolve domain).1.ipToDomain.lookup ip = some other ↔
        (ip = oldest.2 ∧ other = domain) ∨
          (ip ≠ oldest.2 ∧ dns.ipToDomain.lookup ip = some other))

section Window

variable {dns : FakeDns} {allocs : List (String × Ipv4Addr)}

/-- A live pair is a live domain at the address of its position. -/
theorem holds_pair (addresses : ∀ index pair, allocs[index]? = some pair → pair.2 = poolAddr index)
    (index : Nat) (domain : String) (ip : Ipv4Addr) :
    Ring.Holds capacity allocs index (domain, ip) ↔
      Ring.Holds capacity (allocs.map Prod.fst) index domain ∧ ip = poolAddr index := by
  unfold Ring.Holds
  simp only [List.length_map, List.getElem?_map, Option.map_eq_some_iff]
  constructor
  · rintro ⟨live, found⟩
    exact ⟨⟨live, _, found, rfl⟩, addresses _ _ found⟩
  · rintro ⟨⟨live, ⟨domain', ip'⟩, found, rfl⟩, rfl⟩
    have address : ip' = poolAddr index := addresses _ _ found
    subst address
    exact ⟨live, found⟩

/-- The window holds exactly the live pairs. -/
theorem mem_window (addresses : ∀ index pair, allocs[index]? = some pair → pair.2 = poolAddr index)
    (domain : String) (ip : Ipv4Addr) :
    (domain, ip) ∈ window allocs ↔
      ∃ index, Ring.Holds capacity (allocs.map Prod.fst) index domain ∧ ip = poolAddr index := by
  have start : allocs.length - min allocs.length poolSize.toNat = allocs.length - capacity := by
    unfold capacity
    omega
  rw [window, start, ← Ring.holds_iff_mem_drop]
  exact exists_congr fun index => holds_pair addresses index domain ip

/-- A map whose entries are one injective reading of the live positions has as many keys as
there are live positions. -/
theorem card_keys_of_live {κ ν : Type} [DecidableEq κ] {history : List String}
    {map : HashMap κ ν} (key : Nat → κ)
    (mem : ∀ probe, probe ∈ map ↔ ∃ index, Ring.Live capacity history.length index ∧
      probe = key index)
    (injective : ∀ left right, Ring.Live capacity history.length left →
      Ring.Live capacity history.length right → key left = key right → left = right) :
    map.keys.card = min history.length poolSize.toNat := by
  have live : ∀ index, index ∈ Finset.Ico (history.length - capacity) history.length ↔
      Ring.Live capacity history.length index := by
    intro index
    rw [Finset.mem_Ico]
    unfold Ring.Live
    omega
  have image : map.keys =
      (Finset.Ico (history.length - capacity) history.length).image key := by
    ext probe
    rw [Finmap.mem_keys, mem, Finset.mem_image]
    constructor
    · rintro ⟨index, alive, rfl⟩
      exact ⟨index, (live index).mpr alive, rfl⟩
    · rintro ⟨index, inside, rfl⟩
      exact ⟨index, (live index).mp inside, rfl⟩
  have injOn : Set.InjOn key (Finset.Ico (history.length - capacity) history.length) := by
    intro left hl right hr same
    exact injective left right ((live left).mp hl) ((live right).mp hr) same
  rw [image, Finset.card_image_of_injOn injOn, Nat.card_Ico]
  unfold capacity
  omega

/-- Both maps of a represented history have one key for each live allocation. -/
theorem card_keys {history : List String} (rep : Represents dns history) :
    dns.domainToIp.keys.card = min history.length poolSize.toNat ∧
      dns.ipToDomain.keys.card = min history.length poolSize.toNat := by
  have named : ∀ index, Ring.Live capacity history.length index →
      Ring.Holds capacity history index (history.getD index "") := by
    intro index alive
    refine ⟨alive, ?_⟩
    rw [List.getElem?_eq_getElem alive.1, List.getD_eq_getElem _ _ alive.1]
  constructor
  · refine card_keys_of_live (fun index => history.getD index "") ?_ ?_
    · intro domain
      rw [Finmap.mem_iff]
      constructor
      · rintro ⟨ip, found⟩
        obtain ⟨index, held, rfl⟩ := (rep.forward _ _).mp found
        exact ⟨index, held.1, Option.some.inj (held.2.symm.trans (named index held.1).2)⟩
      · rintro ⟨index, alive, rfl⟩
        exact ⟨poolAddr index, (rep.forward _ _).mpr ⟨index, named index alive, rfl⟩⟩
    · intro left right hl hr same
      have holdsRight := named right hr
      rw [← same] at holdsRight
      exact Ring.live_key_injective rep.fresh (named left hl) holdsRight
  · refine card_keys_of_live poolAddr ?_ ?_
    · intro ip
      rw [Finmap.mem_iff]
      constructor
      · rintro ⟨domain, found⟩
        obtain ⟨index, held, rfl⟩ := (rep.backward _ _).mp found
        exact ⟨index, held.1, rfl⟩
      · rintro ⟨index, alive, rfl⟩
        exact ⟨_, (rep.backward _ _).mpr ⟨index, named index alive, rfl⟩⟩
    · intro left right hl hr same
      exact Ring.live_slot_injective hl hr (poolAddr_inj.mp same)

/-- Allocating from a full pool replaces exactly the pair of the oldest live allocation. -/
theorem allocate_evicts {history : List String} {domain old : String}
    (rep : Represents dns history) (unmapped : dns.domainToIp.lookup domain = none)
    (full : capacity ≤ history.length)
    (oldest : history[history.length - capacity]? = some old) :
    (∀ other ip, (dns.allocate domain).1.domainToIp.lookup other = some ip ↔
      (other = domain ∧ ip = poolAddr (history.length - capacity)) ∨
        (other ≠ old ∧ dns.domainToIp.lookup other = some ip)) ∧
    (∀ ip other, (dns.allocate domain).1.ipToDomain.lookup ip = some other ↔
      (ip = poolAddr (history.length - capacity) ∧ other = domain) ∨
        (ip ≠ poolAddr (history.length - capacity) ∧ dns.ipToDomain.lookup ip = some other)) := by
  have positive : 0 < capacity := by decide
  have after := (allocate_represents rep unmapped).1
  have oldHeld : Ring.Holds capacity history (history.length - capacity) old :=
    ⟨⟨by omega, by omega⟩, oldest⟩
  have reused : poolAddr history.length = poolAddr (history.length - capacity) :=
    ((holder_of_next oldHeld).mpr (by omega)).symm
  constructor
  · intro other ip
    rw [after.forward]
    simp only [Ring.holds_push positive]
    constructor
    · rintro ⟨index, ⟨rfl, rfl⟩ | ⟨held, notOldest⟩, rfl⟩
      · exact Or.inl ⟨rfl, reused⟩
      · refine Or.inr ⟨?_, (rep.forward _ _).mpr ⟨index, held, rfl⟩⟩
        rintro rfl
        have := Ring.live_key_injective rep.fresh held oldHeld
        omega
    · rintro (⟨rfl, rfl⟩ | ⟨different, found⟩)
      · exact ⟨history.length, Or.inl ⟨rfl, rfl⟩, reused.symm⟩
      · obtain ⟨index, held, rfl⟩ := (rep.forward _ _).mp found
        refine ⟨index, Or.inr ⟨held, fun last => different ?_⟩, rfl⟩
        have position : index = history.length - capacity := by omega
        rw [position] at held
        exact Option.some.inj (held.2.symm.trans oldest)
  · intro ip other
    rw [after.backward]
    simp only [Ring.holds_push positive]
    constructor
    · rintro ⟨index, ⟨rfl, rfl⟩ | ⟨held, notOldest⟩, rfl⟩
      · exact Or.inl ⟨reused, rfl⟩
      · refine Or.inr ⟨?_, (rep.backward _ _).mpr ⟨index, held, rfl⟩⟩
        rw [← reused]
        exact fun same => notOldest ((holder_of_next held).mp same)
    · rintro (⟨rfl, rfl⟩ | ⟨different, found⟩)
      · exact ⟨history.length, Or.inl ⟨rfl, rfl⟩, reused.symm⟩
      · obtain ⟨index, held, rfl⟩ := (rep.backward _ _).mp found
        rw [← reused] at different
        exact ⟨index, Or.inr ⟨held, fun last => different ((holder_of_next held).mpr last)⟩, rfl⟩

end Window

/-- Every run of `resolve` calls from the empty instance leaves the bounded first-in
first-out ring of its own fresh allocations. -/
theorem resolve_run_bounded_fifo (domains : List String) :
    BoundedFifo (new.resolveAll domains) (new.allocations domains) := by
  obtain ⟨rep, positions⟩ := run_represents represents_new domains
  rw [List.nil_append] at rep
  have addresses : ∀ index pair, (new.allocations domains)[index]? = some pair →
      pair.2 = poolAddr index := by
    intro index pair found
    simpa using positions index pair found
  generalize new.resolveAll domains = dns at rep
  generalize new.allocations domains = allocs at rep addresses
  have cursor : dns.nextOffset.toNat = allocs.length % capacity := by
    simpa using rep.cursor
  constructor
  · intro index domain ip found
    rw [show ip = poolAddr index from addresses _ _ found]
    exact toNat_poolAddr index
  · intro domain ip
    rw [mem_window addresses, rep.forward]
  · intro ip domain
    rw [mem_window addresses, rep.backward]
  · simpa using card_keys rep
  · intro domain ip
    rw [rep.forward, rep.backward]
  · exact cursor
  · intro domain ip found
    obtain ⟨index, _, rfl⟩ := (rep.forward _ _).mp found
    simpa [isFakeIp] using isFakeIp_poolAddr index
  · have slot : allocs.length % capacity < capacity := Nat.mod_lt _ (by decide)
    rw [cursor, toNat_poolStart]
    rw [capacity_eq] at *
    omega
  · intro domain ip found
    exact resolve_mapped found
  · intro domain unmapped full
    have inside : allocs.length - poolSize.toNat < allocs.length := by
      have : 0 < poolSize.toNat := by decide
      omega
    refine ⟨allocs[allocs.length - poolSize.toNat], List.getElem?_eq_getElem inside, ?_⟩
    have address := addresses _ _ (List.getElem?_eq_getElem inside)
    have oldest : (allocs.map Prod.fst)[(allocs.map Prod.fst).length - capacity]? =
        some (allocs[allocs.length - poolSize.toNat]).1 := by
      simp only [List.length_map, List.getElem?_map]
      rw [show capacity = poolSize.toNat from rfl, List.getElem?_eq_getElem inside]
      rfl
    have evicted := allocate_evicts rep unmapped (by simpa [capacity] using full) oldest
    have returned := (allocate_represents rep unmapped).2
    simp only [List.length_map] at evicted returned
    rw [resolve_unmapped unmapped, address]
    refine ⟨?_, evicted.1, evicted.2⟩
    rw [returned, poolAddr_inj]
    have live : Ring.Live capacity allocs.length (allocs.length - poolSize.toNat) :=
      ⟨inside, by unfold capacity; omega⟩
    exact ((Ring.live_next_slot live).mpr (by unfold capacity; omega)).symm

end NsProxy.FakeDns
