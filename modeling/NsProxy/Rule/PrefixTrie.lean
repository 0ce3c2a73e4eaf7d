import Mathlib.Data.List.Induction
import Mathlib.Data.Nat.Bitwise
import NsProxy.Lib.BitTrie
import NsProxy.Proxy.Target

/-!
# The longest-prefix matcher

`PrefixTrie` of `rule.rs`. An insertion walks down the leading bits of a network and writes
the action there unless an earlier rule did; a lookup walks down the bits of an address and
keeps the last action it saw. The loops are those of the source, with the bit index explicit;
they are the library's insertion and descent along the bits of their argument.
-/

namespace NsProxy

/-- `MatchAction`: the route of a rule. -/
structure MatchAction where
  /-- `proxy`. -/
  proxy : ProxyConfig
  deriving DecidableEq, Repr

/-- `PrefixTrie`: a node has two children and possibly an action. -/
abbrev PrefixTrie : Type := BitTrie MatchAction

namespace PrefixTrie

/-- The child index `((value >> (31 - i)) & 1) as usize`. -/
def bit (value : UInt32) (i : Nat) : Bool := (value >>> UInt32.ofNat (31 - i)) &&& 1 == 1

/-- The loop of `insert` from bit `i` on, with `steps` bits left. -/
def insertFrom (value : UInt32) (action : MatchAction) (i : Nat) : Nat → PrefixTrie → PrefixTrie
  | 0, node => node.fill action
  | steps + 1, node =>
    node.setChild (bit value i)
      (insertFrom value action (i + 1) steps ((node.child (bit value i)).getD .empty))

/-- `PrefixTrie::insert`; the assertion on the prefix length is its type. -/
def insert (trie : PrefixTrie) (value : UInt32) (prefixLen : Fin 33) (action : MatchAction) :
    PrefixTrie :=
  insertFrom value action 0 prefixLen trie

/-- The loop of `get` from bit `i` on, with `steps` bits left. -/
def getFrom (value : UInt32) (i : Nat) :
    Nat → PrefixTrie → Option MatchAction → Option MatchAction
  | 0, _, best => best
  | steps + 1, node, best =>
    match node.child (bit value i) with
    | none => best
    | some child =>
      getFrom value (i + 1) steps child (if child.cell.isSome then child.cell else best)

/-- `PrefixTrie::get`. -/
def get (trie : PrefixTrie) (value : UInt32) : Option MatchAction :=
  getFrom value 0 32 trie trie.cell

/-! ## The loops as walks along bits -/

/-- `count` bits of a value from bit `i` on. -/
def bitsFrom (value : UInt32) (i count : Nat) : List Bool :=
  (List.range' i count).map (bit value)

/-- The first `count` bits of a value. -/
def bits (value : UInt32) (count : Nat) : List Bool := bitsFrom value 0 count

/-- As many bits are taken as were asked for. -/
@[simp] theorem length_bits (value : UInt32) (count : Nat) : (bits value count).length = count := by
  simp [bits, bitsFrom]

/-- The loop of the insertion walks along the bits of the network. -/
theorem insertFrom_eq (value : UInt32) (action : MatchAction) (i steps : Nat)
    (node : PrefixTrie) :
    insertFrom value action i steps node =
      BitTrie.insertAlong action (bitsFrom value i steps) node := by
  induction steps generalizing i node with
  | zero => rfl
  | succ steps ih => simp [insertFrom, bitsFrom, List.range'_succ, BitTrie.insertAlong, ih]

/-- An insertion follows the leading bits of its network. -/
theorem insert_eq (trie : PrefixTrie) (value : UInt32) (prefixLen : Fin 33)
    (action : MatchAction) :
    insert trie value prefixLen action = trie.insertAlong action (bits value prefixLen) :=
  insertFrom_eq value action 0 prefixLen trie

/-- The running best of the loop is the last action seen, or the one it started with. -/
theorem getFrom_eq (value : UInt32) (i steps : Nat) (node : PrefixTrie)
    (best : Option MatchAction) :
    getFrom value i steps node (node.cell.or best) =
      (node.deepest (bitsFrom value i steps)).or best := by
  induction steps generalizing i node best with
  | zero => rfl
  | succ steps ih =>
    have walk : bitsFrom value i (steps + 1) = bit value i :: bitsFrom value (i + 1) steps := by
      simp [bitsFrom, List.range'_succ]
    rw [walk, BitTrie.deepest, getFrom]
    cases subtree : node.child (bit value i) with
    | none => rfl
    | some child =>
      have kept : (if child.cell.isSome then child.cell else node.cell.or best) =
          child.cell.or (node.cell.or best) := by
        cases child.cell <;> rfl
      simp only [kept, ih, Option.bind_some, Option.or_assoc]

/-- A lookup is the descent along all bits of its address. -/
theorem get_eq (trie : PrefixTrie) (value : UInt32) :
    get trie value = trie.deepest (bits value 32) := by
  have loop := getFrom_eq value 0 32 trie none
  rwa [Option.or_none, Option.or_none] at loop

/-! ## Routing by a list of rules -/

/-- A rule for the trie: a network, its prefix length and the action. -/
structure Rule where
  /-- The network; its host bits may be set. -/
  value : UInt32
  /-- The prefix length, at most 32. -/
  prefixLen : Fin 33
  /-- The action. -/
  action : MatchAction

/-- The trie after a list of insertions into the empty one. -/
def insertAll (rules : List Rule) : PrefixTrie :=
  rules.foldl (fun trie rule => insert trie rule.value rule.prefixLen rule.action) .empty

/-- The leading `count` bits of a value, as a number. -/
def network (value : UInt32) (count : Nat) : Nat := value.toNat / 2 ^ (32 - count)

/-- The first `prefixLen` bits of a rule are those of an address. -/
def Rule.Agrees (rule : Rule) (address : UInt32) : Prop :=
  network rule.value rule.prefixLen = network address rule.prefixLen

instance (rule : Rule) (address : UInt32) : Decidable (rule.Agrees address) :=
  inferInstanceAs (Decidable (_ = _))

/-- The rule at an index agrees with an address, no agreeing rule has a longer prefix, and
none with the same prefix length stands earlier. -/
structure Wins (rules : List Rule) (address : UInt32) (index : Nat) (rule : Rule) : Prop where
  /-- The rule at the index. -/
  listed : rules[index]? = some rule
  /-- It agrees. -/
  agrees : rule.Agrees address
  /-- It precedes every other agreeing rule in the order of the matcher. -/
  first : ∀ other rival, rules[other]? = some rival → rival.Agrees address →
    rival.prefixLen < rule.prefixLen ∨ rival.prefixLen = rule.prefixLen ∧ index ≤ other

/-- Two rules that differ in host bits at most. -/
structure SameNetwork (rule other : Rule) : Prop where
  /-- The same prefix length. -/
  prefixLen : rule.prefixLen = other.prefixLen
  /-- The same leading bits. -/
  leading : network rule.value rule.prefixLen = network other.value rule.prefixLen
  /-- The same action. -/
  action : rule.action = other.action

/-- The child index is a bit of the value. -/
theorem bit_eq_testBit (value : UInt32) (i : Nat) :
    bit value i = value.toNat.testBit (31 - i) := by
  have small : 31 - i < 32 := by omega
  have amount : (UInt32.ofNat (31 - i)).toNat = 31 - i := by
    rw [UInt32.toNat_ofNat']
    omega
  have shifted : ((value >>> UInt32.ofNat (31 - i)) &&& 1).toNat =
      value.toNat >>> (31 - i) % 2 := by
    rw [UInt32.toNat_and, UInt32.toNat_shiftRight, amount, Nat.mod_eq_of_lt small]
    exact Nat.and_one_is_mod _
  rw [bit, Nat.testBit, Nat.and_comm, Nat.and_one_is_mod, ← shifted]
  rw [Bool.eq_iff_iff]
  simp only [beq_iff_eq, bne_iff_ne, ← UInt32.toNat_inj]
  have binary : ((value >>> UInt32.ofNat (31 - i)) &&& 1).toNat < 2 := by
    rw [shifted]
    omega
  constructor
  · intro one
    rw [one]
    decide
  · intro nonzero
    have one : (1 : UInt32).toNat = 1 := rfl
    omega

/-- Leading bits as a number are equal exactly when they are equal as a list. -/
theorem network_eq_iff (left right : UInt32) (count : Fin 33) :
    network left count = network right count ↔ bits left count = bits right count := by
  have bound : (count : Nat) ≤ 32 := by omega
  have onBits : bits left count = bits right count ↔
      ∀ i < (count : Nat), left.toNat.testBit (31 - i) = right.toNat.testBit (31 - i) := by
    simp [bits, bitsFrom, bit_eq_testBit]
  rw [onBits]
  constructor
  · intro same i inside
    have shifted := congrArg (fun number => number.testBit (count - 1 - i)) same
    simp only [network, Nat.testBit_div_two_pow] at shifted
    rwa [show count - 1 - i + (32 - count) = 31 - i by omega] at shifted
  · intro same
    refine Nat.eq_of_testBit_eq fun place => ?_
    simp only [network, Nat.testBit_div_two_pow]
    by_cases inside : place < (count : Nat)
    · have here := same (count - 1 - place) (by omega)
      rwa [show 31 - ((count : Nat) - 1 - place) = place + (32 - count) by omega] at here
    · have high : 2 ^ 32 ≤ 2 ^ (place + (32 - (count : Nat))) :=
        Nat.pow_le_pow_right (by decide) (by omega)
      rw [Nat.testBit_lt_two_pow (Nat.lt_of_lt_of_le left.toNat_lt high),
        Nat.testBit_lt_two_pow (Nat.lt_of_lt_of_le right.toNat_lt high)]

/-- The first bits of a value are an initial part of more of its bits. -/
theorem bits_isPrefix (value : UInt32) {count more : Nat} (shorter : count ≤ more) :
    bits value count <+: bits value more := by
  obtain ⟨extra, rfl⟩ := Nat.exists_eq_add_of_le shorter
  refine ⟨bitsFrom value count extra, ?_⟩
  rw [bits, bits, bitsFrom, bitsFrom, bitsFrom, ← List.map_append]
  congr 1
  have ranges : List.range' 0 count ++ List.range' (0 + 1 * count) extra =
      List.range' 0 (count + extra) := List.range'_append
  simpa using ranges

/-- An agreeing rule writes on the way of its address. -/
theorem agrees_iff_isPrefix (rule : Rule) (address : UInt32) :
    rule.Agrees address ↔ bits rule.value rule.prefixLen <+: bits address 32 := by
  have inside := bits_isPrefix address (show (rule.prefixLen : Nat) ≤ 32 by omega)
  rw [Rule.Agrees, network_eq_iff]
  constructor
  · intro same
    rwa [same]
  · intro within
    exact (List.prefix_of_prefix_length_le within inside (by simp)).eq_of_length (by simp)

/-- Every cell holds the action of the first rule whose network leads there. -/
theorem cellAt_insertAll (rules : List Rule) (path : List Bool) :
    BitTrie.cellAt path (insertAll rules) =
      (rules.find? fun rule => bits rule.value rule.prefixLen = path).map Rule.action := by
  induction rules using List.reverseRecOn with
  | nil => simp [insertAll]
  | append_singleton rules rule ih =>
    have last : insertAll (rules ++ [rule]) =
        (insertAll rules).insertAlong rule.action (bits rule.value rule.prefixLen) := by
      rw [insertAll, List.foldl_append, ← insertAll, List.foldl_cons, List.foldl_nil, insert_eq]
    rw [last, BitTrie.cellAt_insertAlong, List.find?_append]
    by_cases here : path = bits rule.value rule.prefixLen
    · subst here
      rw [if_pos rfl, ih]
      cases rules.find? fun earlier =>
        bits earlier.value earlier.prefixLen = bits rule.value rule.prefixLen <;> simp
    · rw [if_neg here, ih]
      simp [Ne.symm here]

/-- The cell of a winning rule holds its action. -/
theorem cellAt_wins {rules : List Rule} {address : UInt32} {index : Nat} {rule : Rule}
    (wins : Wins rules address index rule) :
    BitTrie.cellAt (bits rule.value rule.prefixLen) (insertAll rules) = some rule.action := by
  rw [cellAt_insertAll]
  have found : (rules.find? fun other =>
      bits other.value other.prefixLen = bits rule.value rule.prefixLen) = some rule := by
    obtain ⟨bound, here⟩ := List.getElem?_eq_some_iff.mp wins.listed
    refine List.find?_eq_some_iff_getElem.mpr ⟨by simp, index, bound, here, ?_⟩
    intro earlier before
    rw [Bool.not_eq_true', decide_eq_false_iff_not]
    intro same
    have agrees : rules[earlier].Agrees address := by
      rw [agrees_iff_isPrefix, same, ← agrees_iff_isPrefix]
      exact wins.agrees
    have lengths : (rules[earlier].prefixLen : Nat) = rule.prefixLen := by
      simpa using congrArg List.length same
    rcases wins.first earlier _ (List.getElem?_eq_getElem _) agrees with shorter | ⟨_, later⟩
    · omega
    · omega
  rw [found]
  rfl

/-- The lookup returns the action of the winning rule. -/
theorem get_wins {rules : List Rule} {address : UInt32} {index : Nat} {rule : Rule}
    (wins : Wins rules address index rule) :
    get (insertAll rules) address = some rule.action := by
  rw [get_eq, BitTrie.deepest_eq_some_iff]
  refine ⟨_, (agrees_iff_isPrefix rule address).mp wins.agrees, cellAt_wins wins, ?_⟩
  intro longer inside further
  rw [cellAt_insertAll, Option.map_eq_none_iff, List.find?_eq_none]
  intro rival member leads
  rw [decide_eq_true_eq] at leads
  subst leads
  obtain ⟨other, listed⟩ := List.mem_iff_getElem?.mp member
  have rank := wins.first other rival listed ((agrees_iff_isPrefix rival address).mpr inside)
  rw [length_bits, length_bits] at further
  omega

/-- What the lookup returns is the action of a winning rule. -/
theorem wins_of_get {rules : List Rule} {address : UInt32} {action : MatchAction}
    (found : get (insertAll rules) address = some action) :
    ∃ index rule, Wins rules address index rule ∧ rule.action = action := by
  rw [get_eq, BitTrie.deepest_eq_some_iff] at found
  obtain ⟨path, inside, written, last⟩ := found
  rw [cellAt_insertAll, Option.map_eq_some_iff] at written
  obtain ⟨rule, first, rfl⟩ := written
  obtain ⟨leads, index, bound, here, earlier⟩ := List.find?_eq_some_iff_getElem.mp first
  rw [decide_eq_true_eq] at leads
  subst leads
  refine ⟨index, rule, ⟨List.getElem?_eq_some_iff.mpr ⟨bound, here⟩,
    (agrees_iff_isPrefix rule address).mpr inside, ?_⟩, rfl⟩
  intro other rival listed agrees
  have within := (agrees_iff_isPrefix rival address).mp agrees
  have notLonger : (rival.prefixLen : Nat) ≤ rule.prefixLen := by
    by_contra longer
    have unwritten := last _ within (by rw [length_bits, length_bits]; omega)
    rw [cellAt_insertAll, Option.map_eq_none_iff, List.find?_eq_none] at unwritten
    exact unwritten rival (List.mem_of_getElem? listed) (by simp)
  by_cases shorter : rival.prefixLen < rule.prefixLen
  · exact Or.inl shorter
  · have lengths : rival.prefixLen = rule.prefixLen := by omega
    refine Or.inr ⟨lengths, ?_⟩
    by_contra before
    obtain ⟨small, there⟩ := List.getElem?_eq_some_iff.mp listed
    have same := (List.prefix_of_prefix_length_le within inside (by simp [lengths])).eq_of_length
      (by simp [lengths])
    have differs := earlier other (by omega)
    rw [there] at differs
    simp [same] at differs

/-- The lookup finds nothing exactly when no rule agrees. -/
theorem get_eq_none_iff (rules : List Rule) (address : UInt32) :
    get (insertAll rules) address = none ↔ ∀ rule ∈ rules, ¬ rule.Agrees address := by
  rw [get_eq, BitTrie.deepest_eq_none_iff]
  constructor
  · intro unwritten rule member agrees
    have here := unwritten _ ((agrees_iff_isPrefix rule address).mp agrees)
    rw [cellAt_insertAll, Option.map_eq_none_iff, List.find?_eq_none] at here
    exact here rule member (by simp)
  · intro disagree path inside
    rw [cellAt_insertAll, Option.map_eq_none_iff, List.find?_eq_none]
    intro rule member leads
    rw [decide_eq_true_eq] at leads
    subst leads
    exact disagree rule member ((agrees_iff_isPrefix rule address).mpr inside)

/-- Rules that differ in host bits build tries with the same cells. -/
theorem cellAt_sameNetwork {rules others : List Rule} (same : List.Forall₂ SameNetwork rules others)
    (path : List Bool) :
    BitTrie.cellAt path (insertAll rules) = BitTrie.cellAt path (insertAll others) := by
  rw [cellAt_insertAll, cellAt_insertAll]
  induction same with
  | nil => rfl
  | @cons rule other rules others equal _ ih =>
    have leads : bits rule.value rule.prefixLen = bits other.value other.prefixLen := by
      rw [← equal.prefixLen]
      exact (network_eq_iff _ _ _).mp equal.leading
    simp only [List.find?_cons, leads]
    split
    · simp [equal.action]
    · exact ih

/-- For every list of rules and every address: the lookup returns the action of the agreeing
rule with the longest prefix, the earliest among those of equal length, and nothing exactly
when no rule agrees. Host bits of the rules have no influence, a rule of prefix length 0
agrees with every address and one of length 32 only with its own. -/
theorem longest_prefix_routing (rules : List Rule) (address : UInt32) :
    (∀ action, get (insertAll rules) address = some action ↔
      ∃ index rule, Wins rules address index rule ∧ rule.action = action) ∧
    (get (insertAll rules) address = none ↔ ∀ rule ∈ rules, ¬ rule.Agrees address) ∧
    (∀ others, List.Forall₂ SameNetwork rules others →
      get (insertAll others) address = get (insertAll rules) address) ∧
    (∀ rule : Rule, rule.prefixLen = 0 → rule.Agrees address) ∧
    (∀ rule : Rule, rule.prefixLen = 32 → (rule.Agrees address ↔ rule.value = address)) := by
  refine ⟨?_, get_eq_none_iff rules address, ?_, ?_, ?_⟩
  · intro action
    constructor
    · exact wins_of_get
    · rintro ⟨index, rule, wins, rfl⟩
      exact get_wins wins
  · intro others same
    have cells := cellAt_sameNetwork same
    rw [get_eq, get_eq]
    cases found : (insertAll rules).deepest (bits address 32) with
    | none =>
      rw [BitTrie.deepest_eq_none_iff] at found ⊢
      simpa only [cells] using found
    | some action =>
      rw [BitTrie.deepest_eq_some_iff] at found ⊢
      simpa only [cells] using found
  · intro rule zero
    have small := rule.value.toNat_lt
    have other := address.toNat_lt
    simp only [Rule.Agrees, network, zero]
    rw [Nat.div_eq_of_lt (by simpa using small), Nat.div_eq_of_lt (by simpa using other)]
  · intro rule whole
    have full : 32 - (rule.prefixLen : Nat) = 0 := by rw [whole]; decide
    rw [Rule.Agrees, network, network, full, Nat.pow_zero, Nat.div_one, Nat.div_one,
      UInt32.toNat_inj]

/-- A rule with host bits set catches its whole network, but not before a longer prefix. -/
example :
    let rules : List Rule :=
      [⟨0x0A0000FF, 8, ⟨.direct⟩⟩, ⟨0x0A010000, 16, ⟨.http "127.0.0.1:8080" none⟩⟩]
    get (insertAll rules) 0x0A020304 = some ⟨.direct⟩ ∧
      get (insertAll rules) 0x0A010203 = some ⟨.http "127.0.0.1:8080" none⟩ ∧
      get (insertAll rules) 0x0B010203 = none := by
  decide

end PrefixTrie

end NsProxy
