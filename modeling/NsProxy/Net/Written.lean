import NsProxy.Lib.Decimal
import NsProxy.Net.Parse

/-!
# Numbers and addresses as they are written

The readers of the standard library accept exactly these texts: a number with an optional plus
sign and leading zeros, and an address in its one dotted form.
-/

namespace NsProxy

open Decimal

/-- A number as it can be written. -/
structure Numeral where
  /-- Whether there is a plus sign. -/
  plus : Bool
  /-- The number of zeros in front. -/
  zeros : Nat
  /-- The number. -/
  value : Nat
  deriving DecidableEq

/-- The characters of a numeral. -/
def Numeral.chars (numeral : Numeral) : List Char :=
  (if numeral.plus then ['+'] else []) ++
    (List.replicate numeral.zeros '0' ++ Nat.toDigits 10 numeral.value)

/-- The numeral as it is written. -/
def Numeral.text (numeral : Numeral) : String := String.ofList numeral.chars

/-- Digits are read as the number that they write. -/
theorem parseDigits_sound {bound number value : Nat} {chars : List Char}
    (accepted : parseDigits bound number chars = .ok value) (small : number < bound) :
    value = Nat.ofDigitChars 10 chars number ∧ value < bound := by
  induction chars generalizing number with
  | nil =>
    rw [parseDigits, Except.ok.injEq] at accepted
    rw [Nat.ofDigitChars_nil, ← accepted]
    exact ⟨rfl, small⟩
  | cons first rest ih =>
    rw [parseDigits] at accepted
    split at accepted
    · contradiction
    · rename_i digit read
      obtain ⟨-, same⟩ := toDigit_ten_eq_some_iff.mp read
      split_ifs at accepted with fits
      have later := ih accepted fits
      rw [Nat.ofDigitChars_cons, Nat.mul_comm]
      rw [same] at later
      exact later

/-- Digits are read from zeros in front of a decimal text only. -/
theorem parseDigits_eq_ok_iff {bound value : Nat} {chars : List Char} (nonempty : chars ≠ [])
    (positive : 0 < bound) : parseDigits bound 0 chars = .ok value ↔
      value < bound ∧ ∃ zeros, chars = List.replicate zeros '0' ++ Nat.toDigits 10 value := by
  constructor
  · intro accepted
    obtain ⟨same, small⟩ := parseDigits_sound accepted positive
    have digits : AllDigits chars := isDigit_of_parseDigits accepted
    obtain ⟨zeros, written⟩ := eq_zeros_append digits nonempty
    rw [← same] at written
    exact ⟨small, zeros, written⟩
  · rintro ⟨small, zeros, written⟩
    have value := ofDigitChars_zeros_append zeros value
    rw [← written] at value
    have digits := allDigits_zeros_append zeros
    rw [parseDigits_eq_ok, value]
    · rw [written]
      exact digits _
    · rw [value]
      exact small

/-- Zeros and digits do not start with a plus sign. -/
theorem zeros_append_ne_plus (zeros value : Nat) (rest : List Char) :
    List.replicate zeros '0' ++ Nat.toDigits 10 value ≠ '+' :: rest := by
  intro same
  have digit := allDigits_zeros_append zeros value '+' (same ▸ List.mem_cons_self)
  contradiction

/-- A number that is written with leading zeros is not empty. -/
theorem zeros_append_ne_nil (zeros value : Nat) :
    List.replicate zeros '0' ++ Nat.toDigits 10 value ≠ [] := by
  intro empty
  exact Nat.toDigits_ne_nil (List.append_eq_nil_iff.mp empty).2

/-- Unsigned numbers are accepted exactly as numerals within the bound. -/
theorem parseUnsigned_eq_ok_iff {bound value : Nat} {text : String} (positive : 0 < bound) :
    parseUnsigned bound text = .ok value ↔
      value < bound ∧ ∃ numeral : Numeral, text = numeral.text ∧ numeral.value = value := by
  constructor
  · intro accepted
    unfold parseUnsigned at accepted
    split at accepted
    · contradiction
    · contradiction
    · rename_i chars several written
      have nonempty : chars ≠ [] := by
        intro empty
        rw [empty] at several
        exact several rfl
      obtain ⟨small, zeros, digits⟩ := (parseDigits_eq_ok_iff nonempty positive).mp accepted
      refine ⟨small, ⟨true, zeros, value⟩, ?_, rfl⟩
      rw [Numeral.text, ← String.toList_inj, String.toList_ofList, written, digits]
      rfl
    · rename_i nonempty _ _
      obtain ⟨small, zeros, digits⟩ := (parseDigits_eq_ok_iff nonempty positive).mp accepted
      refine ⟨small, ⟨false, zeros, value⟩, ?_, rfl⟩
      rw [Numeral.text, ← String.toList_inj, String.toList_ofList, digits]
      rfl
  · rintro ⟨small, ⟨plus, zeros, value⟩, written, rfl⟩
    have nonempty := zeros_append_ne_nil zeros value
    have read := (parseDigits_eq_ok_iff nonempty positive).mpr ⟨small, zeros, rfl⟩
    unfold parseUnsigned
    rw [written, Numeral.text, String.toList_ofList, Numeral.chars]
    cases plus with
    | true =>
      rw [if_pos rfl, List.singleton_append]
      split
      · contradiction
      · rename_i alone
        exact absurd (List.cons.inj alone).2 nonempty
      · rename_i chars _ same
        rw [← (List.cons.inj same).2]
        exact read
      · rename_i _ signed
        exact absurd rfl (signed _)
    | false =>
      rw [if_neg Bool.false_ne_true, List.nil_append]
      split
      · rename_i empty
        exact absurd empty nonempty
      · rename_i alone
        exact absurd alone (zeros_append_ne_plus zeros value [])
      · rename_i chars _ signed
        exact absurd signed (zeros_append_ne_plus zeros value chars)
      · exact read

/-- The value of digits is the number that they write. -/
theorem digitsValue_eq {digits : List Char} (all : AllDigits digits) :
    digitsValue 10 (digits.filterMap (toDigit 10)) = Nat.ofDigitChars 10 digits 0 := by
  induction digits using List.reverseRecOn with
  | nil => rfl
  | append_singleton front last ih =>
    have digit := toDigit_ten_isDigit (all last (List.mem_append_right front List.mem_cons_self))
    have before := ih fun char member => all char (List.mem_append_left _ member)
    rw [digitsValue] at before ⊢
    rw [List.filterMap_append, List.foldl_append, before, Nat.ofDigitChars_append,
      Nat.ofDigitChars_cons, Nat.ofDigitChars_nil, Nat.mul_comm]
    simp [digit]

namespace AddrParser

/-- An octet is read from its decimal text. -/
theorem eq_toDigits_append {value : Nat} {chars rest : List Char}
    (read : readNumber 10 (some 3) false 256 chars = some (value, rest)) :
    value < 256 ∧ chars = Nat.toDigits 10 value ++ rest := by
  have digits : AllDigits (chars.takeWhile Char.isDigit) :=
    fun char member => List.mem_takeWhile_imp member
  have stop : ∀ char ∈ (chars.dropWhile Char.isDigit).head?, (toDigit 10 char).isSome = false := by
    intro char member
    have stopped := List.head?_dropWhile_not Char.isDigit chars
    rw [Option.mem_def.mp member] at stopped
    rw [isSome_toDigit_ten]
    simpa using stopped
  have parts := List.takeWhile_append_dropWhile (p := Char.isDigit) (l := chars)
  rw [← parts, readNumber_append (fun char member => by
    rw [isSome_toDigit_ten]; exact digits char member) stop, digitsValue_eq digits, parts] at read
  generalize chars.takeWhile Char.isDigit = front at parts read digits
  split_ifs at read with long empty zero small
  rw [Option.some.injEq, Prod.mk.injEq] at read
  have nonempty : front ≠ [] := fun none => empty (List.length_eq_zero_iff.mpr none)
  have written : Nat.toDigits 10 (Nat.ofDigitChars 10 front 0) = front := by
    by_cases leads : front.head? = some '0'
    · have starts : chars.head? = some '0' := by
        rw [← parts, List.head?_append_of_ne_nil front nonempty, leads]
      have single : front.length = 1 := by
        simp only [starts, Bool.not_false, decide_true, Bool.true_and, decide_eq_true_eq] at zero
        omega
      obtain ⟨char, only⟩ := List.length_eq_one_iff.mp single
      rw [only, List.head?_cons, Option.some.injEq] at leads
      rw [only, leads]
      rfl
    · exact toDigits_ofDigitChars digits nonempty leads
  rw [← read.1, ← read.2, written, parts]
  exact ⟨small, rfl⟩

/-- A dot and an octet are read from a dot and the decimal text of the octet. -/
theorem eq_dot_toDigits_append {index value : Nat} {chars rest : List Char}
    (later : index ≠ 0) (read : readSeparator '.' index (readNumber 10 (some 3) false 256) chars =
      some (value, rest)) : value < 256 ∧ chars = '.' :: (Nat.toDigits 10 value ++ rest) := by
  rw [readSeparator, if_neg later] at read
  obtain ⟨dot, separated, number⟩ := Option.bind_eq_some_iff.mp read
  obtain ⟨small, written⟩ := eq_toDigits_append number
  refine ⟨small, ?_⟩
  cases chars with
  | nil => contradiction
  | cons first tail =>
    rw [readGivenChar] at separated
    split_ifs at separated with same
    rw [← Option.some.inj separated] at written
    rw [same, ← written]

end AddrParser

/-- The octets of an address that is put together from octets. -/
theorem Ipv4Addr.octets_new (a b c d : UInt8) : (Ipv4Addr.new a b c d).octets = [a, b, c, d] :=
  Bytes.be32_u32FromBe a b c d

/-- An address is accepted from its dotted text only. -/
theorem Ipv4Addr.eq_toText_of_parse {text : String} {addr : Ipv4Addr}
    (accepted : Ipv4Addr.parse text = .ok addr) : text = addr.toText := by
  rw [Ipv4Addr.parse] at accepted
  split_ifs at accepted
  rw [Error.contextOption_eq_ok, AddrParser.parseWith] at accepted
  split at accepted
  · rename_i whole read
    have same := Option.some.inj accepted
    unfold AddrParser.readIpv4Addr at read
    simp only [bind, Option.bind_eq_some_iff, pure] at read
    obtain ⟨⟨a, chars1⟩, first, ⟨b, chars2⟩, second, ⟨c, chars3⟩, third, ⟨d, chars4⟩, fourth,
      made⟩ := read
    obtain ⟨small1, written1⟩ := AddrParser.eq_toDigits_append first
    obtain ⟨small2, written2⟩ := AddrParser.eq_dot_toDigits_append (by decide) second
    obtain ⟨small3, written3⟩ := AddrParser.eq_dot_toDigits_append (by decide) third
    obtain ⟨small4, written4⟩ := AddrParser.eq_dot_toDigits_append (by decide) fourth
    simp only [Option.some.injEq, Prod.mk.injEq] at made
    have octets := Ipv4Addr.octets_new (UInt8.ofNat a) (UInt8.ofNat b) (UInt8.ofNat c)
      (UInt8.ofNat d)
    rw [made.1, same] at octets
    have back {value : Nat} (small : value < 256) : (UInt8.ofNat value).toNat = value :=
      UInt8.toNat_ofNat_of_lt small
    have dotted := Ipv4Addr.toList_toText octets
    rw [back small1, back small2, back small3, back small4] at dotted
    simp only at written1 written2 written3 written4
    rw [← String.toList_inj, dotted, written1, written2, written3, written4, made.2,
      List.append_nil]
  · contradiction

/-- An address is accepted exactly as it is written. -/
theorem Ipv4Addr.parse_eq_ok_iff {text : String} {addr : Ipv4Addr} :
    Ipv4Addr.parse text = .ok addr ↔ text = addr.toText := by
  constructor
  · exact Ipv4Addr.eq_toText_of_parse
  · intro written
    rw [written]
    exact Ipv4Addr.parse_toText addr

end NsProxy
