import Mathlib.Algebra.Group.Nat.Defs
import NsProxy.Lib.Anyhow
import NsProxy.Lib.Text
import NsProxy.Net

/-!
# Numbers and addresses in text

The `FromStr` implementations of the standard library that the command line goes through:
unsigned integers, `Ipv4Addr`, and the test whether a text is a `SocketAddr`. The address
parsers read from the front of the text and give back what they did not read. Numbers and
IPv4 addresses are accepted from their own texts, and from no text with a character of another
kind, so that a separator around them is never taken for a part of them.
-/

namespace NsProxy

/-- `char::to_digit`. -/
def toDigit (radix : Nat) (char : Char) : Option Nat :=
  let value :=
    if '0' ≤ char ∧ char ≤ '9' then some (char.toNat - '0'.toNat)
    else if 'a' ≤ char ∧ char ≤ 'z' then some (char.toNat - 'a'.toNat + 10)
    else if 'A' ≤ char ∧ char ≤ 'Z' then some (char.toNat - 'A'.toNat + 10)
    else none
  value.filter (· < radix)

/-- The number written by digits, most significant first. -/
def digitsValue (radix : Nat) (digits : List Nat) : Nat :=
  digits.foldl (fun number digit => number * radix + digit) 0

/-- The digit loop of `FromStr` for integer types with values below `bound`. -/
def parseDigits (bound : Nat) : Nat → List Char → Except Error Nat
  | number, [] => .ok number
  | number, char :: rest =>
    match toDigit 10 char with
    | none => .error ["invalid digit found in string"]
    | some digit =>
      if number * 10 + digit < bound then parseDigits bound (number * 10 + digit) rest
      else .error ["number too large to fit in target type"]

/-- `FromStr` of an unsigned integer type with values below `bound`: decimal digits with an
optional plus sign. -/
def parseUnsigned (bound : Nat) (text : String) : Except Error Nat :=
  match text.toList with
  | [] => .error ["cannot parse integer from empty string"]
  | ['+'] => .error ["invalid digit found in string"]
  | '+' :: chars => parseDigits bound 0 chars
  | chars => parseDigits bound 0 chars

/-- `str::parse::<u8>`. -/
def parseU8 (text : String) : Except Error UInt8 := (parseUnsigned 256 text).map UInt8.ofNat

/-- `str::parse::<u16>`. -/
def parseU16 (text : String) : Except Error UInt16 := (parseUnsigned 65536 text).map UInt16.ofNat

namespace AddrParser

/-- A parser that reads from the front, or reads nothing and fails. -/
abbrev Reader (α : Type) : Type := List Char → Option (α × List Char)

/-- `read_given_char`. -/
def readGivenChar (expected : Char) : Reader Unit
  | [] => none
  | char :: rest => if char = expected then some ((), rest) else none

/-- `read_separator`: the separator stands before every element but the first. -/
def readSeparator {α : Type} (separator : Char) (index : Nat) (inner : Reader α) : Reader α :=
  fun chars =>
    if index = 0 then inner chars
    else (readGivenChar separator chars).bind fun read => inner read.2

/-- `read_number`: all digits in front, if there are some and not too many, without a leading
zero where that is not allowed, and with a value below `bound`. -/
def readNumber (radix : Nat) (maxDigits : Option Nat) (allowZero : Bool) (bound : Nat) :
    Reader Nat :=
  fun chars =>
    let digits := (chars.takeWhile fun char => (toDigit radix char).isSome).filterMap
      (toDigit radix)
    let leadingZero : Bool := chars.head? = some '0'
    if maxDigits.any (· < digits.length) then none
    else if digits.length = 0 then none
    else if !allowZero && leadingZero && 1 < digits.length then none
    else if digitsValue radix digits < bound then
      some (digitsValue radix digits, chars.drop digits.length)
    else none

/-- `read_ipv4_addr`: four decimal numbers below 256 of at most three digits, without leading
zeros, separated by dots. -/
def readIpv4Addr : Reader Ipv4Addr := fun chars => do
  let octet := readNumber 10 (some 3) false 256
  let (a, chars) ← readSeparator '.' 0 octet chars
  let (b, chars) ← readSeparator '.' 1 octet chars
  let (c, chars) ← readSeparator '.' 2 octet chars
  let (d, chars) ← readSeparator '.' 3 octet chars
  return (Ipv4Addr.new (UInt8.ofNat a) (UInt8.ofNat b) (UInt8.ofNat c) (UInt8.ofNat d), chars)

/-- `read_groups` with `left` of `limit` groups to go: the number of groups read, whether an
embedded IPv4 address ended them, and the rest. -/
def readGroups (limit : Nat) : Nat → Nat → List Char → (Nat × Bool) × List Char
  | 0, index, chars => ((index, false), chars)
  | left + 1, index, chars =>
    let embedded :=
      if index + 1 < limit then readSeparator ':' index readIpv4Addr chars else none
    match embedded with
    | some (_, rest) => ((index + 2, true), rest)
    | none =>
      match readSeparator ':' index (readNumber 16 (some 4) true 65536) chars with
      | some (_, rest) => readGroups limit left (index + 1) rest
      | none => ((index, false), chars)

/-- `read_ipv6_addr`, without the value: eight groups, or two runs of groups around `::`. -/
def readIpv6Addr : Reader Unit := fun chars =>
  let ((headSize, headIpv4), rest) := readGroups 8 8 0 chars
  if headSize = 8 then some ((), rest)
  else if headIpv4 then none
  else do
    let (_, rest) ← readGivenChar ':' rest
    let (_, rest) ← readGivenChar ':' rest
    let limit := 8 - (headSize + 1)
    return ((), (readGroups limit limit 0 rest).2)

/-- `read_port`. -/
def readPort : Reader Nat := fun chars => do
  let (_, chars) ← readGivenChar ':' chars
  readNumber 10 none true 65536 chars

/-- `read_scope_id`. -/
def readScopeId : Reader Nat := fun chars => do
  let (_, chars) ← readGivenChar '%' chars
  readNumber 10 none true (2 ^ 32) chars

/-- `read_socket_addr_v4`, without the value. -/
def readSocketAddrV4 : Reader Unit := fun chars => do
  let (_, chars) ← readIpv4Addr chars
  let (_, chars) ← readPort chars
  return ((), chars)

/-- `read_socket_addr_v6`, without the value. -/
def readSocketAddrV6 : Reader Unit := fun chars => do
  let (_, chars) ← readGivenChar '[' chars
  let (_, chars) ← readIpv6Addr chars
  let chars := ((readScopeId chars).map Prod.snd).getD chars
  let (_, chars) ← readGivenChar ']' chars
  let (_, chars) ← readPort chars
  return ((), chars)

/-- `parse_with`: the reader succeeds and reads everything. -/
def parseWith {α : Type} (inner : Reader α) (text : String) : Option α :=
  match inner text.toList with
  | some (value, []) => some value
  | _ => none

end AddrParser

/-- `str::parse::<Ipv4Addr>`; longer texts are refused before they are read. -/
def Ipv4Addr.parse (text : String) : Except Error Ipv4Addr :=
  if 15 < (Text.asBytes text).length then .error ["invalid IPv4 address syntax"]
  else Error.contextOption "invalid IPv4 address syntax"
    (AddrParser.parseWith AddrParser.readIpv4Addr text)

/-- Whether `str::parse::<SocketAddr>` accepts a text. -/
def isSocketAddr (text : String) : Bool :=
  (AddrParser.parseWith AddrParser.readSocketAddrV4 text).isSome ||
    (AddrParser.parseWith AddrParser.readSocketAddrV6 text).isSome

/-! ## Numbers as they are written -/

/-- The digits by their codes. -/
theorem isDigit_iff (char : Char) : char.isDigit ↔ 48 ≤ char.toNat ∧ char.toNat ≤ 57 := by
  rw [Char.isDigit, Bool.and_eq_true, decide_eq_true_eq, decide_eq_true_eq, ge_iff_le,
    UInt32.le_iff_toNat_le, UInt32.le_iff_toNat_le]
  rfl

/-- Characters are ordered by their codes. -/
theorem char_le_iff (left right : Char) : left ≤ right ↔ left.toNat ≤ right.toNat := by
  rw [Char.le_def, UInt32.le_iff_toNat_le]
  rfl

/-- The digits of radix ten, with their values. -/
theorem toDigit_ten_eq_some_iff {char : Char} {digit : Nat} :
    toDigit 10 char = some digit ↔ char.isDigit ∧ digit = char.toNat - 48 := by
  have zero : '0'.toNat = 48 := rfl
  have nine : '9'.toNat = 57 := rfl
  have a : 'a'.toNat = 97 := rfl
  have z : 'z'.toNat = 122 := rfl
  have A : 'A'.toNat = 65 := rfl
  have Z : 'Z'.toNat = 90 := rfl
  rw [toDigit, Option.filter_eq_some_iff, isDigit_iff]
  simp only [char_le_iff, zero, nine, a, z, A, Z, decide_eq_true_eq]
  split_ifs with decimal lower upper
  · rw [Option.some.injEq]
    omega
  · rw [Option.some.injEq]
    omega
  · rw [Option.some.injEq]
    omega
  · simp only [false_and, false_iff]
    omega

/-- A decimal digit stands for its distance from the digit zero. -/
theorem toDigit_ten_isDigit {char : Char} (digit : char.isDigit) :
    toDigit 10 char = some (char.toNat - 48) := toDigit_ten_eq_some_iff.mpr ⟨digit, rfl⟩

/-- Only digits are accepted as a number. -/
theorem isDigit_of_parseDigits {bound number value : Nat} {chars : List Char}
    (accepted : parseDigits bound number chars = .ok value) : ∀ char ∈ chars, char.isDigit := by
  induction chars generalizing number with
  | nil =>
    intro char member
    contradiction
  | cons first rest ih =>
    rw [parseDigits] at accepted
    cases read : toDigit 10 first with
    | none =>
      rw [read] at accepted
      contradiction
    | some digit =>
      rw [read] at accepted
      by_cases fits : number * 10 + digit < bound
      · simp only [if_pos fits] at accepted
        intro char member
        rcases List.mem_cons.mp member with here | later
        · rw [here]
          exact (toDigit_ten_eq_some_iff.mp read).1
        · exact ih accepted char later
      · simp only [if_neg fits] at accepted
        contradiction

/-- Digits are accepted as the number that they write, when it is in the bound. -/
theorem parseDigits_eq_ok {bound number : Nat} {chars : List Char}
    (digits : ∀ char ∈ chars, char.isDigit) (fits : Nat.ofDigitChars 10 chars number < bound) :
    parseDigits bound number chars = .ok (Nat.ofDigitChars 10 chars number) := by
  induction chars generalizing number with
  | nil =>
    rw [parseDigits, Nat.ofDigitChars_nil]
  | cons first rest ih =>
    have read := toDigit_ten_isDigit (digits first List.mem_cons_self)
    have same : 10 * number + (first.toNat - '0'.toNat) = number * 10 + (first.toNat - 48) := by
      rw [Nat.mul_comm]
      rfl
    rw [Nat.ofDigitChars_cons, same] at fits ⊢
    have grows : number * 10 + (first.toNat - 48) ≤
        Nat.ofDigitChars 10 rest (number * 10 + (first.toNat - 48)) := by
      rw [Nat.ofDigitChars_eq_ofDigitChars_zero]
      exact Nat.le_add_right_of_le (Nat.le_mul_of_pos_left _ (Nat.pow_pos (by decide)))
    rw [parseDigits, read]
    simp only [if_pos (Nat.lt_of_le_of_lt grows fits)]
    exact ih (fun char member => digits char (List.mem_cons_of_mem _ member)) fits

/-- A number is accepted only from digits and a plus sign. -/
theorem chars_of_parseUnsigned {bound value : Nat} {text : String}
    (accepted : parseUnsigned bound text = .ok value) :
    ∀ char ∈ text.toList, char = '+' ∨ char.isDigit := by
  unfold parseUnsigned at accepted
  split at accepted
  · contradiction
  · contradiction
  · rename_i chars _ written
    rw [written]
    intro char member
    rcases List.mem_cons.mp member with plus | digit
    · exact Or.inl plus
    · exact Or.inr (isDigit_of_parseDigits accepted char digit)
  · intro char member
    exact Or.inr (isDigit_of_parseDigits accepted char member)

/-- The decimal text of a number in the bound is accepted as the number. -/
theorem parseUnsigned_toString {bound value : Nat} (fits : value < bound) :
    parseUnsigned bound (toString value) = .ok value := by
  have written : (toString value).toList = Nat.toDigits 10 value := Nat.toList_repr
  have digits : ∀ char ∈ Nat.toDigits 10 value, char.isDigit :=
    fun char member => Nat.isDigit_of_mem_toDigits (by decide) (by decide) member
  have plus : ∀ rest, Nat.toDigits 10 value ≠ '+' :: rest := by
    intro rest same
    have digit := digits '+' (same ▸ List.mem_cons_self)
    contradiction
  unfold parseUnsigned
  rw [written]
  split
  · rename_i empty
    exact absurd empty Nat.toDigits_ne_nil
  · rename_i alone
    exact absurd alone (plus [])
  · rename_i rest _ signed
    exact absurd signed (plus rest)
  · rw [parseDigits_eq_ok digits]
    · rw [Nat.ofDigitChars_ten_toDigits]
    · rw [Nat.ofDigitChars_ten_toDigits]
      exact fits

/-- An accepted port number has digits and plus signs alone. -/
theorem chars_of_parseU16 {text : String} {port : UInt16} (accepted : parseU16 text = .ok port) :
    ∀ char ∈ text.toList, char = '+' ∨ char.isDigit := by
  cases read : parseUnsigned 65536 text with
  | error causes =>
    rw [parseU16, read] at accepted
    contradiction
  | ok value => exact chars_of_parseUnsigned read

/-- A port number that is written is accepted. -/
theorem parseU16_toString (port : UInt16) : parseU16 (toString port.toNat) = .ok port := by
  rw [parseU16, parseUnsigned_toString port.toNat_lt]
  show Except.ok (UInt16.ofNat port.toNat) = Except.ok port
  rw [UInt16.ofNat_toNat]

/-! ## Addresses as they are written -/

/-- The decimal digits are the characters that stand for a number below ten. -/
theorem isSome_toDigit_ten (char : Char) : (toDigit 10 char).isSome = char.isDigit := by
  rw [Bool.eq_iff_iff, Option.isSome_iff_exists]
  constructor
  · rintro ⟨digit, read⟩
    exact (toDigit_ten_eq_some_iff.mp read).1
  · intro digit
    exact ⟨_, toDigit_ten_eq_some_iff.mpr ⟨digit, rfl⟩⟩

namespace AddrParser

/-- A number is read from the digits in front. -/
theorem readNumber_append {radix : Nat} {maxDigits : Option Nat} {allowZero : Bool} {bound : Nat}
    {front rest : List Char} (digits : ∀ char ∈ front, (toDigit radix char).isSome)
    (stop : ∀ char ∈ rest.head?, (toDigit radix char).isSome = false) :
    readNumber radix maxDigits allowZero bound (front ++ rest) =
      if maxDigits.any (· < front.length) then none
      else if front.length = 0 then none
      else if !allowZero && ((front ++ rest).head? = some '0' : Bool) && 1 < front.length then none
      else if digitsValue radix (front.filterMap (toDigit radix)) < bound then
        some (digitsValue radix (front.filterMap (toDigit radix)), rest)
      else none := by
  have taken : (front ++ rest).takeWhile (fun char => (toDigit radix char).isSome) = front := by
    rw [List.takeWhile_append_of_pos digits]
    cases rest with
    | nil => simp
    | cons char rest =>
      have stops := stop char rfl
      simp [stops]
  have count : (front.filterMap (toDigit radix)).length = front.length :=
    List.filterMap_length_eq_length.mpr digits
  rw [readNumber]
  simp only [taken, count, List.drop_left]

/-- A number is read from digits only. -/
theorem readNumber_eq_some {maxDigits : Option Nat} {allowZero : Bool} {bound value : Nat}
    {chars rest : List Char} (read : readNumber 10 maxDigits allowZero bound chars =
      some (value, rest)) : ∃ front, chars = front ++ rest ∧ ∀ char ∈ front, char.isDigit := by
  have digits : ∀ char ∈ chars.takeWhile Char.isDigit, (toDigit 10 char).isSome := by
    intro char member
    rw [isSome_toDigit_ten]
    exact List.mem_takeWhile_imp member
  have stop : ∀ char ∈ (chars.dropWhile Char.isDigit).head?, (toDigit 10 char).isSome = false := by
    intro char member
    have stopped := List.head?_dropWhile_not Char.isDigit chars
    rw [Option.mem_def.mp member] at stopped
    rw [isSome_toDigit_ten]
    simpa using stopped
  have parts := List.takeWhile_append_dropWhile (p := Char.isDigit) (l := chars)
  rw [← parts, readNumber_append digits stop] at read
  refine ⟨chars.takeWhile Char.isDigit, ?_, fun char member => List.mem_takeWhile_imp member⟩
  split_ifs at read
  rw [Option.some.injEq, Prod.mk.injEq] at read
  rw [← read.2, parts]

/-- The characters of dotted addresses. -/
def IsDotted (char : Char) : Prop := char = '.' ∨ char.isDigit

/-- An octet and the dot before it are read from digits and dots only. -/
theorem readOctet_eq_some {index value : Nat} {chars rest : List Char}
    (read : readSeparator '.' index (readNumber 10 (some 3) false 256) chars =
      some (value, rest)) : ∃ front, chars = front ++ rest ∧ ∀ char ∈ front, IsDotted char := by
  rw [readSeparator] at read
  by_cases initial : index = 0
  · rw [if_pos initial] at read
    obtain ⟨front, whole, digits⟩ := readNumber_eq_some read
    exact ⟨front, whole, fun char member => Or.inr (digits char member)⟩
  · rw [if_neg initial] at read
    obtain ⟨dot, separated, number⟩ := Option.bind_eq_some_iff.mp read
    obtain ⟨front, whole, digits⟩ := readNumber_eq_some number
    refine ⟨'.' :: front, ?_, ?_⟩
    · cases chars with
      | nil => contradiction
      | cons first tail =>
        rw [readGivenChar] at separated
        split_ifs at separated with same
        rw [← Option.some.inj separated] at whole
        rw [same, List.cons_append, ← whole]
    · intro char member
      rcases List.mem_cons.mp member with here | later
      · exact Or.inl here
      · exact Or.inr (digits char later)

/-- An address is read from digits and dots only. -/
theorem readIpv4Addr_eq_some {addr : Ipv4Addr} {chars rest : List Char}
    (read : readIpv4Addr chars = some (addr, rest)) :
    ∃ front, chars = front ++ rest ∧ ∀ char ∈ front, IsDotted char := by
  unfold readIpv4Addr at read
  simp only [bind, Option.bind_eq_some_iff, pure] at read
  obtain ⟨⟨a, chars1⟩, first, ⟨b, chars2⟩, second, ⟨c, chars3⟩, third, ⟨d, chars4⟩, fourth, same⟩ :=
    read
  obtain ⟨front1, whole1, dotted1⟩ := readOctet_eq_some first
  obtain ⟨front2, whole2, dotted2⟩ := readOctet_eq_some second
  obtain ⟨front3, whole3, dotted3⟩ := readOctet_eq_some third
  obtain ⟨front4, whole4, dotted4⟩ := readOctet_eq_some fourth
  simp only [Option.some.injEq, Prod.mk.injEq] at same
  rw [same.2] at whole4
  refine ⟨front1 ++ (front2 ++ (front3 ++ front4)), ?_, ?_⟩
  · simp only at whole1 whole2 whole3 whole4
    rw [whole1, whole2, whole3, whole4]
    simp only [List.append_assoc]
  · intro char member
    rcases List.mem_append.mp member with inside | member
    · exact dotted1 char inside
    rcases List.mem_append.mp member with inside | member
    · exact dotted2 char inside
    rcases List.mem_append.mp member with inside | inside
    · exact dotted3 char inside
    · exact dotted4 char inside

/-- An octet is read back from its decimal text. -/
theorem readOctet_toDigits (octet : UInt8) {rest : List Char}
    (stop : ∀ char ∈ rest.head?, char.isDigit = false) :
    readNumber 10 (some 3) false 256 (Nat.toDigits 10 octet.toNat ++ rest) =
      some (octet.toNat, rest) := by
  have known : ∀ value : Fin 256, (Nat.toDigits 10 value).length ≤ 3 ∧
      ((Nat.toDigits 10 value).head? = some '0' → (Nat.toDigits 10 value).length ≤ 1) ∧
      digitsValue 10 ((Nat.toDigits 10 value).filterMap (toDigit 10)) = value := by
    decide +kernel
  obtain ⟨short, plain, written⟩ := known ⟨octet.toNat, octet.toNat_lt⟩
  simp only at short plain written
  have nonempty : Nat.toDigits 10 octet.toNat ≠ [] := Nat.toDigits_ne_nil
  rw [readNumber_append, written]
  · rw [List.head?_append_of_ne_nil _ nonempty, if_neg, if_neg, if_neg, if_pos octet.toNat_lt]
    · simp only [Bool.not_false, Bool.true_and, Bool.and_eq_true, decide_eq_true_eq, not_and]
      intro zero
      have := plain zero
      omega
    · rw [List.length_eq_zero_iff]
      exact nonempty
    · simp only [Option.any_some, decide_eq_true_eq]
      omega
  · intro char member
    rw [isSome_toDigit_ten]
    exact Nat.isDigit_of_mem_toDigits (by decide) (by decide) member
  · intro char member
    rw [isSome_toDigit_ten]
    exact stop char member

end AddrParser

/-- An address is accepted only from digits and dots. -/
theorem Ipv4Addr.chars_of_parse {text : String} {addr : Ipv4Addr}
    (accepted : Ipv4Addr.parse text = .ok addr) :
    ∀ char ∈ text.toList, AddrParser.IsDotted char := by
  rw [Ipv4Addr.parse] at accepted
  split_ifs at accepted
  rw [Error.contextOption_eq_ok, AddrParser.parseWith] at accepted
  split at accepted
  · rename_i read
    obtain ⟨front, whole, dotted⟩ := AddrParser.readIpv4Addr_eq_some read
    rw [whole, List.append_nil]
    exact dotted
  · contradiction

/-- The characters of a dotted text. -/
theorem Ipv4Addr.toList_toText {addr : Ipv4Addr} {a b c d : UInt8}
    (octets : addr.octets = [a, b, c, d]) :
    addr.toText.toList = Nat.toDigits 10 a.toNat ++ '.' :: (Nat.toDigits 10 b.toNat ++
      '.' :: (Nat.toDigits 10 c.toNat ++ '.' :: Nat.toDigits 10 d.toNat)) := by
  rw [Ipv4Addr.toText, octets, String.toList_intercalate]
  simp

/-- An octet takes at most three characters, all of them ASCII. -/
theorem octet_toDigits (octet : UInt8) : (Nat.toDigits 10 octet.toNat).length ≤ 3 ∧
    ∀ char ∈ Nat.toDigits 10 octet.toNat, char.toNat < 128 := by
  constructor
  · rw [Nat.length_toDigits_le_iff (by decide) (by decide)]
    have bound := octet.toNat_lt
    omega
  · intro char member
    have digit := Nat.isDigit_of_mem_toDigits (by decide) (by decide) member
    rw [isDigit_iff] at digit
    omega

/-- A dotted text is within the length that is read. -/
theorem Ipv4Addr.length_toText_le {addr : Ipv4Addr} {a b c d : UInt8}
    (octets : addr.octets = [a, b, c, d]) : (Text.asBytes addr.toText).length ≤ 15 := by
  have written := Ipv4Addr.toList_toText octets
  have ascii : ∀ char ∈ addr.toText.toList, char.toNat < 128 := by
    intro char member
    rw [written] at member
    simp only [List.mem_append, List.mem_cons] at member
    have dotted (dot : char = '.') : char.toNat < 128 := by
      rw [dot]
      decide
    rcases member with inside | dot | inside | dot | inside | dot | inside
    · exact (octet_toDigits a).2 char inside
    · exact dotted dot
    · exact (octet_toDigits b).2 char inside
    · exact dotted dot
    · exact (octet_toDigits c).2 char inside
    · exact dotted dot
    · exact (octet_toDigits d).2 char inside
  rw [Text.length_asBytes_of_ascii ascii, written]
  simp only [List.length_append, List.length_cons]
  have first := (octet_toDigits a).1
  have second := (octet_toDigits b).1
  have third := (octet_toDigits c).1
  have fourth := (octet_toDigits d).1
  omega

/-- A dotted text is read as the address of its octets. -/
theorem Ipv4Addr.readIpv4Addr_toText {addr : Ipv4Addr} {a b c d : UInt8}
    (octets : addr.octets = [a, b, c, d]) :
    AddrParser.readIpv4Addr addr.toText.toList = some (Ipv4Addr.new a b c d, []) := by
  have dot (rest : List Char) : ∀ char ∈ ('.' :: rest).head?, char.isDigit = false := by
    intro char member
    rw [← Option.some.inj member]
    rfl
  have finish : ∀ char ∈ ([] : List Char).head?, char.isDigit = false :=
    fun _ member => nomatch member
  have first := AddrParser.readOctet_toDigits a (dot (Nat.toDigits 10 b.toNat ++
    '.' :: (Nat.toDigits 10 c.toNat ++ '.' :: Nat.toDigits 10 d.toNat)))
  have second := AddrParser.readOctet_toDigits b (dot (Nat.toDigits 10 c.toNat ++
    '.' :: Nat.toDigits 10 d.toNat))
  have third := AddrParser.readOctet_toDigits c (dot (Nat.toDigits 10 d.toNat))
  have fourth := AddrParser.readOctet_toDigits d finish
  rw [List.append_nil] at fourth
  rw [Ipv4Addr.toList_toText octets, AddrParser.readIpv4Addr]
  simp [AddrParser.readSeparator, AddrParser.readGivenChar, first, second, third, fourth]

/-- An address is accepted from its dotted text. -/
theorem Ipv4Addr.parse_toText (addr : Ipv4Addr) : Ipv4Addr.parse addr.toText = .ok addr := by
  have octets : addr.octets = [(addr.bits >>> 24).toUInt8, (addr.bits >>> 16).toUInt8,
    (addr.bits >>> 8).toUInt8, addr.bits.toUInt8] := rfl
  have fits := Nat.not_lt_of_le (Ipv4Addr.length_toText_le octets)
  rw [Ipv4Addr.parse, if_neg fits, AddrParser.parseWith, Ipv4Addr.readIpv4Addr_toText octets,
    Ipv4Addr.new, Bytes.u32FromBe_be32]
  rfl

end NsProxy
