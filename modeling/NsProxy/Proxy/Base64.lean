import Mathlib.Algebra.Group.Nat.Defs
import NsProxy.Lib.Text

/-!
# Base64

`base64_encode` of `proxy/http.rs`, with a decoder for the standard alphabet that accepts
canonical padding only.
-/

namespace NsProxy.Base64

/-- `B64_ALPHABET`. -/
def alphabet : List UInt8 :=
  Text.asBytes "ABCDEFGHIJKLMNOPQRSTUVWXYZabcdefghijklmnopqrstuvwxyz0123456789+/"

/-- The character of a 6-bit group. -/
def char (index : UInt32) : UInt8 := alphabet.getD index.toNat 0

/-- `combined` of a chunk. -/
def combined (b0 b1 b2 : UInt8) : UInt32 :=
  (b0.toUInt32 <<< 16) ||| (b1.toUInt32 <<< 8) ||| b2.toUInt32

/-- The loop of `base64_encode`, with `=` (61) where a chunk is short. -/
def encodeBytes : List UInt8 → List UInt8
  | [] => []
  | [b0] =>
    [char ((combined b0 0 0 >>> 18) &&& 0x3F), char ((combined b0 0 0 >>> 12) &&& 0x3F), 61, 61]
  | [b0, b1] =>
    [char ((combined b0 b1 0 >>> 18) &&& 0x3F), char ((combined b0 b1 0 >>> 12) &&& 0x3F),
      char ((combined b0 b1 0 >>> 6) &&& 0x3F), 61]
  | b0 :: b1 :: b2 :: rest =>
    [char ((combined b0 b1 b2 >>> 18) &&& 0x3F), char ((combined b0 b1 b2 >>> 12) &&& 0x3F),
      char ((combined b0 b1 b2 >>> 6) &&& 0x3F), char (combined b0 b1 b2 &&& 0x3F)] ++
      encodeBytes rest

/-- `base64_encode`. -/
def base64Encode (input : List UInt8) : String :=
  String.ofList ((encodeBytes input).map Char.ofUInt8)

/-! ## Decoding -/

/-- The 6-bit value of a character of the standard alphabet. -/
def sextet (byte : UInt8) : Option Nat :=
  let code := byte.toNat
  if 65 ≤ code ∧ code ≤ 90 then some (code - 65)
  else if 97 ≤ code ∧ code ≤ 122 then some (code - 97 + 26)
  else if 48 ≤ code ∧ code ≤ 57 then some (code - 48 + 52)
  else if code = 43 then some 62
  else if code = 47 then some 63
  else none

/-- Decode groups of four characters; padding ends the text, and unused bits are zero. -/
def decode : List UInt8 → Option (List UInt8)
  | [] => some []
  | [c0, c1, 61, 61] => do
    let s0 ← sextet c0
    let s1 ← sextet c1
    if s1 % 16 = 0 then return [UInt8.ofNat (s0 * 4 + s1 / 16)] else none
  | [c0, c1, c2, 61] => do
    let s0 ← sextet c0
    let s1 ← sextet c1
    let s2 ← sextet c2
    if s2 % 4 = 0 then
      return [UInt8.ofNat (s0 * 4 + s1 / 16), UInt8.ofNat (s1 % 16 * 16 + s2 / 4)]
    else none
  | c0 :: c1 :: c2 :: c3 :: rest => do
    let s0 ← sextet c0
    let s1 ← sextet c1
    let s2 ← sextet c2
    let s3 ← sextet c3
    let bytes ← decode rest
    return UInt8.ofNat (s0 * 4 + s1 / 16) :: UInt8.ofNat (s1 % 16 * 16 + s2 / 4) ::
      UInt8.ofNat (s2 % 4 * 64 + s3) :: bytes
  | _ => none

/-- The alphabet is read back, and contains neither padding nor anything outside ASCII. -/
theorem alphabet_char (index : Fin 64) :
    sextet (alphabet.getD index 0) = some index ∧ alphabet.getD index 0 ≠ 61 ∧
      (alphabet.getD index 0).toNat < 128 ∧ 32 < (alphabet.getD index 0).toNat := by
  revert index
  decide +kernel

/-- A chunk as a number. -/
theorem combined_toNat (b0 b1 b2 : UInt8) :
    (combined b0 b1 b2).toNat = b0.toNat * 65536 + b1.toNat * 256 + b2.toNat := by
  have h0 := b0.toNat_lt
  have h1 := b1.toNat_lt
  have h2 := b2.toNat_lt
  have low : b1.toNat <<< 8 ||| b2.toNat = b1.toNat * 256 + b2.toNat := by
    rw [← Nat.shiftLeft_add_eq_or_of_lt h2, Nat.shiftLeft_eq]
  have whole : b0.toNat <<< 16 ||| (b1.toNat * 256 + b2.toNat) =
      b0.toNat * 65536 + (b1.toNat * 256 + b2.toNat) := by
    rw [← Nat.shiftLeft_add_eq_or_of_lt (by omega), Nat.shiftLeft_eq]
  have first : (b0.toUInt32 <<< 16).toNat = b0.toNat <<< 16 := by
    rw [UInt32.toNat_shiftLeft, UInt8.toNat_toUInt32, Nat.mod_eq_of_lt]
    · rfl
    · rw [Nat.shiftLeft_eq]
      exact Nat.lt_of_le_of_lt (Nat.mul_le_mul_right _ (Nat.le_of_lt_succ h0)) (by decide)
  have second : (b1.toUInt32 <<< 8).toNat = b1.toNat <<< 8 := by
    rw [UInt32.toNat_shiftLeft, UInt8.toNat_toUInt32, Nat.mod_eq_of_lt]
    · rfl
    · rw [Nat.shiftLeft_eq]
      exact Nat.lt_of_le_of_lt (Nat.mul_le_mul_right _ (Nat.le_of_lt_succ h1)) (by decide)
  rw [combined, UInt32.toNat_or, UInt32.toNat_or, first, second, UInt8.toNat_toUInt32,
    Nat.or_assoc, low, whole, Nat.add_assoc]

/-- What is known of the character of a 6-bit value. -/
structure IsChar (byte : UInt8) (value : Nat) : Prop where
  /-- It decodes to the value. -/
  decoded : sextet byte = some value
  /-- It is not the padding. -/
  unpadded : byte ≠ 61
  /-- It is a visible ASCII character. -/
  visible : 32 < byte.toNat ∧ byte.toNat < 128

/-- The character of a group of a chunk. -/
theorem char_group (b0 b1 b2 : UInt8) (shift : UInt32) (amount : Nat)
    (same : shift.toNat = amount) (small : amount < 32) :
    IsChar (char ((combined b0 b1 b2 >>> shift) &&& 0x3F))
      ((b0.toNat * 65536 + b1.toNat * 256 + b2.toNat) / 2 ^ amount % 64) := by
  have read : ((combined b0 b1 b2 >>> shift) &&& 0x3F).toNat =
      (b0.toNat * 65536 + b1.toNat * 256 + b2.toNat) / 2 ^ amount % 64 := by
    rw [UInt32.toNat_and, UInt32.toNat_shiftRight, same, Nat.mod_eq_of_lt small,
      Nat.shiftRight_eq_div_pow, combined_toNat]
    exact Nat.and_two_pow_sub_one_eq_mod _ 6
  have known := alphabet_char ⟨_, Nat.mod_lt
    ((b0.toNat * 65536 + b1.toNat * 256 + b2.toNat) / 2 ^ amount) (by decide : 0 < 64)⟩
  rw [char, read]
  exact ⟨known.1, known.2.1, known.2.2.2, known.2.2.1⟩

/-- The last group of a chunk needs no shift. -/
theorem char_last (b0 b1 b2 : UInt8) :
    IsChar (char (combined b0 b1 b2 &&& 0x3F))
      ((b0.toNat * 65536 + b1.toNat * 256 + b2.toNat) % 64) := by
  have group := char_group b0 b1 b2 0 0 rfl (by decide)
  rw [UInt32.shiftRight_zero] at group
  simpa using group

/-- A full group without padding decodes to three bytes and the rest. -/
theorem decode_group {c0 c1 c2 c3 : UInt8} {s0 s1 s2 s3 : Nat} (h0 : IsChar c0 s0)
    (h1 : IsChar c1 s1) (h2 : IsChar c2 s2) (h3 : IsChar c3 s3) (rest : List UInt8) :
    decode (c0 :: c1 :: c2 :: c3 :: rest) = (decode rest).map fun bytes =>
      UInt8.ofNat (s0 * 4 + s1 / 16) :: UInt8.ofNat (s1 % 16 * 16 + s2 / 4) ::
        UInt8.ofNat (s2 % 4 * 64 + s3) :: bytes := by
  rw [decode]
  · rw [h0.decoded, h1.decoded, h2.decoded, h3.decoded]
    cases decode rest <;> rfl
  · intro _ padded _
    exact h3.unpadded padded
  · intro padded _
    exact h3.unpadded padded

/-- A group with two padding characters decodes to one byte. -/
theorem decode_pair {c0 c1 : UInt8} {s0 s1 : Nat} (h0 : IsChar c0 s0) (h1 : IsChar c1 s1)
    (unused : s1 % 16 = 0) : decode [c0, c1, 61, 61] = some [UInt8.ofNat (s0 * 4 + s1 / 16)] := by
  rw [decode, h0.decoded, h1.decoded]
  simp only [Option.bind_eq_bind, Option.bind_some, unused, if_true]
  rfl

/-- A group with one padding character decodes to two bytes. -/
theorem decode_triple {c0 c1 c2 : UInt8} {s0 s1 s2 : Nat} (h0 : IsChar c0 s0)
    (h1 : IsChar c1 s1) (h2 : IsChar c2 s2) (unused : s2 % 4 = 0) :
    decode [c0, c1, c2, 61] =
      some [UInt8.ofNat (s0 * 4 + s1 / 16), UInt8.ofNat (s1 % 16 * 16 + s2 / 4)] := by
  rw [decode, h0.decoded, h1.decoded, h2.decoded]
  · simp only [Option.bind_eq_bind, Option.bind_some, unused, if_true]
    rfl
  · exact h2.unpadded

/-- Groups of six bits regrouped to bytes. -/
theorem regroup (b0 b1 b2 : UInt8) {value : Nat}
    (chunk : value = b0.toNat * 65536 + b1.toNat * 256 + b2.toNat) :
    UInt8.ofNat (value / 2 ^ 18 % 64 * 4 + value / 2 ^ 12 % 64 / 16) = b0 ∧
    UInt8.ofNat (value / 2 ^ 12 % 64 % 16 * 16 + value / 2 ^ 6 % 64 / 4) = b1 ∧
    UInt8.ofNat (value / 2 ^ 6 % 64 % 4 * 64 + value % 64) = b2 := by
  have byte (octet : UInt8) {number : Nat} (same : number = octet.toNat) :
      UInt8.ofNat number = octet := by
    rw [same]
    exact UInt8.ofNat_toNat
  have h0 := b0.toNat_lt
  have h1 := b1.toNat_lt
  have h2 := b2.toNat_lt
  exact ⟨byte b0 (by omega), byte b1 (by omega), byte b2 (by omega)⟩

/-- Decoding undoes encoding. -/
theorem decode_encodeBytes (input : List UInt8) : decode (encodeBytes input) = some input := by
  fun_induction encodeBytes input with
  | case1 => rfl
  | case2 b0 =>
    have unused : (b0.toNat * 65536 + (0 : UInt8).toNat * 256 + (0 : UInt8).toNat) / 2 ^ 12 % 64 %
        16 = 0 := by
      have : (0 : UInt8).toNat = 0 := rfl
      omega
    have bytes := regroup b0 0 0 rfl
    rw [decode_pair (char_group b0 0 0 18 18 rfl (by decide))
      (char_group b0 0 0 12 12 rfl (by decide)) unused, bytes.1]
  | case3 b0 b1 =>
    have unused : (b0.toNat * 65536 + b1.toNat * 256 + (0 : UInt8).toNat) / 2 ^ 6 % 64 % 4 =
        0 := by
      have : (0 : UInt8).toNat = 0 := rfl
      omega
    have bytes := regroup b0 b1 0 rfl
    rw [decode_triple (char_group b0 b1 0 18 18 rfl (by decide))
      (char_group b0 b1 0 12 12 rfl (by decide)) (char_group b0 b1 0 6 6 rfl (by decide)) unused,
      bytes.1, bytes.2.1]
  | case4 b0 b1 b2 rest ih =>
    have bytes := regroup b0 b1 b2 rfl
    rw [List.cons_append, List.cons_append, List.cons_append, List.cons_append, List.nil_append,
      decode_group (char_group b0 b1 b2 18 18 rfl (by decide))
        (char_group b0 b1 b2 12 12 rfl (by decide)) (char_group b0 b1 b2 6 6 rfl (by decide))
        (char_last b0 b1 b2), ih, bytes.1, bytes.2.1,
      bytes.2.2]
    rfl

/-! ## The shape of an encoding -/

/-- How many padding characters complete the last chunk of an input. -/
def padding (length : Nat) : Nat := (3 - length % 3) % 3

/-- The characters of an encoding before its padding. -/
structure Body (input body : List UInt8) : Prop where
  /-- The encoding is the body and the padding. -/
  padded : encodeBytes input = body ++ List.replicate (padding input.length) 61
  /-- The body has characters of the alphabet only. -/
  characters : ∀ byte ∈ body, byte ∈ alphabet
  /-- In its last character, the two bits that each padding character leaves over are zero. -/
  unused : ∀ last ∈ body.getLast?, ∃ value, sextet last = some value ∧
    value % 4 ^ padding input.length = 0

/-- Every character with a 6-bit value is in the alphabet. -/
theorem mem_alphabet_of_sextet {byte : UInt8} {value : Nat} (decoded : sextet byte = some value) :
    byte ∈ alphabet := by
  have all : ∀ code : Fin 256, (sextet (UInt8.ofNat code)).isSome →
      UInt8.ofNat code ∈ alphabet := by
    decide +kernel
  have known := all ⟨byte.toNat, byte.toNat_lt⟩
  rw [UInt8.ofNat_toNat, decoded] at known
  exact known rfl

/-- A byte that stands for a value is in the alphabet. -/
theorem IsChar.mem_alphabet {byte : UInt8} {value : Nat} (char : IsChar byte value) :
    byte ∈ alphabet := mem_alphabet_of_sextet char.decoded

/-- The alphabet has visible characters of ASCII alone. -/
theorem visible_alphabet : ∀ byte ∈ alphabet, 32 < byte.toNat ∧ byte.toNat < 128 := by
  decide +kernel

/-- Four characters for each chunk, a short one included. -/
theorem length_encodeBytes (input : List UInt8) :
    (encodeBytes input).length = 4 * ((input.length + 2) / 3) := by
  fun_induction encodeBytes input with
  | case1 => rfl
  | case2 b0 =>
    simp only [List.length_cons, List.length_nil]
  | case3 b0 b1 =>
    simp only [List.length_cons, List.length_nil]
  | case4 b0 b1 b2 rest ih =>
    rw [List.length_append, ih]
    simp only [List.length_cons, List.length_nil]
    omega

/-- Only the empty input has an empty body. -/
theorem Body.length_eq_zero {input : List UInt8} (empty : Body input []) : input.length = 0 := by
  have size := length_encodeBytes input
  rw [empty.padded, List.nil_append, List.length_replicate, padding] at size
  omega

/-- A full chunk in front of an input puts four characters in front of its body. -/
theorem Body.cons {input body : List UInt8} (rest : Body input body) (b0 b1 b2 : UInt8) :
    ∃ longer, Body (b0 :: b1 :: b2 :: input) longer := by
  have c0 := char_group b0 b1 b2 18 18 rfl (by decide)
  have c1 := char_group b0 b1 b2 12 12 rfl (by decide)
  have c2 := char_group b0 b1 b2 6 6 rfl (by decide)
  have c3 := char_last b0 b1 b2
  have same : padding (b0 :: b1 :: b2 :: input).length = padding input.length := by
    simp only [padding, List.length_cons]
    omega
  have chunk (byte : UInt8) (member : byte ∈ [char ((combined b0 b1 b2 >>> 18) &&& 0x3F),
      char ((combined b0 b1 b2 >>> 12) &&& 0x3F), char ((combined b0 b1 b2 >>> 6) &&& 0x3F),
      char (combined b0 b1 b2 &&& 0x3F)]) : byte ∈ alphabet := by
    simp only [List.mem_cons, List.not_mem_nil, or_false] at member
    rcases member with rfl | rfl | rfl | rfl
    · exact c0.mem_alphabet
    · exact c1.mem_alphabet
    · exact c2.mem_alphabet
    · exact c3.mem_alphabet
  have encoded := encodeBytes.eq_4 b0 b1 b2 input
  rw [rest.padded, ← same, ← List.append_assoc] at encoded
  refine ⟨_, encoded, ?_, ?_⟩
  · intro byte member
    rcases List.mem_append.mp member with first | later
    · exact chunk byte first
    · exact rest.characters byte later
  · intro last final
    rw [same]
    by_cases empty : body = []
    · -- The chunk is the last one, so nothing is padded.
      subst empty
      have zero := rest.length_eq_zero
      rw [List.append_nil] at final
      have final : char (combined b0 b1 b2 &&& 0x3F) = last := Option.some.inj final
      refine ⟨_, final ▸ c3.decoded, ?_⟩
      rw [zero]
      exact Nat.mod_one _
    · rw [List.getLast?_append_of_ne_nil _ empty] at final
      exact rest.unused last final

/-- Every encoding is a body and its padding. -/
theorem exists_body (input : List UInt8) : ∃ body, Body input body := by
  fun_induction encodeBytes input with
  | case1 =>
    refine ⟨[], rfl, fun byte member => absurd member List.not_mem_nil, ?_⟩
    intro last final
    exact absurd final (by simp)
  | case2 b0 =>
    have c0 := char_group b0 0 0 18 18 rfl (by decide)
    have c1 := char_group b0 0 0 12 12 rfl (by decide)
    refine ⟨[_, _], rfl, ?_, ?_⟩
    · intro byte member
      simp only [List.mem_cons, List.not_mem_nil, or_false] at member
      rcases member with rfl | rfl
      · exact c0.mem_alphabet
      · exact c1.mem_alphabet
    · intro last final
      have final : char ((combined b0 0 0 >>> 12) &&& 0x3F) = last := Option.some.inj final
      refine ⟨_, final ▸ c1.decoded, ?_⟩
      have zero : (0 : UInt8).toNat = 0 := rfl
      show _ % 16 = 0
      omega
  | case3 b0 b1 =>
    have c0 := char_group b0 b1 0 18 18 rfl (by decide)
    have c1 := char_group b0 b1 0 12 12 rfl (by decide)
    have c2 := char_group b0 b1 0 6 6 rfl (by decide)
    refine ⟨[_, _, _], rfl, ?_, ?_⟩
    · intro byte member
      simp only [List.mem_cons, List.not_mem_nil, or_false] at member
      rcases member with rfl | rfl | rfl
      · exact c0.mem_alphabet
      · exact c1.mem_alphabet
      · exact c2.mem_alphabet
    · intro last final
      have final : char ((combined b0 b1 0 >>> 6) &&& 0x3F) = last := Option.some.inj final
      refine ⟨_, final ▸ c2.decoded, ?_⟩
      have zero : (0 : UInt8).toNat = 0 := rfl
      show _ % 4 = 0
      omega
  | case4 b0 b1 b2 rest ih =>
    obtain ⟨body, shape⟩ := ih
    exact shape.cons b0 b1 b2

/-- The encoding consists of visible ASCII characters. -/
theorem visible_encodeBytes {input : List UInt8} {byte : UInt8}
    (member : byte ∈ encodeBytes input) : 32 < byte.toNat ∧ byte.toNat < 128 := by
  obtain ⟨body, shape⟩ := exists_body input
  rw [shape.padded] at member
  rcases List.mem_append.mp member with inside | pad
  · exact visible_alphabet byte (shape.characters byte inside)
  · rw [List.eq_of_mem_replicate pad]
    decide

/-- The text of the encoding has the bytes of the encoding. -/
theorem asBytes_base64Encode (input : List UInt8) :
    Text.asBytes (base64Encode input) = encodeBytes input :=
  Text.asBytes_ofUInt8 fun _ member => (visible_encodeBytes member).2

/-- No two byte strings have the same encoding. -/
theorem base64Encode_injective : Function.Injective base64Encode := by
  intro left right same
  have bytes : encodeBytes left = encodeBytes right := by
    rw [← asBytes_base64Encode, ← asBytes_base64Encode, same]
  have decoded : some left = some right := by
    rw [← decode_encodeBytes, ← decode_encodeBytes, bytes]
  exact Option.some.inj decoded

/-- `base64_encode` is invertible and canonical, and its bytes are ASCII as they stand. -/
theorem base64Encode_canonical (input : List UInt8) :
    (Text.asBytes (base64Encode input)).length = 4 * ((input.length + 2) / 3) ∧
    (∃ body, Text.asBytes (base64Encode input) =
        body ++ List.replicate ((3 - input.length % 3) % 3) 61 ∧
      (∀ byte ∈ body, byte ∈ alphabet) ∧
      ∀ last ∈ body.getLast?, ∃ value, sextet last = some value ∧
        value % 4 ^ ((3 - input.length % 3) % 3) = 0) ∧
    decode (Text.asBytes (base64Encode input)) = some input ∧
    Function.Injective base64Encode ∧
    Text.asBytes (base64Encode input) = encodeBytes input ∧
    ∀ byte ∈ encodeBytes input, byte.toNat < 128 := by
  obtain ⟨body, shape⟩ := exists_body input
  rw [asBytes_base64Encode]
  refine ⟨length_encodeBytes input, ⟨body, shape.padded, shape.characters, shape.unused⟩,
    decode_encodeBytes input, base64Encode_injective, rfl, ?_⟩
  intro byte member
  exact (visible_encodeBytes member).2

end NsProxy.Base64
