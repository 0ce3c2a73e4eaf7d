import Mathlib.Data.List.Basic

/-!
# Big-endian words

Network fields are big-endian. A word is written as its bytes, most significant first,
and read back from them; the two directions are inverse to each other, so a field
determines its bytes and the bytes determine the field.
-/

namespace NsProxy.Bytes

/-- `u16::to_be_bytes`. -/
def be16 (word : UInt16) : List UInt8 :=
  [(word >>> 8).toUInt8, word.toUInt8]

/-- `u32::to_be_bytes`. -/
def be32 (word : UInt32) : List UInt8 :=
  [(word >>> 24).toUInt8, (word >>> 16).toUInt8, (word >>> 8).toUInt8, word.toUInt8]

/-- `u16::from_be_bytes`. -/
def u16FromBe (high low : UInt8) : UInt16 :=
  (high.toUInt16 <<< 8) ||| low.toUInt16

/-- `u32::from_be_bytes`. -/
def u32FromBe (b0 b1 b2 b3 : UInt8) : UInt32 :=
  (b0.toUInt32 <<< 24) ||| (b1.toUInt32 <<< 16) ||| (b2.toUInt32 <<< 8) ||| b3.toUInt32

/-- A 16-bit word has two bytes. -/
@[simp] theorem length_be16 (word : UInt16) : (be16 word).length = 2 := rfl

/-- A 32-bit word has four bytes. -/
@[simp] theorem length_be32 (word : UInt32) : (be32 word).length = 4 := rfl

/-- What holds of the 256 byte values holds of every byte. -/
theorem forall_byte (property : UInt8 → Prop)
    (values : ∀ value < 256, property (UInt8.ofNat value)) (byte : UInt8) : property byte := by
  have same := values byte.toNat byte.toNat_lt
  rwa [UInt8.ofNat_toNat] at same

/-- A 16-bit word read from two bytes is their positional value. -/
theorem toNat_u16FromBe (high low : UInt8) :
    (u16FromBe high low).toNat = high.toNat * 256 + low.toNat := by
  have hh := high.toNat_lt
  have hl := low.toNat_lt
  simp only [u16FromBe, UInt16.toNat_or, UInt16.toNat_shiftLeft, UInt8.toNat_toUInt16]
  change high.toNat <<< 8 % 2 ^ 16 ||| low.toNat = _
  rw [Nat.mod_eq_of_lt (by rw [Nat.shiftLeft_eq]; omega),
    ← Nat.shiftLeft_add_eq_or_of_lt (by omega), Nat.shiftLeft_eq]

/-- Reading the bytes of a 16-bit word returns the word. -/
theorem u16FromBe_be16 (word : UInt16) :
    u16FromBe (word >>> 8).toUInt8 word.toUInt8 = word := by
  apply UInt16.toNat_inj.mp
  rw [toNat_u16FromBe, UInt16.toNat_toUInt8, UInt16.toNat_toUInt8, UInt16.toNat_shiftRight]
  change word.toNat >>> 8 % 2 ^ 8 * 256 + word.toNat % 2 ^ 8 = word.toNat
  have bound := word.toNat_lt
  rw [Nat.shiftRight_eq_div_pow]
  omega

/-- Two bytes are the encoding of the word they read as. -/
theorem be16_u16FromBe (high low : UInt8) : be16 (u16FromBe high low) = [high, low] := by
  have hh := high.toNat_lt
  have hl := low.toNat_lt
  have value := toNat_u16FromBe high low
  have first : (u16FromBe high low >>> 8).toUInt8 = high := by
    apply UInt8.toNat_inj.mp
    rw [UInt16.toNat_toUInt8, UInt16.toNat_shiftRight, value]
    change (high.toNat * 256 + low.toNat) >>> 8 % 2 ^ 8 = high.toNat
    rw [Nat.shiftRight_eq_div_pow]
    omega
  have second : (u16FromBe high low).toUInt8 = low := by
    apply UInt8.toNat_inj.mp
    rw [UInt16.toNat_toUInt8, value]
    omega
  rw [be16, first, second]

/-- A 32-bit word read from four bytes is their positional value. -/
theorem toNat_u32FromBe (b0 b1 b2 b3 : UInt8) :
    (u32FromBe b0 b1 b2 b3).toNat =
      ((b0.toNat * 256 + b1.toNat) * 256 + b2.toNat) * 256 + b3.toNat := by
  have h0 := b0.toNat_lt
  have h1 := b1.toNat_lt
  have h2 := b2.toNat_lt
  have h3 := b3.toNat_lt
  simp only [u32FromBe, UInt32.toNat_or, UInt32.toNat_shiftLeft, UInt8.toNat_toUInt32]
  change b0.toNat <<< 24 % 2 ^ 32 ||| b1.toNat <<< 16 % 2 ^ 32 ||| b2.toNat <<< 8 % 2 ^ 32 |||
    b3.toNat = _
  rw [Nat.mod_eq_of_lt (by rw [Nat.shiftLeft_eq]; omega),
    Nat.mod_eq_of_lt (by rw [Nat.shiftLeft_eq]; omega),
    Nat.mod_eq_of_lt (by rw [Nat.shiftLeft_eq]; omega)]
  have top : b0.toNat <<< 24 ||| b1.toNat <<< 16 = (b0.toNat * 256 + b1.toNat) <<< 16 := by
    rw [← Nat.shiftLeft_add_eq_or_of_lt (by rw [Nat.shiftLeft_eq]; omega), Nat.shiftLeft_eq,
      Nat.shiftLeft_eq, Nat.shiftLeft_eq]
    omega
  have middle : (b0.toNat * 256 + b1.toNat) <<< 16 ||| b2.toNat <<< 8 =
      ((b0.toNat * 256 + b1.toNat) * 256 + b2.toNat) <<< 8 := by
    rw [← Nat.shiftLeft_add_eq_or_of_lt (by rw [Nat.shiftLeft_eq]; omega), Nat.shiftLeft_eq,
      Nat.shiftLeft_eq, Nat.shiftLeft_eq]
    omega
  rw [top, middle, ← Nat.shiftLeft_add_eq_or_of_lt h3, Nat.shiftLeft_eq]

/-- Reading the bytes of a 32-bit word returns the word. -/
theorem u32FromBe_be32 (word : UInt32) :
    u32FromBe (word >>> 24).toUInt8 (word >>> 16).toUInt8 (word >>> 8).toUInt8 word.toUInt8 =
      word := by
  apply UInt32.toNat_inj.mp
  simp only [toNat_u32FromBe, UInt32.toNat_toUInt8, UInt32.toNat_shiftRight]
  change ((word.toNat >>> 24 % 2 ^ 8 * 256 + word.toNat >>> 16 % 2 ^ 8) * 256 +
    word.toNat >>> 8 % 2 ^ 8) * 256 + word.toNat % 2 ^ 8 = word.toNat
  have bound := word.toNat_lt
  simp only [Nat.shiftRight_eq_div_pow]
  omega

/-- Four bytes are the encoding of the word they read as. -/
theorem be32_u32FromBe (b0 b1 b2 b3 : UInt8) :
    be32 (u32FromBe b0 b1 b2 b3) = [b0, b1, b2, b3] := by
  have h0 := b0.toNat_lt
  have h1 := b1.toNat_lt
  have h2 := b2.toNat_lt
  have h3 := b3.toNat_lt
  have value := toNat_u32FromBe b0 b1 b2 b3
  have first : (u32FromBe b0 b1 b2 b3 >>> 24).toUInt8 = b0 := by
    apply UInt8.toNat_inj.mp
    rw [UInt32.toNat_toUInt8, UInt32.toNat_shiftRight, value]
    change (_ >>> 24) % 2 ^ 8 = b0.toNat
    rw [Nat.shiftRight_eq_div_pow]
    omega
  have second : (u32FromBe b0 b1 b2 b3 >>> 16).toUInt8 = b1 := by
    apply UInt8.toNat_inj.mp
    rw [UInt32.toNat_toUInt8, UInt32.toNat_shiftRight, value]
    change (_ >>> 16) % 2 ^ 8 = b1.toNat
    rw [Nat.shiftRight_eq_div_pow]
    omega
  have third : (u32FromBe b0 b1 b2 b3 >>> 8).toUInt8 = b2 := by
    apply UInt8.toNat_inj.mp
    rw [UInt32.toNat_toUInt8, UInt32.toNat_shiftRight, value]
    change (_ >>> 8) % 2 ^ 8 = b2.toNat
    rw [Nat.shiftRight_eq_div_pow]
    omega
  have fourth : (u32FromBe b0 b1 b2 b3).toUInt8 = b3 := by
    apply UInt8.toNat_inj.mp
    rw [UInt32.toNat_toUInt8, value]
    omega
  rw [be32, first, second, third, fourth]

end NsProxy.Bytes
