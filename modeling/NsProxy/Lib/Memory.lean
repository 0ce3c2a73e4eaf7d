import NsProxy.Lib.Bytes

/-!
# Blocks of memory

A block of a fixed size, read and written at an offset. A value that was written is read back,
and a read that does not meet it is not affected. A number stored in the order of the machine
after its conversion to big endian lies in memory as its big-endian bytes, on either machine.
-/

namespace NsProxy

/-- The order in which a machine stores the bytes of a number. -/
inductive Endian
  | little
  | big
  deriving DecidableEq, Repr

namespace Endian

/-- Bytes, given most significant first, in the order of the machine. -/
def arrange : Endian → List UInt8 → List UInt8
  | .little, bytes => bytes.reverse
  | .big, bytes => bytes

/-- A 16-bit number in memory. -/
def store16 (endian : Endian) (word : UInt16) : List UInt8 := endian.arrange (Bytes.be16 word)

/-- A 32-bit number in memory. -/
def store32 (endian : Endian) (word : UInt32) : List UInt8 := endian.arrange (Bytes.be32 word)

/-- The 16-bit number that the bytes in memory are. -/
def load16 (endian : Endian) (bytes : List UInt8) : UInt16 :=
  match endian.arrange bytes with
  | [high, low] => Bytes.u16FromBe high low
  | _ => 0

/-- The 32-bit number that the bytes in memory are. -/
def load32 (endian : Endian) (bytes : List UInt8) : UInt32 :=
  match endian.arrange bytes with
  | [b0, b1, b2, b3] => Bytes.u32FromBe b0 b1 b2 b3
  | _ => 0

/-- The conversion of a number to big endian. -/
def toBe : Endian → UInt32 → UInt32
  | .little, word =>
    match (Bytes.be32 word).reverse with
    | [b0, b1, b2, b3] => Bytes.u32FromBe b0 b1 b2 b3
    | _ => 0
  | .big, word => word

/-- The byte order is undone by applying it again. -/
@[simp] theorem arrange_arrange (endian : Endian) (bytes : List UInt8) :
    endian.arrange (endian.arrange bytes) = bytes := by
  cases endian <;> simp [arrange]

/-- The byte order changes no length. -/
@[simp] theorem length_arrange (endian : Endian) (bytes : List UInt8) :
    (endian.arrange bytes).length = bytes.length := by
  cases endian <;> simp [arrange]

/-- A stored 16-bit word has two bytes. -/
@[simp] theorem length_store16 (endian : Endian) (word : UInt16) :
    (endian.store16 word).length = 2 := by
  simp [store16]

/-- A stored 32-bit word has four bytes. -/
@[simp] theorem length_store32 (endian : Endian) (word : UInt32) :
    (endian.store32 word).length = 4 := by
  simp [store32]

/-- A 16-bit number is loaded as it was stored. -/
@[simp] theorem load16_store16 (endian : Endian) (word : UInt16) :
    endian.load16 (endian.store16 word) = word := by
  have back := Bytes.u16FromBe_be16 word
  simpa [load16, store16, Bytes.be16] using back

/-- A 32-bit number is loaded as it was stored. -/
@[simp] theorem load32_store32 (endian : Endian) (word : UInt32) :
    endian.load32 (endian.store32 word) = word := by
  have back := Bytes.u32FromBe_be32 word
  simpa [load32, store32, Bytes.be32] using back

/-- A number that was converted lies in memory as its big-endian bytes. -/
@[simp] theorem store32_toBe (endian : Endian) (word : UInt32) :
    endian.store32 (endian.toBe word) = Bytes.be32 word := by
  cases endian with
  | big => rfl
  | little =>
    have swapped : Endian.little.toBe word = Bytes.u32FromBe word.toUInt8 (word >>> 8).toUInt8
        (word >>> 16).toUInt8 (word >>> 24).toUInt8 := rfl
    rw [store32, swapped, Bytes.be32_u32FromBe]
    rfl

end Endian

/-- A block of memory. -/
abbrev Block (size : Nat) : Type := Fin size → UInt8

namespace Block

variable {size : Nat}

/-- A block of zeroes. -/
def zeroed : Block size := fun _ => 0

/-- Bytes are written at an offset. -/
def write (block : Block size) (offset : Nat) (bytes : List UInt8) : Block size := fun index =>
  if offset ≤ index then bytes.getD (index - offset) (block index) else block index

/-- The bytes at an offset. -/
def read (block : Block size) (offset count : Nat) : List UInt8 :=
  (List.range count).map fun index =>
    if inside : offset + index < size then block ⟨offset + index, inside⟩ else 0

/-- A read brings as many bytes as it asks for. -/
@[simp] theorem length_read (block : Block size) (offset count : Nat) :
    (block.read offset count).length = count := by
  simp [read]

/-- What was written is read back. -/
theorem read_write (block : Block size) (offset : Nat) (bytes : List UInt8) {count : Nat}
    (whole : bytes.length = count) (fits : offset + count ≤ size) :
    (block.write offset bytes).read offset count = bytes := by
  apply List.ext_getElem
  · simp [whole]
  · intro index short long
    have inside : offset + index < size := by omega
    simp [read, write, inside, long]

/-- A read in front of what was written is not affected. -/
theorem read_write_after (block : Block size) {offset count later : Nat} {bytes : List UInt8}
    (apart : offset + count ≤ later) :
    (block.write later bytes).read offset count = block.read offset count := by
  apply List.ext_getElem
  · simp
  · intro index short long
    have before : ¬ later ≤ offset + index := by
      rw [length_read] at short
      omega
    simp [read, write, before]

end Block

end NsProxy
