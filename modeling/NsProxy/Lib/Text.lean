import Mathlib.Data.List.Basic
import Mathlib.Data.List.TakeWhile

/-!
# Text as bytes

A `str` of the source is a sequence of Unicode scalar values stored as UTF-8, which is what
Lean's `String` is. This module fixes the byte view, the checked conversion from bytes, and
splitting at one character, and relates the three: bytes of a concatenation, the inverse of
the checked conversion, and which bytes can occur in the encoding of a character.
-/

namespace NsProxy.Text

/-- `str::as_bytes`. -/
def asBytes (text : String) : List UInt8 := text.toByteArray.data.toList

/-- `std::str::from_utf8(..).ok()`. -/
def fromUtf8 (bytes : List UInt8) : Option String := String.fromUTF8? bytes.toByteArray

/-- `str::split` at one character. -/
def split (text : String) (separator : Char) : List String :=
  (text.toList.splitOn separator).map String.ofList

/-- `str::split_once` at one character: the parts around its first occurrence. -/
def splitOnce (text : String) (separator : Char) : Option (String × String) :=
  match text.toList.dropWhile (· ≠ separator) with
  | [] => none
  | _ :: after => some (String.ofList (text.toList.takeWhile (· ≠ separator)), String.ofList after)

/-- `str::rsplit_once` at one character: the parts around its last occurrence. -/
def rsplitOnce (text : String) (separator : Char) : Option (String × String) :=
  match text.toList.reverse.dropWhile (· ≠ separator) with
  | [] => none
  | _ :: before =>
    some (String.ofList before.reverse,
      String.ofList (text.toList.reverse.takeWhile (· ≠ separator)).reverse)

/-- `str::strip_prefix`. -/
def stripPrefix (text start : String) : Option String :=
  (start.toList.isPrefixOf? text.toList).map String.ofList

/-- `char::is_whitespace`: the Unicode property `White_Space`. -/
def isWhitespace (char : Char) : Bool :=
  let code := char.toNat
  (0x09 ≤ code ∧ code ≤ 0x0D) ∨ code = 0x20 ∨ code = 0x85 ∨ code = 0xA0 ∨ code = 0x1680 ∨
    (0x2000 ≤ code ∧ code ≤ 0x200A) ∨ code = 0x2028 ∨ code = 0x2029 ∨ code = 0x202F ∨
    code = 0x205F ∨ code = 0x3000

/-- The bytes of a text are the encodings of its characters in order. -/
theorem asBytes_eq_flatMap (text : String) :
    asBytes text = text.toList.flatMap String.utf8EncodeChar := by
  rw [asBytes, ← String.utf8Encode_toList, List.utf8Encode]
  simp

/-- The bytes of two texts are those of the first and then those of the second. -/
theorem asBytes_append (left right : String) :
    asBytes (left ++ right) = asBytes left ++ asBytes right := by
  simp [asBytes_eq_flatMap]

/-- The bytes of a list of characters are their encodings in order. -/
theorem asBytes_ofList (chars : List Char) :
    asBytes (String.ofList chars) = chars.flatMap String.utf8EncodeChar := by
  simp [asBytes_eq_flatMap]

/-- A text is determined by its bytes. -/
theorem asBytes_inj {left right : String} : asBytes left = asBytes right ↔ left = right := by
  constructor
  · intro same
    apply String.toByteArray_inj.mp
    apply ByteArray.ext
    exact Array.toList_inj.mp same
  · rintro rfl
    rfl

/-- Converting a text to bytes and back to a byte array changes nothing. -/
theorem toByteArray_asBytes (text : String) : (asBytes text).toByteArray = text.toByteArray := by
  apply ByteArray.ext
  apply Array.toList_inj.mp
  simp [asBytes]

/-- The checked conversion accepts exactly the encodings, each as its own text. -/
theorem fromUtf8_eq_some_iff (bytes : List UInt8) (text : String) :
    fromUtf8 bytes = some text ↔ asBytes text = bytes := by
  unfold fromUtf8 String.fromUTF8?
  constructor
  · intro decoded
    split at decoded
    · rename_i valid
      rw [← Option.some.inj decoded]
      simp [asBytes, String.fromUTF8]
    · contradiction
  · rintro rfl
    rw [toByteArray_asBytes, dif_pos text.isValidUTF8]
    rfl

/-- The bytes of a text are read back as that text. -/
@[simp] theorem fromUtf8_asBytes (text : String) : fromUtf8 (asBytes text) = some text :=
  (fromUtf8_eq_some_iff _ _).mpr rfl

/-- A byte below 128 occurs only as the whole encoding of its own character. -/
theorem ascii_mem_utf8EncodeChar {char : Char} {byte : UInt8} (ascii : byte.toNat < 128) :
    byte ∈ String.utf8EncodeChar char ↔ char.toNat = byte.toNat := by
  have word (value : Nat) : byte = UInt8.ofNat value ↔ byte.toNat = value % 256 := by
    rw [← UInt8.toNat_inj, UInt8.toNat_ofNat']
  have reading : char.toNat = char.val.toNat := rfl
  unfold String.utf8EncodeChar
  dsimp only
  -- Every byte of a longer encoding carries its high bit, so only the first branch can match.
  split
  · simp only [List.mem_singleton, word]
    omega
  · split
    · simp only [List.mem_cons, List.not_mem_nil, or_false, word]
      omega
    · split
      · simp only [List.mem_cons, List.not_mem_nil, or_false, word]
        omega
      · simp only [List.mem_cons, List.not_mem_nil, or_false, word]
        omega

/-- The code point of a byte taken as a character. -/
theorem toNat_ofUInt8 (byte : UInt8) : (Char.ofUInt8 byte).val.toNat = byte.toNat := by
  show byte.toUInt32.toNat = byte.toNat
  exact UInt8.toNat_toUInt32 byte

/-- ASCII bytes taken as characters encode to themselves. -/
theorem asBytes_ofUInt8 {bytes : List UInt8} (ascii : ∀ byte ∈ bytes, byte.toNat < 128) :
    asBytes (String.ofList (bytes.map Char.ofUInt8)) = bytes := by
  rw [asBytes_ofList]
  induction bytes with
  | nil => rfl
  | cons byte rest ih =>
    have small := ascii byte List.mem_cons_self
    have encoded : String.utf8EncodeChar (Char.ofUInt8 byte) = [byte] := by
      unfold String.utf8EncodeChar
      simp only [toNat_ofUInt8]
      rw [if_pos (by omega)]
      simp
    rw [List.map_cons, List.flatMap_cons, encoded,
      ih fun other member => ascii other (List.mem_cons_of_mem _ member)]
    rfl

/-- ASCII text has a byte for each character. -/
theorem length_asBytes_of_ascii {text : String} (ascii : ∀ char ∈ text.toList, char.toNat < 128) :
    (asBytes text).length = text.toList.length := by
  rw [asBytes_eq_flatMap]
  generalize text.toList = chars at ascii ⊢
  induction chars with
  | nil => rfl
  | cons char rest ih =>
    have small := ascii char List.mem_cons_self
    have single : char.utf8Size = 1 := by
      rw [Char.utf8Size_eq_one_iff, UInt32.le_iff_toNat_le]
      exact Nat.le_of_lt_succ small
    rw [List.flatMap_cons, List.length_append, String.length_utf8EncodeChar, single,
      ih fun other member => ascii other (List.mem_cons_of_mem _ member), List.length_cons,
      Nat.add_comm]

/-- An ASCII character occurs in a text exactly when its byte occurs in the bytes. -/
theorem ascii_mem_asBytes {char : Char} {byte : UInt8} (ascii : byte.toNat < 128)
    (same : char.toNat = byte.toNat) (text : String) :
    byte ∈ asBytes text ↔ char ∈ text.toList := by
  rw [asBytes_eq_flatMap, List.mem_flatMap]
  constructor
  · rintro ⟨other, inside, encoded⟩
    have value := (ascii_mem_utf8EncodeChar ascii).mp encoded
    rwa [Char.toNat_inj.mp (same.trans value.symm)]
  · intro inside
    exact ⟨char, inside, (ascii_mem_utf8EncodeChar ascii).mpr same⟩

/-- Splitting at a character that no part contains returns the parts that were joined. -/
theorem split_intercalate {separator : Char} {parts : List String} (nonempty : parts ≠ [])
    (absent : ∀ part ∈ parts, separator ∉ part.toList) :
    split ((String.singleton separator).intercalate parts) separator = parts := by
  rw [split, String.toList_intercalate, String.toList_singleton, List.splitOn_intercalate]
  · simp
  · intro chars inside
    obtain ⟨part, member, rfl⟩ := List.mem_map.mp inside
    exact absent part member
  · simpa using nonempty

/-- No piece of a list split at an element contains that element. -/
theorem not_mem_of_mem_splitOn {α : Type} [DecidableEq α] {separator : α} {list piece : List α}
    (inside : piece ∈ list.splitOn separator) : separator ∉ piece := by
  induction list generalizing piece with
  | nil =>
    rw [List.splitOn_nil, List.mem_singleton] at inside
    simp [inside]
  | cons head tail ih =>
    rw [List.splitOn_cons_eq_if_modifyHead] at inside
    cases pieces : tail.splitOn separator with
    | nil => exact absurd pieces (List.splitOn_ne_nil _ _)
    | cons first rest =>
      rw [pieces] at inside ih
      split at inside
      · rcases List.mem_cons.mp inside with rfl | later
        · simp
        · exact ih later
      · rename_i different
        simp only [List.modifyHead_cons, List.mem_cons] at inside
        rcases inside with rfl | later
        · simp only [List.mem_cons, not_or]
          exact ⟨fun same => different (by simp [same]), ih List.mem_cons_self⟩
        · exact ih (List.mem_cons_of_mem _ later)

/-- No part of a split contains the separator. -/
theorem separator_not_mem_split {separator : Char} {text part : String}
    (inside : part ∈ split text separator) : separator ∉ part.toList := by
  obtain ⟨chars, member, rfl⟩ := List.mem_map.mp inside
  rw [String.toList_ofList]
  exact not_mem_of_mem_splitOn member

/-- Joining the parts of a split gives the text back. -/
theorem intercalate_split (text : String) (separator : Char) :
    (String.singleton separator).intercalate (split text separator) = text := by
  apply String.toList_inj.mp
  rw [split, String.toList_intercalate, String.toList_singleton, List.map_map]
  have identity : String.toList ∘ String.ofList = id := by
    funext chars
    simp
  rw [identity, List.map_id, List.intercalate_splitOn]

/-- Stripping finds what follows a given start. -/
theorem stripPrefix_eq_some_iff {text start rest : String} :
    stripPrefix text start = some rest ↔ text = start ++ rest := by
  rw [stripPrefix, Option.map_eq_some_iff]
  constructor
  · rintro ⟨chars, stripped, rfl⟩
    rw [List.isPrefixOf?_eq_some_iff_append_eq] at stripped
    rw [← String.toList_inj, String.toList_append, String.toList_ofList, stripped]
  · rintro rfl
    refine ⟨rest.toList, ?_, String.ofList_toList⟩
    rw [List.isPrefixOf?_eq_some_iff_append_eq, String.toList_append]

/-- Splitting once finds the parts around the first separator. -/
theorem splitOnce_eq_some_iff {separator : Char} {text before after : String} :
    splitOnce text separator = some (before, after) ↔
      text = before ++ String.singleton separator ++ after ∧ separator ∉ before.toList := by
  unfold splitOnce
  constructor
  · intro found
    have pieces := List.takeWhile_append_dropWhile (p := (· ≠ separator)) (l := text.toList)
    split at found
    · contradiction
    · rename_i head tail rest
      simp only [Option.some.injEq, Prod.mk.injEq] at found
      obtain ⟨rfl, rfl⟩ := found
      have separated : head = separator := by
        have stopped := List.head?_dropWhile_not (fun char => decide (char ≠ separator)) text.toList
        rw [rest] at stopped
        simpa using stopped
      constructor
      · rw [← String.toList_inj]
        rw [rest, separated] at pieces
        simpa using pieces.symm
      · intro member
        rw [String.toList_ofList] at member
        simpa using List.mem_takeWhile_imp member
  · rintro ⟨rfl, absent⟩
    have passes : ∀ char ∈ before.toList, (decide (char ≠ separator)) = true := by
      intro char member
      simp only [decide_eq_true_eq]
      rintro rfl
      exact absent member
    simp only [String.toList_append, String.toList_singleton, List.append_assoc,
      List.singleton_append]
    rw [List.dropWhile_append_of_pos passes, List.takeWhile_append_of_pos passes]
    simp

/-- Splitting once fails exactly where the separator does not occur. -/
theorem splitOnce_eq_none_iff {separator : Char} {text : String} :
    splitOnce text separator = none ↔ separator ∉ text.toList := by
  unfold splitOnce
  split
  · rename_i exhausted
    rw [List.dropWhile_eq_nil_iff] at exhausted
    simp only [true_iff]
    intro member
    simpa using exhausted separator member
  · rename_i head tail rest
    simp only [reduceCtorEq, false_iff, not_not]
    by_contra absent
    have exhausted : text.toList.dropWhile (· ≠ separator) = [] := by
      rw [List.dropWhile_eq_nil_iff]
      intro char member
      simp only [ne_eq, decide_eq_true_eq]
      rintro rfl
      exact absent member
    rw [exhausted] at rest
    contradiction

/-- Splitting from the right is splitting the reversed text. -/
theorem rsplitOnce_eq (text : String) (separator : Char) :
    rsplitOnce text separator =
      (splitOnce (String.ofList text.toList.reverse) separator).map fun parts =>
        (String.ofList parts.2.toList.reverse, String.ofList parts.1.toList.reverse) := by
  unfold rsplitOnce splitOnce
  rw [String.toList_ofList]
  cases text.toList.reverse.dropWhile (· ≠ separator) with
  | nil => rfl
  | cons head tail => simp

/-- Splitting from the right finds the parts around the last separator. -/
theorem rsplitOnce_eq_some_iff {separator : Char} {text before after : String} :
    rsplitOnce text separator = some (before, after) ↔
      text = before ++ String.singleton separator ++ after ∧ separator ∉ after.toList := by
  rw [rsplitOnce_eq, Option.map_eq_some_iff]
  constructor
  · rintro ⟨⟨left, right⟩, found, same⟩
    obtain ⟨whole, absent⟩ := splitOnce_eq_some_iff.mp found
    rw [Prod.mk.injEq] at same
    obtain ⟨rfl, rfl⟩ := same
    constructor
    · rw [← String.toList_inj, String.toList_ofList] at whole
      have forward := congrArg List.reverse whole
      rw [← String.toList_inj]
      simpa using forward
    · simpa using absent
  · rintro ⟨rfl, absent⟩
    refine ⟨(String.ofList after.toList.reverse, String.ofList before.toList.reverse), ?_, ?_⟩
    · apply splitOnce_eq_some_iff.mpr
      constructor
      · rw [← String.toList_inj]
        simp
      · simpa using absent
    · simp

/-- Splitting from the right fails exactly where the separator does not occur. -/
theorem rsplitOnce_eq_none_iff {separator : Char} {text : String} :
    rsplitOnce text separator = none ↔ separator ∉ text.toList := by
  rw [rsplitOnce_eq, Option.map_eq_none_iff, splitOnce_eq_none_iff]
  simp

end NsProxy.Text
