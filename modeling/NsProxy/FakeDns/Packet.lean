import Mathlib.Data.Nat.Bitwise
import NsProxy.Net
import NsProxy.Lib.Text

/-!
# DNS messages

The packet helpers of `fake_dns.rs`: the parser of a query datagram and the two response
builders. Every byte access of the parser is bounds-checked by its type, so an out-of-range
index cannot be written down. The grammar of the queries is stated beside it as `QueryParts`,
and the parser accepts exactly the datagrams of that grammar.
-/

namespace NsProxy.FakeDns

/-- The name loop of `parse_query`, at offset `pos` with the labels read so far. It returns
the labels and the offset after the terminating zero. -/
def decodeName (data : List UInt8) (pos : Nat) (labels : List String) :
    Option (List String × Nat) :=
  if outside : data.length ≤ pos then none
  else
    let labelLen := data[pos].toNat
    if labelLen = 0 then some (labels, pos + 1)
    -- Compression pointers have one of the two top bits set.
    else if labelLen &&& 0xC0 ≠ 0 then none
    else if pos + 1 + labelLen > data.length then none
    else match Text.fromUtf8 (data.extract (pos + 1) (pos + 1 + labelLen)) with
      | none => none
      | some label => decodeName data (pos + 1 + labelLen) (labels ++ [label])
termination_by data.length - pos

/-- `parse_query`: the transaction id, the domain and the query type. -/
def parseQuery (data : List UInt8) : Option (UInt16 × String × UInt16) :=
  if short : data.length < 12 then none
  else
    let id := Bytes.u16FromBe data[0] data[1]
    let flags := Bytes.u16FromBe data[2] data[3]
    -- The QR bit marks a response.
    if flags &&& 0x8000 ≠ 0 then none
    else
      let qdcount := Bytes.u16FromBe data[4] data[5]
      if qdcount = 0 then none
      else match decodeName data 12 [] with
        | none => none
        | some (labels, pos) =>
          if short : pos + 4 > data.length then none
          else
            let qtype := Bytes.u16FromBe data[pos] data[pos + 1]
            some (id, ".".intercalate labels, qtype)

/-- `encode_name`: append a dotted name in wire format. -/
def encodeName (buf : List UInt8) (domain : String) : List UInt8 :=
  let buf := if domain = "" then buf
    else (Text.split domain '.').foldl
      (fun buf label => buf ++ [UInt8.ofNat (Text.asBytes label).length] ++ Text.asBytes label) buf
  buf ++ [0]

/-- `build_a_response`. -/
def buildAResponse (id : UInt16) (domain : String) (ip : Ipv4Addr) : List UInt8 :=
  let pkt := Bytes.be16 id ++ Bytes.be16 0x8180 ++ Bytes.be16 1 ++ Bytes.be16 1 ++
    Bytes.be16 0 ++ Bytes.be16 0
  let pkt := encodeName pkt domain ++ Bytes.be16 1 ++ Bytes.be16 1
  pkt ++ Bytes.be16 0xC00C ++ Bytes.be16 1 ++ Bytes.be16 1 ++ Bytes.be32 300 ++
    Bytes.be16 4 ++ ip.octets

/-- `build_empty_response`. -/
def buildEmptyResponse (id : UInt16) (domain : String) (qtype : UInt16) : List UInt8 :=
  let pkt := Bytes.be16 id ++ Bytes.be16 0x8180 ++ Bytes.be16 1 ++ Bytes.be16 0 ++
    Bytes.be16 0 ++ Bytes.be16 0
  encodeName pkt domain ++ Bytes.be16 qtype ++ Bytes.be16 1

/-! ## Names on the wire -/

/-- Labels in wire format, without the terminating zero. -/
def labelBytes (labels : List String) : List UInt8 :=
  labels.flatMap fun label => UInt8.ofNat (Text.asBytes label).length :: Text.asBytes label

/-- A label that the wire format can carry: 1 to 63 bytes. -/
def ValidLabel (label : String) : Prop :=
  1 ≤ (Text.asBytes label).length ∧ (Text.asBytes label).length ≤ 63

/-- The labels are written in their order, each behind its length. -/
theorem labelBytes_cons (label : String) (labels : List String) :
    labelBytes (label :: labels) =
      UInt8.ofNat (Text.asBytes label).length :: (Text.asBytes label ++ labelBytes labels) := by
  simp [labelBytes]

/-- The length byte of a short label is its length. -/
theorem toNat_lengthByte {length : Nat} (short : length < 256) :
    (UInt8.ofNat length).toNat = length := by
  rw [UInt8.toNat_ofNat']
  omega

/-- The encoder appends the wire form of the dotted parts and the root terminator. -/
theorem encodeName_eq (buf : List UInt8) (domain : String) :
    encodeName buf domain =
      buf ++ labelBytes (if domain = "" then [] else Text.split domain '.') ++ [0] := by
  have loop : ∀ (labels : List String) (buf : List UInt8),
      labels.foldl (fun buf label => buf ++ [UInt8.ofNat (Text.asBytes label).length] ++
        Text.asBytes label) buf = buf ++ labelBytes labels := by
    intro labels
    induction labels with
    | nil => simp [labelBytes]
    | cons label labels ih =>
      intro buf
      rw [List.foldl_cons, ih, labelBytes_cons]
      simp
  unfold encodeName
  split
  · simp [labelBytes]
  · rw [loop]

/-- The length byte test of the loop accepts exactly the lengths below 64. -/
theorem pointer_bits_clear (byte : UInt8) : byte.toNat &&& 0xC0 = 0 ↔ byte.toNat < 64 := by
  have bytes : ∀ value < 256, value &&& 0xC0 = 0 ↔ value < 64 := by decide +kernel
  exact bytes _ byte.toNat_lt

/-- The loop reads only the grammar: what it returns beyond its accumulator is a list of valid
labels that stands in the data, followed by the zero before the returned offset. -/
theorem decodeName_sound (data : List UInt8) (pos : Nat) (labels found : List String) (stop : Nat)
    (decoded : decodeName data pos labels = some (found, stop)) :
    ∃ read, found = labels ++ read ∧ (∀ label ∈ read, ValidLabel label) ∧
      data.drop pos = labelBytes read ++ 0 :: data.drop stop := by
  induction pos, labels using decodeName.induct data with
  | case1 pos labels outside =>
    rw [decodeName, dif_pos outside] at decoded
    contradiction
  | case2 pos labels inside labelLen zero =>
    rw [decodeName, dif_neg inside] at decoded
    simp only [labelLen] at zero
    simp only [zero, ↓reduceIte, Option.some.injEq, Prod.mk.injEq] at decoded
    obtain ⟨rfl, rfl⟩ := decoded
    refine ⟨[], by simp, by simp, ?_⟩
    rw [List.drop_eq_getElem_cons (by omega)]
    simp only [labelBytes, List.flatMap_nil, List.nil_append, List.cons.injEq, and_true]
    exact UInt8.toNat_inj.mp zero
  | case3 pos labels inside labelLen nonzero pointer =>
    rw [decodeName, dif_neg inside] at decoded
    simp only [labelLen] at nonzero pointer
    simp [nonzero, pointer] at decoded
  | case4 pos labels inside labelLen nonzero clear beyond =>
    rw [decodeName, dif_neg inside] at decoded
    simp only [labelLen] at nonzero clear beyond
    simp only [nonzero, ↓reduceIte, clear, beyond] at decoded
    contradiction
  | case5 pos labels inside labelLen nonzero clear within invalid =>
    rw [decodeName, dif_neg inside] at decoded
    simp only [labelLen] at nonzero clear within invalid
    simp only [nonzero, ↓reduceIte, clear, within, invalid] at decoded
    contradiction
  | case6 pos labels inside labelLen nonzero clear within label valid ih =>
    rw [decodeName, dif_neg inside] at decoded
    simp only [labelLen] at nonzero clear within valid ih
    simp only [nonzero, ↓reduceIte, clear, within, valid] at decoded
    obtain ⟨read, rfl, allValid, rest⟩ := ih decoded
    have bytes := (Text.fromUtf8_eq_some_iff _ _).mp valid
    have length : (Text.asBytes label).length = data[pos].toNat := by
      rw [bytes, List.extract_eq_take_drop]
      simp only [List.length_take, List.length_drop]
      omega
    have small : data[pos].toNat < 64 := (pointer_bits_clear _).mp (not_not.mp clear)
    refine ⟨label :: read, by simp, ?_, ?_⟩
    · intro other member
      rcases List.mem_cons.mp member with rfl | later
      · exact ⟨by omega, by omega⟩
      · exact allValid other later
    · rw [labelBytes_cons, length, UInt8.ofNat_toNat, List.drop_eq_getElem_cons (by omega)]
      simp only [List.cons_append, List.append_assoc, List.cons.injEq, true_and]
      rw [← rest, bytes, List.extract_eq_take_drop, Nat.add_sub_cancel_left]
      have pieces := List.take_append_drop data[pos].toNat (data.drop (pos + 1))
      rw [List.drop_drop] at pieces
      exact pieces.symm

/-- The loop reads every sequence of valid labels that stands in the data before a zero. -/
theorem decodeName_complete (data : List UInt8) (read : List String) (pos : Nat)
    (labels : List String) (rest : List UInt8) (valid : ∀ label ∈ read, ValidLabel label)
    (stands : data.drop pos = labelBytes read ++ 0 :: rest) :
    decodeName data pos labels = some (labels ++ read, pos + (labelBytes read).length + 1) := by
  induction read generalizing pos labels with
  | nil =>
    simp only [labelBytes, List.flatMap_nil, List.nil_append] at stands
    have inside : pos < data.length := by
      by_contra outside
      rw [List.drop_eq_nil_of_le (by omega)] at stands
      contradiction
    rw [List.drop_eq_getElem_cons inside] at stands
    have zero : data[pos] = 0 := (List.cons.inj stands).1
    rw [decodeName, dif_neg (by omega)]
    simp [zero, labelBytes]
  | cons label read ih =>
    obtain ⟨positive, short⟩ := valid label List.mem_cons_self
    rw [labelBytes_cons] at stands
    have inside : pos < data.length := by
      by_contra outside
      rw [List.drop_eq_nil_of_le (by omega)] at stands
      simp at stands
    rw [List.drop_eq_getElem_cons inside] at stands
    simp only [List.cons_append, List.append_assoc, List.cons.injEq] at stands
    obtain ⟨head, tail⟩ := stands
    have length : data[pos].toNat = (Text.asBytes label).length := by
      rw [head, toNat_lengthByte (by omega)]
    have clear : (Text.asBytes label).length &&& 0xC0 = 0 := by
      rw [← length]
      exact (pointer_bits_clear _).mpr (by omega)
    have total := congrArg List.length tail
    simp only [List.length_drop, List.length_append, List.length_cons] at total
    have slice : data.extract (pos + 1) (pos + 1 + (Text.asBytes label).length) =
        Text.asBytes label := by
      rw [List.extract_eq_take_drop, tail, Nat.add_sub_cancel_left, List.take_left]
    have next : data.drop (pos + 1 + (Text.asBytes label).length) =
        labelBytes read ++ 0 :: rest := by
      rw [← List.drop_drop, tail, List.drop_left]
    rw [decodeName, dif_neg (by omega)]
    simp only [length, clear, slice, Text.fromUtf8_asBytes, ne_eq, not_true_eq_false, ↓reduceIte,
      show (Text.asBytes label).length ≠ 0 by omega,
      show ¬ pos + 1 + (Text.asBytes label).length > data.length by omega]
    rw [ih _ _ (fun other member => valid other (List.mem_cons_of_mem _ member)) next,
      labelBytes_cons]
    simp only [List.append_assoc, List.singleton_append, List.length_cons, List.length_append,
      Option.some.injEq, Prod.mk.injEq, true_and]
    omega

/-! ## The grammar of queries -/

/-- The parts of a query datagram. -/
structure QueryParts where
  /-- The twelve bytes of the header. -/
  header : List UInt8
  /-- The labels of the name. -/
  labels : List String
  /-- The query type. -/
  qtype : UInt16
  /-- The two bytes of the class. -/
  qclass : List UInt8
  /-- What follows the first question. -/
  rest : List UInt8

namespace QueryParts

/-- The datagram with these parts. -/
def bytes (parts : QueryParts) : List UInt8 :=
  parts.header ++ (labelBytes parts.labels ++ 0 :: (Bytes.be16 parts.qtype ++
    (parts.qclass ++ parts.rest)))

/-- The transaction id. -/
def id (parts : QueryParts) : UInt16 :=
  Bytes.u16FromBe (parts.header.getD 0 0) (parts.header.getD 1 0)

/-- The parts of a query with at least one question. -/
structure WellFormed (parts : QueryParts) : Prop where
  /-- The header is complete. -/
  header : parts.header.length = 12
  /-- The top bit of the flags is clear: it marks a response. -/
  query : (parts.header.getD 2 0).toNat < 128
  /-- There is a question. -/
  asked : Bytes.u16FromBe (parts.header.getD 4 0) (parts.header.getD 5 0) ≠ 0
  /-- Each label has 1 to 63 bytes. -/
  labels : ∀ label ∈ parts.labels, ValidLabel label
  /-- The class is complete. -/
  qclass : parts.qclass.length = 2

end QueryParts

/-- The test of the response bit is a test of the first flag byte. -/
theorem response_bit_clear (high low : UInt8) :
    Bytes.u16FromBe high low &&& 0x8000 = 0 ↔ high.toNat < 128 := by
  have value := Bytes.toNat_u16FromBe high low
  have small := low.toNat_lt
  have bound := high.toNat_lt
  rw [← UInt16.toNat_inj, UInt16.toNat_and, value]
  show (high.toNat * 256 + low.toNat) &&& 2 ^ 15 = 0 ↔ _
  rw [Nat.and_two_pow, Nat.testBit_eq_decide_div_mod_eq]
  by_cases top : high.toNat < 128
  · have clear : (high.toNat * 256 + low.toNat) / 2 ^ 15 % 2 = 0 := by omega
    rw [clear]
    simp [top]
  · have set : (high.toNat * 256 + low.toNat) / 2 ^ 15 % 2 = 1 := by omega
    rw [set]
    simp [top]

/-- The name stands behind the header. -/
theorem drop_header {parts : QueryParts} (formed : parts.WellFormed) :
    parts.bytes.drop 12 = labelBytes parts.labels ++
      0 :: (Bytes.be16 parts.qtype ++ (parts.qclass ++ parts.rest)) := by
  rw [QueryParts.bytes, ← formed.header, List.drop_left]

/-- The name loop returns the labels of the parts, and stops before the query type. -/
theorem decodeName_parts {parts : QueryParts} (formed : parts.WellFormed) :
    ∃ pos, decodeName parts.bytes 12 [] = some (parts.labels, pos) ∧
      parts.bytes.drop pos = Bytes.be16 parts.qtype ++ (parts.qclass ++ parts.rest) := by
  have stands := drop_header formed
  refine ⟨_, decodeName_complete _ _ 12 [] _ formed.labels stands, ?_⟩
  rw [Nat.add_assoc, ← List.drop_drop, stands, ← List.drop_drop, List.drop_left]
  rfl

/-- The header bytes are read from the parts. -/
theorem getElem_header {parts : QueryParts} (formed : parts.WellFormed) (position : Nat)
    (early : position < 12) (inside : position < parts.bytes.length) :
    parts.bytes[position] = parts.header.getD position 0 := by
  have within : position < parts.header.length := by rw [formed.header]; exact early
  rw [List.getD_eq_getElem?_getD, List.getElem?_eq_getElem within]
  exact List.getElem_append_left within

/-- A well-formed query is accepted, with its own id, name and type. -/
theorem parseQuery_complete {parts : QueryParts} (formed : parts.WellFormed) :
    parseQuery parts.bytes = some (parts.id, ".".intercalate parts.labels, parts.qtype) := by
  obtain ⟨pos, decoded, after⟩ := decodeName_parts formed
  have bound := congrArg List.length after
  simp only [List.length_drop, List.length_append, Bytes.length_be16, formed.qclass] at bound
  have long : 12 ≤ parts.bytes.length := by
    have header := formed.header
    unfold QueryParts.bytes
    rw [List.length_append]
    omega
  have high : parts.bytes[pos] = (parts.qtype >>> 8).toUInt8 := by
    rw [List.drop_eq_getElem_cons (by omega)] at after
    exact (List.cons.inj after).1
  have low : parts.bytes[pos + 1] = parts.qtype.toUInt8 := by
    rw [List.drop_eq_getElem_cons (by omega), List.drop_eq_getElem_cons (by omega)] at after
    exact (List.cons.inj (List.cons.inj after).2).1
  have header (position : Nat) (early : position < 12) :=
    getElem_header formed position early (by omega)
  unfold parseQuery
  rw [dif_neg (by omega)]
  simp only [header 0 (by omega), header 1 (by omega), header 2 (by omega), header 3 (by omega),
    header 4 (by omega), header 5 (by omega), (response_bit_clear _ _).mpr formed.query,
    formed.asked, decoded, ne_eq, not_true_eq_false, ↓reduceIte]
  rw [dif_neg (by omega)]
  simp only [high, low, Bytes.u16FromBe_be16]
  rfl

/-- An accepted datagram is a well-formed query with the returned id, name and type. -/
theorem parseQuery_sound {data : List UInt8} {id qtype : UInt16} {domain : String}
    (accepted : parseQuery data = some (id, domain, qtype)) :
    ∃ parts : QueryParts, parts.WellFormed ∧ data = parts.bytes ∧ id = parts.id ∧
      domain = ".".intercalate parts.labels ∧ qtype = parts.qtype := by
  unfold parseQuery at accepted
  split at accepted
  · contradiction
  · rename_i long
    dsimp only at accepted
    have byte : ∀ position (early : position < 12),
        (data.take 12).getD position 0 = data[position] := by
      intro position early
      rw [List.getD_eq_getElem?_getD, List.getElem?_take_of_lt early,
        List.getElem?_eq_getElem (by omega), Option.getD_some]
    split at accepted
    · contradiction
    · rename_i request
      split at accepted
      · contradiction
      · rename_i asked
        split at accepted
        · contradiction
        · rename_i labels pos decoded
          split at accepted
          · contradiction
          · rename_i within
            simp only [Option.some.injEq, Prod.mk.injEq] at accepted
            obtain ⟨sameId, sameDomain, sameType⟩ := accepted
            obtain ⟨read, same, valid, stands⟩ := decodeName_sound _ _ _ _ _ decoded
            rw [List.nil_append] at same
            rw [← same] at valid stands
            refine ⟨⟨data.take 12, labels, qtype, (data.drop (pos + 2)).take 2,
              data.drop (pos + 4)⟩, ⟨?_, ?_, ?_, valid, ?_⟩, ?_, ?_, sameDomain.symm, rfl⟩
            · rw [List.length_take]
              omega
            · rw [byte 2 (by omega)]
              exact (response_bit_clear _ _).mp (not_not.mp request)
            · rw [byte 4 (by omega), byte 5 (by omega)]
              exact asked
            · rw [List.length_take, List.length_drop]
              omega
            · have tail := List.take_append_drop 2 (data.drop (pos + 2))
              rw [List.drop_drop] at tail
              have typed : data.drop pos = Bytes.be16 qtype ++ data.drop (pos + 2) := by
                rw [← sameType, Bytes.be16_u16FromBe, List.drop_eq_getElem_cons (by omega),
                  List.drop_eq_getElem_cons (by omega)]
                rfl
              show data = data.take 12 ++ _
              rw [tail, ← typed, ← stands, List.take_append_drop]
            · show id = Bytes.u16FromBe _ _
              rw [byte 0 (by omega), byte 1 (by omega), sameId]

/-- A datagram has the parts of at most one well-formed query. -/
theorem QueryParts.bytes_injective {left right : QueryParts} (leftFormed : left.WellFormed)
    (rightFormed : right.WellFormed) (same : left.bytes = right.bytes) : left = right := by
  obtain ⟨leftPos, leftNamed, leftAfter⟩ := decodeName_parts leftFormed
  obtain ⟨rightPos, rightNamed, rightAfter⟩ := decodeName_parts rightFormed
  rw [same, rightNamed, Option.some.injEq, Prod.mk.injEq] at leftNamed
  obtain ⟨labels, position⟩ := leftNamed
  have headers := (List.append_inj same (leftFormed.header.trans rightFormed.header.symm)).1
  rw [same, ← position, rightAfter] at leftAfter
  obtain ⟨types, tails⟩ := List.append_inj leftAfter rfl
  obtain ⟨classes, rests⟩ := List.append_inj tails (rightFormed.qclass.trans leftFormed.qclass.symm)
  have qtype : right.qtype = left.qtype := by
    rw [← Bytes.u16FromBe_be16 left.qtype, ← Bytes.u16FromBe_be16 right.qtype]
    have words := List.cons.inj types
    rw [words.1, (List.cons.inj words.2).1]
  cases left
  cases right
  rw [QueryParts.mk.injEq]
  exact ⟨headers, labels.symm, qtype.symm, classes.symm, rests.symm⟩

/-- `parse_query` accepts exactly the well-formed queries and returns their id, name and type;
no datagram has the parts of two queries, and every other datagram is refused. -/
theorem parse_query_grammar (data : List UInt8) :
    (∀ id domain qtype, parseQuery data = some (id, domain, qtype) ↔
      ∃ parts : QueryParts, parts.WellFormed ∧ data = parts.bytes ∧ id = parts.id ∧
        domain = ".".intercalate parts.labels ∧ qtype = parts.qtype) ∧
    (∀ left right : QueryParts, left.WellFormed → right.WellFormed → data = left.bytes →
      data = right.bytes → left = right) ∧
    ((¬ ∃ parts : QueryParts, parts.WellFormed ∧ data = parts.bytes) → parseQuery data = none) := by
  refine ⟨?_, ?_, ?_⟩
  · intro id domain qtype
    constructor
    · exact parseQuery_sound
    · rintro ⟨parts, formed, rfl, rfl, rfl, rfl⟩
      exact parseQuery_complete formed
  · intro left right leftFormed rightFormed first second
    exact QueryParts.bytes_injective leftFormed rightFormed (first.symm.trans second)
  · intro none
    cases result : parseQuery data with
    | none => rfl
    | some query =>
      obtain ⟨parts, formed, same, -⟩ := parseQuery_sound result
      exact absurd ⟨parts, formed, same⟩ none

end NsProxy.FakeDns
